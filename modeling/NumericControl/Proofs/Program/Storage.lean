import NumericControl.Proofs.Line.Stripped
import NumericControl.Proofs.Program.Readings

/-!
# Programs read from the lines that were kept

The lines of a program are kept as they were read, without byte order marks and line ends and
without the words that were removed.  A program that reads the kept lines of another one, with the
same configuration and the same decisions about removals, follows it: it has the same states and
keeps the same lines, and nothing is removed a second time.

## Main definitions

* `IsOneLine` : a text in which only the end can be a line end.
* `Token.mute` : a token without the text of its message.
* `Reading.Restores` : a reading that says what another one has kept.

## Main results

* `exists_interpret_of_handled` : what a kept line means.
* `Program.follows_lastLines` : a program that reads the kept lines follows.
-/

namespace NumericControl

/-- The characters of a text before its end are no line ends. -/
def IsOneLine (text : String) : Prop :=
  ∀ c ∈ Text.dropTailWhile Text.isLineEnd text.toList, Text.isLineEnd c = false

instance (text : String) : Decidable (IsOneLine text) :=
  List.decidableBAll (fun c => Text.isLineEnd c = false) _

/-- The token without the text of its message. -/
def Token.mute (token : Token) : Token :=
  match token.body with
  | .comment _ => { token with body := .comment "" }
  | _ => token

namespace Line

variable {text : String} {line : Line}

/-- A line that is kept as it is can be read again. -/
theorem read_text (h : read text = .ok line) (hend : IsOneLine text) :
    read line.text = .ok line := by
  have hsource : sourceOf line.text = line.source := by
    refine sourceOf_ofList (fun c hc => hend c ?_) fun c hc hmark => ?_
    · rw [source_of_read h, sourceOf, List.mem_filter] at hc
      exact hc.1
    · exact byteOrderMark_not_mem_source h (hmark ▸ hc)
  rw [read_eq_ok_iff, hsource, source_of_read h]
  exact read_eq_ok_iff.mp h

/-- A message does not lose its text when it is respaced. -/
theorem respaced_ne_empty {message : String} (h : line.message? = some message)
    (hne : message ≠ "") : Text.respaced message ≠ "" := by
  obtain ⟨chars, hchars, rfl⟩ := Option.map_eq_some_iff.mp h
  obtain ⟨comment, -, hcomment⟩ := List.exists_of_findSome?_eq_some hchars
  obtain ⟨m, s, g, rest, -, -, -, -, rfl⟩ := messageOf?_eq_some_iff.mp hcomment
  intro hempty
  have hnil : Text.respace (Text.trimChars rest) = [] := by
    have hlist := congrArg String.toList hempty
    simpa [Text.respaced] using hlist
  rw [Text.trimChars_eq_nil_of_respace hnil] at hne
  exact hne rfl

end Line

/-- The token of a message is the same but for its text when the message is respaced. -/
theorem map_mute_messageTokens {line : Line} (number : Nat) :
    (messageTokens number (line.message?.map Text.respaced)).map Token.mute =
      (messageTokens number line.message?).map Token.mute := by
  cases hmessage : line.message? with
  | none => rfl
  | some message =>
    by_cases hne : message = ""
    · rw [hne]
      rfl
    · rw [Option.map_some, messageTokens_of_ne hne,
        messageTokens_of_ne (Line.respaced_ne_empty hmessage hne)]
      rfl

section

variable {config : Config} {operator operator' : Operator} {s : State} {line : Line} {text : String}
  {result : LineResult}

/-- An operator who decides alike keeps the same words. -/
theorem BlockContext.keeps_of_strips (h : operator'.strips? = operator.strips?) (line' : Line) :
    (blockContext config operator s line).Keeps (blockContext config operator' s line') := by
  refine ⟨rfl, rfl, rfl, rfl, fun number hnumber => ?_⟩
  rw [← hnumber]
  unfold strips blockContext
  rw [h]

/-- A line without removed words means the same to an operator who decides alike. -/
theorem exists_interpret_of_not_stripped (hoperator : operator'.strips? = operator.strips?)
    (h : interpret config operator s line = .ok result) (hhandled : result.handled = true)
    (hstripped : result.stripped = []) :
    result.line = line.text ∧ ∃ result', interpret config operator' s line = .ok result' ∧
      result'.handled = true ∧ result'.state = result.state ∧ result'.line = result.line ∧
      result'.stripped = [] ∧ result'.tokens = result.tokens := by
  cases interpret_eq_ok_iff.mp h with
  | ended | passedOver => cases hhandled
  | comment hend hcontent =>
    exact ⟨rfl, _, interpret_eq_ok_iff.mpr (.comment hend hcontent), rfl, rfl, rfl, rfl, rfl⟩
  | demarcation hend hcontent =>
    exact ⟨rfl, _, interpret_eq_ok_iff.mpr (.demarcation hend hcontent), rfl, rfl, rfl, rfl, rfl⟩
  | @block items ex tokens next tools hend hcontent hex hrun =>
    have hnone : ex.stripped = [] := hstripped
    have hremoves := hnone
    rw [stripped_of_executionOf hex] at hremoves
    have hkept : (line.words.filter fun w => !(blockContext config operator s line).removes w) =
        line.words := by
      rw [List.filter_eq_self]
      intro w hw
      have hnot := List.filter_eq_nil_iff.mp hremoves w hw
      simpa using hnot
    have hline : String.ofList (if ex.stripped.isEmpty then line.source
        else removeWords line.source ex.stripped) = line.text := by
      rw [hnone]
      rfl
    obtain ⟨rest, rfl, hresult'⟩ := interpretBlock_of_keeps
      (BlockContext.keeps_of_strips hoperator line) (by rw [hkept]) hex hrun
    have haccepted := (interpret_block hcontent).trans ((if_neg (by simp [hend])).trans hresult')
    exact ⟨hline, _, haccepted, rfl, rfl, hline.symm, rfl, rfl⟩

/-- What a line that belongs to the program is kept as can be read again.  To an operator who
decides alike it means the same, but for the text of the message where words were removed, and
nothing is removed from it. -/
theorem exists_interpret_of_handled (hoperator : operator'.strips? = operator.strips?)
    (hread : Line.read text = .ok line) (hend : IsOneLine text)
    (h : interpret config operator s line = .ok result) (hhandled : result.handled = true) :
    ∃ line' result', Line.read result.line = .ok line' ∧
      interpret config operator' s line' = .ok result' ∧ result'.handled = true ∧
      result'.state = result.state ∧ result'.line = result.line ∧ result'.stripped = [] ∧
      result'.tokens.map Token.mute = result.tokens.map Token.mute ∧
      (result.stripped = [] → result'.tokens = result.tokens) := by
  by_cases hstripped : result.stripped = []
  · obtain ⟨hline, result', hresult', hhandled', hstate, hkept, hnone, htokens⟩ :=
      exists_interpret_of_not_stripped hoperator h hhandled hstripped
    refine ⟨line, result', ?_, hresult', hhandled', hstate, hkept, hnone, by rw [htokens],
      fun _ => htokens⟩
    rw [hline]
    exact Line.read_text hread hend
  · obtain ⟨line', result', rest, hread', hresult', hstate, hkept, hhandled', hnone, htokens,
      htokens'⟩ := exists_interpret_of_stripped hread (BlockContext.keeps_of_strips hoperator) h
        hstripped
    refine ⟨line', result', hread', hresult', hhandled', hstate, hkept, hnone, ?_,
      fun hempty => absurd hempty hstripped⟩
    rw [htokens, htokens', List.map_append, List.map_append, map_mute_messageTokens]

end

/-- A reading that says what another one has kept: it keeps the same line, without any removal, and
it adds the same tokens, but for the text of the message where words were removed. -/
structure Reading.Restores (r r' : Reading) : Prop where
  entry : r'.entry? = r.entry?
  stripped : r'.after.stripped = []
  muted : r'.tokens.map Token.mute = r.tokens.map Token.mute
  tokens : r.after.stripped = [] → r'.tokens = r.tokens

namespace Program

variable {setup setup' : Setup} {p q p' : Program} {text : String}

/-- The kept line of a line that belongs to a program belongs to every program in the same state,
and what it adds restores what the line has added. -/
theorem exists_readLine_lastLine (hconfig : setup'.config = setup.config)
    (hoperator : setup'.operator.strips? = setup.operator.strips?) (hend : IsOneLine text)
    (hstate : p'.state = p.state) (h : p.readLine setup text = .ok (q, true)) :
    ∃ q', p'.readLine setup' q.lastLine = .ok (q', true) ∧ q'.state = q.state ∧
      Reading.Restores ⟨p, text, .ok (q, true)⟩ ⟨p', q.lastLine, .ok (q', true)⟩ := by
  rcases readLine_eq_ok_iff.mp h with ⟨-, -, hhandled⟩ |
    ⟨hrunning, line, result, hread, hresult, rfl, hhandled⟩
  · cases hhandled
  obtain ⟨line', result', hread', hresult', hhandled', hnext, hkept, hnone, hmuted, htokens⟩ :=
    exists_interpret_of_handled hoperator hread hend hresult hhandled
  rw [← hstate] at hrunning hresult'
  rw [← hconfig] at hresult'
  have hline' : p'.readLine setup' (p.accept result).lastLine = .ok (p'.accept result', true) :=
    readLine_eq_ok_iff.mpr (.inr ⟨hrunning, line', result', hread', hresult', rfl, hhandled'⟩)
  refine ⟨p'.accept result', hline', hnext, ?_⟩
  have hadds (p : Program) (result : LineResult) (text : String) :
      Reading.tokens ⟨p, text, .ok (p.accept result, true)⟩ = result.tokens := by
    simp [Reading.tokens, Reading.after, accept, ← Array.length_toList]
  refine ⟨?_, hnone, by rw [hadds, hadds, hmuted], fun hempty => ?_⟩
  · simp only [Reading.entry?, Reading.isHandled, Reading.after, accept, hstate, hnext, hkept]
  · rw [hadds, hadds]
    exact htokens hempty

/-- A program that reads the kept lines of another one follows it, from every program in the same
state. -/
theorem follows_lastLines (hconfig : setup'.config = setup.config)
    (hoperator : setup'.operator.strips? = setup.operator.strips?) {lines : List String}
    (hends : ∀ text ∈ lines, IsOneLine text) (hstate : p'.state = p.state) :
    Follows (fun p p' => p'.state = p.state) Reading.Restores setup setup' p p' lines
      (p.standIns setup (fun r => r.after.lastLine) lines) := by
  refine follows_standIns hstate ?_ ?_
  · intro p q p' text hstate hline
    exact hstate.trans (sameRecord_of_not_handled hline).state.symm
  · intro p q p' text htext hstate hline
    obtain ⟨q', hline', hnext, hrestores⟩ :=
      exists_readLine_lastLine hconfig hoperator (hends text htext) hstate hline
    exact ⟨q', hline', hnext, hrestores⟩

end Program

end NumericControl
