import NumericControl.Proofs.Block.Kept
import NumericControl.Proofs.Execution.Origin
import NumericControl.Proofs.Execution.Restatement
import NumericControl.Proofs.Line.Removal

/-!
# Lines that are kept without some of their words

A line from which words were removed is kept without them, and it is this line that goes to the
machine.  Where the words that were kept are kept again, it is accepted with the same state after it
and with the same tokens, but for the text of its message: the whole line is respaced when words are
removed.

## Main definitions

* `Config.executing` : a configuration without removals.

## Main results

* `executionOf_of_keeps` : the execution of a line without the removed words.
* `exists_interpret_of_stripped` : what the kept line means.
* `interpret_executing_of_stripped` : it means the same exactly if the message has only single
  spaces.
-/

namespace NumericControl

variable {config config' : Config} {operator operator' : Operator} {s : State} {line line' : Line}
  {text : String} {ex : Execution} {result : LineResult}

/-- The words that an execution removes are those that its context removes. -/
theorem stripped_of_executionOf (h : executionOf config operator s line = .ok ex) :
    ex.stripped = line.words.filter (blockContext config operator s line).removes := by
  obtain ⟨b, owner, hb, -, rfl⟩ := executionOf_eq_ok_iff.mp h
  obtain ⟨-, -, -, rfl⟩ := Block.addAll_eq_ok_iff.mp hb
  rfl

/-- An execution is one of its line, with the message of that. -/
theorem context_of_executionOf (h : executionOf config operator s line = .ok ex) :
    ex.toBlockContext = blockContext config operator s line ∧ ex.message = line.message? := by
  obtain ⟨b, owner, -, -, rfl⟩ := executionOf_eq_ok_iff.mp h
  exact ⟨rfl, rfl⟩

/-- A line that has the words that are kept, and no others, has the same execution in its own text
and with its own message. -/
theorem executionOf_of_keeps
    (hkeeps : (blockContext config operator s line).Keeps (blockContext config' operator' s line'))
    (hkeys : line'.words.map Word.key = (line.words.filter fun w =>
      !(blockContext config operator s line).removes w).map Word.key)
    (h : executionOf config operator s line = .ok ex) :
    executionOf config' operator' s line' =
      .ok ((ex.relocate line'.source []).restate config' operator' line'.message?) := by
  obtain ⟨b, owner, hb, howner, rfl⟩ := executionOf_eq_ok_iff.mp h
  have hb' := Block.addAll_of_keeps hkeeps hkeys hb
  have hsame : SameOutcome (b.owner (blockContext config operator s line))
      (({ b with stripped := [] } : Block).owner (blockContext config' operator' s line')) :=
    Block.owner_congr rfl rfl rfl rfl
  obtain ⟨_, howner', rfl⟩ := hsame.exists_ok howner
  exact executionOf_eq_ok_iff.mpr ⟨_, owner, hb', howner', rfl⟩

/-- An accepted line from which words are removed is a block before the program end. -/
theorem exists_execution_of_stripped (h : interpret config operator s line = .ok result)
    (hstripped : result.stripped ≠ []) :
    s.programEnd = false ∧ (∃ items, line.content = .block items) ∧
      result.line = String.ofList (removeWords line.source result.stripped) ∧
      ∃ ex tools, executionOf config operator s line = .ok ex ∧ ex.stripped = result.stripped ∧
        ex.run = .ok (result.tokens, result.state, tools) := by
  cases interpret_eq_ok_iff.mp h with
  | ended | passedOver | comment | demarcation => exact absurd rfl hstripped
  | @block items ex tokens next tools hend hcontent hex hrun =>
    have hsome : ex.stripped.isEmpty = false := List.isEmpty_eq_false_iff.mpr hstripped
    exact ⟨hend, ⟨items, hcontent⟩, by simp only [hsome]; rfl, ex, tools, hex, rfl, hrun⟩

/-- A line that has the words that are kept, and no others, is accepted: nothing is removed from it,
the state after it is the same, and so are its tokens behind that of the message. -/
theorem interpretBlock_of_keeps
    (hkeeps : (blockContext config operator s line).Keeps (blockContext config' operator' s line'))
    (hkeys : line'.words.map Word.key = (line.words.filter fun w =>
      !(blockContext config operator s line).removes w).map Word.key)
    (hex : executionOf config operator s line = .ok ex) {tokens : List Token} {next : State}
    {tools : List Int} (hrun : ex.run = .ok (tokens, next, tools)) :
    ∃ rest, tokens = messageTokens (s.lineNumber + 1) line.message? ++ rest ∧
      interpretBlock config' operator' s line' = .ok
        { tokens := messageTokens (s.lineNumber + 1) line'.message? ++ rest
          state := next
          line := line'.text
          warnings := toolWarnings operator' tools } := by
  have hex' := executionOf_of_keeps hkeeps hkeys hex
  obtain ⟨_, hrun', rfl⟩ := (ex.run_relocate line'.source []).exists_ok hrun
  obtain ⟨hcontext, hsays⟩ := context_of_executionOf hex
  have hdialect : config'.dialect = (ex.relocate line'.source []).config.dialect := by
    have hconfig : (ex.relocate line'.source []).config = config :=
      congrArg BlockContext.config hcontext
    rw [hconfig]
    exact hkeeps.dialect
  obtain ⟨rest, htokens, hrestated⟩ :=
    Execution.run_restate _ operator' line'.message? (fun h => hdialect ▸ h) hrun'
  have hnumber : (ex.relocate line'.source []).lineNumber = s.lineNumber + 1 :=
    congrArg BlockContext.lineNumber hcontext
  have hsays' : (ex.relocate line'.source []).message = line.message? := hsays
  rw [hnumber, hsays'] at htokens
  rw [hnumber] at hrestated
  exact ⟨rest, htokens, bind_eq_ok_iff.mpr ⟨_, hex', bind_eq_ok_iff.mpr ⟨_, hrestated, rfl⟩⟩⟩

/-- The line that is kept when words are removed can be read again.  Where the words that were kept
are kept again, nothing is removed from it, the state after it is the same, and so are its tokens
behind that of the message. -/
theorem exists_interpret_of_stripped (hread : Line.read text = .ok line)
    (hkeeps : ∀ line', (blockContext config operator s line).Keeps
      (blockContext config' operator' s line'))
    (h : interpret config operator s line = .ok result) (hstripped : result.stripped ≠ []) :
    ∃ line' result' rest, Line.read result.line = .ok line' ∧
      interpret config' operator' s line' = .ok result' ∧ result'.state = result.state ∧
      result'.line = result.line ∧ result'.handled = true ∧ result'.stripped = [] ∧
      result.tokens = messageTokens (s.lineNumber + 1) line.message? ++ rest ∧
      result'.tokens =
        messageTokens (s.lineNumber + 1) (line.message?.map Text.respaced) ++ rest := by
  obtain ⟨hend, ⟨items, hblock⟩, hline, ex, tools, hex, hwords, hrun⟩ :=
    exists_execution_of_stripped h hstripped
  rw [← hwords, stripped_of_executionOf hex] at hline
  obtain ⟨line', items', hread', hblock', hsource, hwritten, hmessage⟩ :=
    Line.exists_read_removeWords hread hblock (blockContext config operator s line).removes
  obtain ⟨rest, htokens, hresult'⟩ :=
    interpretBlock_of_keeps (hkeeps line') (map_key_of_map_written hwritten) hex hrun
  have hkept : line'.text = result.line := by rw [hline, ← hsource, Line.text]
  rw [hmessage, hkept] at hresult'
  refine ⟨line', ⟨_, result.state, result.line, true, toolWarnings operator' tools, []⟩, rest,
    by rw [hline]; exact hread', ?_, rfl, rfl, rfl, rfl, htokens, rfl⟩
  rw [interpret_block hblock', hend, if_neg Bool.false_ne_true, hresult']

/-- The configuration in which no code is removed. -/
def Config.executing (config : Config) : Config :=
  { config with toolChange := .execute, mist := .execute, flood := .execute }

/-- Where no code is removed every word is kept. -/
theorem BlockContext.keeps_executing (config : Config) (operator operator' : Operator) (s : State)
    (line line' : Line) :
    (blockContext config operator s line).Keeps
      (blockContext config.executing operator' s line') := by
  refine ⟨rfl, rfl, rfl, rfl, fun number _ => ?_⟩
  have hpolicy : config.executing.policy number = .execute := by
    unfold Config.policy Config.executing
    split <;> [rfl; split <;> [rfl; split <;> rfl]]
  rw [strips, blockContext, hpolicy]

/-- A line from which words were removed means what was interpreted exactly if its message has no
other white space than single spaces.  The line that is kept can be read again, and it is accepted
without any removal, with the same state after it and with the same tokens behind that of the
message; but the message is respaced. -/
theorem interpret_executing_of_stripped (config : Config) (operator operator' : Operator)
    (s : State) {text : String} {line : Line} {result : LineResult}
    (hread : Line.read text = .ok line) (h : interpret config operator s line = .ok result)
    (hstripped : result.stripped ≠ []) :
    ∃ line' result' rest, Line.read result.line = .ok line' ∧
      interpret config.executing operator' s line' = .ok result' ∧
      result'.state = result.state ∧
      result.tokens = messageTokens (s.lineNumber + 1) line.message? ++ rest ∧
      result'.tokens =
        messageTokens (s.lineNumber + 1) (line.message?.map Text.respaced) ++ rest ∧
      (result'.tokens = result.tokens ↔ line.message?.map Text.respaced = line.message?) := by
  obtain ⟨line', result', rest, hread', hresult', hstate, -, -, -, htokens, htokens'⟩ :=
    exists_interpret_of_stripped hread
      (BlockContext.keeps_executing config operator operator' s line) h hstripped
  refine ⟨line', result', rest, hread', hresult', hstate, htokens, htokens', ?_⟩
  rw [htokens, htokens', List.append_left_inj, messageTokens_map_eq_iff rfl]

/-- The text of a message. -/
def Token.messageText? (token : Token) : Option String :=
  match token.body with
  | .comment text => some text
  | _ => none

/-- What interpreting a text in the first state yields: the line that is kept, how many words were
removed from it, and the messages. -/
def messagesOf? (config : Config) (text : String) : Option (String × Nat × List (Option String)) :=
  (Line.read text).toOption.bind fun line =>
    (interpret config {} .initial line).toOption.map fun result =>
      (result.line, result.stripped.length, result.tokens.map Token.messageText?)

theorem exists_interpret_of_messagesOf? {kept : String} {count : Nat}
    {messages : List (Option String)} (h : messagesOf? config text = some (kept, count, messages)) :
    ∃ line result, Line.read text = .ok line ∧
      interpret config {} .initial line = .ok result ∧ result.line = kept ∧
      result.stripped.length = count ∧ result.tokens.map Token.messageText? = messages := by
  obtain ⟨line, hline, hresult⟩ := Option.bind_eq_some_iff.mp h
  obtain ⟨result, hinterpret, heq⟩ := map_toOption_eq_some_iff.mp hresult
  simp only [Prod.mk.injEq] at heq
  obtain ⟨hkept, hcount, hmessages⟩ := heq
  exact ⟨line, result, toOption_eq_some_iff.mp hline, hinterpret, hkept, hcount, hmessages⟩

/-- A configuration in which M6 is removed. -/
def withoutToolChange : Config :=
  { toolChange := .strip }

/-- A line from which M6 is removed, with two spaces in its message. -/
def spacedMessage : String :=
  "T2 M6 (MSG,a  b)"

private theorem messagesOf?_spacedMessage :
    messagesOf? withoutToolChange spacedMessage =
      some ("T2 (MSG,a b)", 1, [some "a  b", none]) := by
  decide +kernel

theorem interpret_executing_spacedMessage :
    ∃ line result, Line.read spacedMessage = .ok line ∧
      interpret withoutToolChange {} .initial line = .ok result ∧ result.stripped ≠ [] ∧
      ∃ line' result' rest, Line.read result.line = .ok line' ∧
        interpret withoutToolChange.executing {} .initial line' = .ok result' ∧
        result'.state = result.state ∧
        result.tokens = messageTokens 1 line.message? ++ rest ∧
        result'.tokens = messageTokens 1 (line.message?.map Text.respaced) ++ rest ∧
        (result'.tokens = result.tokens ↔ line.message?.map Text.respaced = line.message?) := by
  obtain ⟨line, result, hread, h, -, hcount, -⟩ :=
    exists_interpret_of_messagesOf? messagesOf?_spacedMessage
  have hstripped : result.stripped ≠ [] := by
    rw [← List.length_pos_iff, hcount]
    decide
  exact ⟨line, result, hread, h, hstripped,
    interpret_executing_of_stripped withoutToolChange {} {} .initial hread h hstripped⟩

/-- The message of the line that is kept is not the one that was interpreted. -/
theorem not_sameTokens_spacedMessage :
    ∃ line result line' result', Line.read spacedMessage = .ok line ∧
      interpret withoutToolChange {} .initial line = .ok result ∧ result.stripped ≠ [] ∧
      Line.read result.line = .ok line' ∧
      interpret withoutToolChange.executing {} .initial line' = .ok result' ∧
      result'.tokens ≠ result.tokens := by
  have hmessages' : messagesOf? withoutToolChange.executing "T2 (MSG,a b)" =
      some ("T2 (MSG,a b)", 0, [some "a b", none]) := by decide +kernel
  obtain ⟨line, result, hread, h, hkept, hcount, htexts⟩ :=
    exists_interpret_of_messagesOf? messagesOf?_spacedMessage
  obtain ⟨line', result', hread', h', -, -, htexts'⟩ := exists_interpret_of_messagesOf? hmessages'
  have hstripped : result.stripped ≠ [] := by
    rw [← List.length_pos_iff, hcount]
    decide
  refine ⟨line, result, line', result', hread, h, hstripped, by rw [hkept]; exact hread', h', ?_⟩
  intro hsame
  rw [hsame, htexts] at htexts'
  revert htexts'
  decide

end NumericControl
