import NumericControl.Proofs.Execution.Origin
import NumericControl.Proofs.Execution.Stages

/-!
# Values that tokens borrow from the modes

A tool length offset without an H word is that of the tool in force, and data for a work coordinate
system that no P word names go to the one in force.  Both are taken from the state before the line,
although a T or M61 word and a coordinate system code on the same line are executed earlier.

## Main definitions

* `Line.Lacks`, `Line.NamesNoSystem` : the words that a line leaves out.
* `Borrows` : tokens that complete a line from a state.

## Main results

* `Execution.stage_of_isBorrowed`, `Execution.cases_of_isBorrowed` : the two stages that borrow,
  and what they yield.
* `borrows_interpret` : tokens borrow from the state before the line, and from the state after it
  exactly if the borrowed values are the same in both.
* `borrows_interpret_of_keeps` : they are if no word on the line changes them.
-/

namespace NumericControl

namespace Line

/-- The line has no word of a letter. -/
def Lacks (line : Line) (letter : Char) : Prop :=
  ∀ w ∈ line.words, w.letter ≠ letter

/-- The line names no work coordinate system: it has no P word, or one without a positive whole
part. -/
def NamesNoSystem (line : Line) : Prop :=
  ∀ w ∈ line.words, w.letter = 'P' → ∀ n, Number.truncate w.value = .ok n → n ≤ 0

end Line

namespace Token

/-- The number of a tool length offset. -/
def offsetNumber? (t : Token) : Option Int :=
  match t.body with
  | .toolOffset number => some number
  | _ => none

/-- The work coordinate system whose data a token sets. -/
def dataSlot? (t : Token) : Option Int :=
  match t.command, t.body with
  | .g10, .coordinates _ slot => some slot
  | _, _ => none

theorem offsetNumber?_eq_some_iff {t : Token} {number : Int} :
    t.offsetNumber? = some number ↔ t.body = .toolOffset number := by
  unfold offsetNumber?
  split <;> simp_all

theorem dataSlot?_eq_some_iff {t : Token} {slot : Int} :
    t.dataSlot? = some slot ↔ t.command = .g10 ∧ ∃ target, t.body = .coordinates target slot := by
  unfold dataSlot?
  split
  · simp_all
  · rename_i hne
    simp only [reduceCtorEq, false_iff]
    rintro ⟨hcommand, target, hbody⟩
    exact hne target slot hcommand hbody

end Token

/-- The tokens of a line take from a state the values that the line leaves out. -/
structure Borrows (line : Line) (tokens : List Token) (s : State) : Prop where
  tool : line.Lacks 'H' → ∀ t ∈ tokens, ∀ number ∈ t.offsetNumber?, number = s.tool
  coordinateSystem : line.NamesNoSystem → ∀ t ∈ tokens, ∀ slot ∈ t.dataSlot?,
    slot = s.coordinateSystem

/-- A line without tokens borrows nothing. -/
theorem borrows_nil (line : Line) (s : State) : Borrows line [] s where
  tool _ _ ht := absurd ht List.not_mem_nil
  coordinateSystem _ _ ht := absurd ht List.not_mem_nil

/-- Tokens that borrow from one state borrow from another exactly if what they borrow is the same
in both. -/
theorem Borrows.iff {line : Line} {tokens : List Token} {s s' : State}
    (h : Borrows line tokens s) :
    Borrows line tokens s' ↔
      (line.Lacks 'H' → (∃ t ∈ tokens, t.offsetNumber?.isSome) → s'.tool = s.tool) ∧
        (line.NamesNoSystem → (∃ t ∈ tokens, t.dataSlot?.isSome) →
          s'.coordinateSystem = s.coordinateSystem) := by
  constructor
  · intro h'
    refine ⟨?_, ?_⟩
    · rintro hlacks ⟨t, ht, hnumber⟩
      obtain ⟨number, hnumber⟩ := Option.isSome_iff_exists.mp hnumber
      exact (h'.tool hlacks t ht number hnumber).symm.trans (h.tool hlacks t ht number hnumber)
    · rintro hnames ⟨t, ht, hslot⟩
      obtain ⟨slot, hslot⟩ := Option.isSome_iff_exists.mp hslot
      exact Int.ofNat_inj.mp ((h'.coordinateSystem hnames t ht slot hslot).symm.trans
        (h.coordinateSystem hnames t ht slot hslot))
  · rintro ⟨htool, hsystem⟩
    refine ⟨fun hlacks t ht number hnumber => ?_, fun hnames t ht slot hslot => ?_⟩
    · rw [htool hlacks ⟨t, ht, Option.isSome_of_mem hnumber⟩]
      exact h.tool hlacks t ht number hnumber
    · rw [hsystem hnames ⟨t, ht, Option.isSome_of_mem hslot⟩]
      exact h.coordinateSystem hnames t ht slot hslot

namespace Token.Body

/-- Whether a body can hold a value that the line leaves out. -/
def isBorrowed : Body → Bool
  | .toolOffset _ | .coordinates _ _ => true
  | _ => false

end Token.Body

namespace Execution

variable {ex : Execution}

/-! ### The stages that borrow -/

private theorem isBorrowed_eq_false_of_isMoveToken {mode : MotionMode} {t : Token}
    (h : ex.IsMoveToken mode t) : t.body.isBorrowed = false := by
  cases h <;> rfl

private theorem isBorrowed_eq_false_of_motionStage {t : Token} (h : ex.motionStage = .ok (some t)) :
    t.body.isBorrowed = false := by
  unfold motionStage at h
  split at h
  · cases h
    rfl
  · split at h
    · exact isBorrowed_eq_false_of_isMoveToken (isMoveToken_of_move h)
    · cases h

/-- Only the stages of tool length and positioning yield values that a line can leave out. -/
theorem stage_of_isBorrowed {tokens : List Token} (h : ex.tokensOf stages = .ok tokens) :
    ∀ t ∈ tokens, t.body.isBorrowed = true →
      ex.toolLengthStage = .ok (some t) ∨ ex.positioningStage = .ok (some t) := by
  refine forall_mem_of_tokensOf (fun stage hstage t ht hborrowed => ?_) h
  have habsurd {P : Prop} (hbody : t.body.isBorrowed = false) : P := by
    rw [hbody] at hborrowed
    cases hborrowed
  simp only [stages, List.mem_cons, List.not_mem_nil, or_false] at hstage
  rcases hstage with rfl | rfl | rfl | rfl | rfl | rfl | rfl | rfl | rfl | rfl | rfl | rfl | rfl |
    rfl | rfl | rfl | rfl | rfl | rfl | rfl | rfl | rfl | rfl | rfl | rfl | rfl
  any_goals exact habsurd (forall_of_map (P := fun t => t.body.isBorrowed = false)
    (fun _ => rfl) ht)
  · rcases messageStage_cases ht with ht | ⟨text, ht⟩ <;> cases ht
    exact habsurd rfl
  · obtain ⟨selected, -, ht⟩ := toolSelectStage_eq_ok_iff.mp ht
    obtain ⟨tool, -, rfl⟩ := Option.map_eq_some_iff.mp ht.symm
    exact habsurd rfl
  · rcases toolChangeStage_cases ht with ⟨-, ht | ht⟩ | ⟨tool, -, ht⟩ <;> cases ht
    · exact habsurd rfl
    · exact habsurd rfl
  · rcases dwellStage_cases ht with ht | ⟨seconds, ht⟩ <;> cases ht
    exact habsurd rfl
  · exact .inl ht
  · exact .inr ht
  · exact habsurd (isBorrowed_eq_false_of_motionStage ht)

/-- What the two stages yield: a tool length offset, data for a work coordinate system, or a
position that another command than G10 stores. -/
theorem cases_of_isBorrowed {tokens : List Token} (h : ex.tokensOf stages = .ok tokens) {t : Token}
    (ht : t ∈ tokens) (hborrowed : t.body.isBorrowed = true) :
    (∃ number, ex.toolOffsetNumber = .ok number ∧ t.body = .toolOffset number) ∨
      (∃ choice?, ex.wholeWord? 'P' = .ok choice? ∧
        t.body = .coordinates ex.target (ex.dataSlot (choice?.getD 0))) ∨
      (t.command ≠ .g10 ∧ ∃ slot, t.body = .coordinates ex.target slot) := by
  rcases stage_of_isBorrowed h t ht hborrowed with hstage | hstage
  · rcases toolLengthStage_cases hstage with ⟨-, hstage⟩ | ⟨-, hstage⟩ | ⟨-, hstage⟩ |
      ⟨number, hnumber, ⟨-, hstage⟩ | ⟨-, hstage⟩⟩ <;> cases hstage
    · cases hborrowed
    · cases hborrowed
    · exact .inl ⟨number, hnumber, rfl⟩
    · exact .inl ⟨number, hnumber, rfl⟩
  · unfold positioningStage at hstage
    split at hstage
    case h_2 =>
      obtain ⟨choice?, hchoice, ⟨-, hstage⟩ | ⟨form, -, hstage⟩⟩ := setDataStage_cases hstage <;>
        cases hstage
      · exact .inr (.inl ⟨choice?, hchoice, rfl⟩)
      · cases hborrowed
    case h_6 | h_7 | h_8 =>
      cases hstage
      exact .inr (.inr ⟨nofun, _, rfl⟩)
    all_goals
      cases hstage
      try cases hborrowed

/-- A tool length offset has the number of the H word or that of the tool before the block. -/
theorem toolOffsetNumber_of_mem {tokens : List Token} (h : ex.tokensOf stages = .ok tokens)
    {t : Token} (ht : t ∈ tokens) {number : Int} (hnumber : t.offsetNumber? = some number) :
    ex.toolOffsetNumber = .ok number := by
  have hbody := Token.offsetNumber?_eq_some_iff.mp hnumber
  rcases cases_of_isBorrowed h ht (by rw [hbody]; rfl) with ⟨number', hnumber', hbody'⟩ |
    ⟨choice?, -, hbody'⟩ | ⟨-, slot, hbody'⟩ <;> cases hbody.symm.trans hbody'
  exact hnumber'

/-- Data for a work coordinate system go to the one that the P word chooses or to the one before
the block. -/
theorem dataSlot_of_mem {tokens : List Token} (h : ex.tokensOf stages = .ok tokens) {t : Token}
    (ht : t ∈ tokens) {slot : Int} (hslot : t.dataSlot? = some slot) :
    ∃ choice?, ex.wholeWord? 'P' = .ok choice? ∧ slot = ex.dataSlot (choice?.getD 0) := by
  obtain ⟨hcommand, target, hbody⟩ := Token.dataSlot?_eq_some_iff.mp hslot
  rcases cases_of_isBorrowed h ht (by rw [hbody]; rfl) with ⟨number, -, hbody'⟩ |
    ⟨choice?, hchoice, hbody'⟩ | ⟨hcommand', -⟩
  · cases hbody.symm.trans hbody'
  · cases hbody.symm.trans hbody'
    exact ⟨choice?, hchoice, rfl⟩
  · exact absurd hcommand hcommand'

end Execution

/-! ### Whole lines -/

section

variable {config : Config} {operator : Operator} {s : State} {line : Line} {ex : Execution}

/-- A line that lacks a letter has no whole number for it. -/
theorem wholeWord?_of_lacks (h : executionOf config operator s line = .ok ex) {letter : Char}
    (hlacks : line.Lacks letter) : ex.wholeWord? letter = .ok none := by
  have hword : ex.word? letter = none := by
    rw [Option.eq_none_iff_forall_ne_some]
    intro value hvalue
    obtain ⟨w, hw, hletter, -⟩ := exists_word_of_word? h hvalue
    exact hlacks w hw hletter
  rw [Execution.wholeWord?, hword]

/-- A line that names no work coordinate system sets the data of the one before it. -/
theorem dataSlot_of_namesNoSystem (h : executionOf config operator s line = .ok ex)
    (hnames : line.NamesNoSystem) {choice? : Option Int}
    (hchoice : ex.wholeWord? 'P' = .ok choice?) :
    ex.dataSlot (choice?.getD 0) = s.coordinateSystem := by
  have hle : choice?.getD 0 ≤ 0 := by
    unfold Execution.wholeWord? at hchoice
    split at hchoice
    · rename_i value hvalue
      obtain ⟨n, hn, rfl⟩ := map_eq_ok_iff.mp hchoice
      obtain ⟨w, hw, hletter, rfl⟩ := exists_word_of_word? h hvalue
      exact hnames w hw hletter n (mapError_eq_ok_iff.mp hn)
    · cases hchoice
      exact Int.le_refl 0
  rw [Execution.dataSlot, if_neg (Int.not_lt.mpr hle), state_of_executionOf h]

/-- The tokens of an execution borrow from the state in which its line is read. -/
theorem borrows_run (h : executionOf config operator s line = .ok ex) {tokens : List Token}
    {next : State} {tools : List Int} (hrun : ex.run = .ok (tokens, next, tools)) :
    Borrows line tokens s := by
  obtain ⟨htokens, -⟩ := Execution.run_eq_ok_iff.mp hrun
  refine ⟨fun hlacks t ht number hnumber => ?_, fun hnames t ht slot hslot => ?_⟩
  · obtain ⟨word?, hword, rfl⟩ := Execution.toolOffsetNumber_eq_ok_iff.mp
      (Execution.toolOffsetNumber_of_mem htokens ht hnumber)
    rw [wholeWord?_of_lacks h hlacks] at hword
    cases hword
    exact congrArg State.tool (state_of_executionOf h)
  · obtain ⟨choice?, hchoice, rfl⟩ := Execution.dataSlot_of_mem htokens ht hslot
    exact dataSlot_of_namesNoSystem h hnames hchoice

/-- The tool stays as it is on a line without T word and M61. -/
theorem tool_of_run (h : executionOf config operator s line = .ok ex) {tokens : List Token}
    {next : State} {tools : List Int} (hrun : ex.run = .ok (tokens, next, tools))
    (hT : line.Lacks 'T') (hM : ∀ w ∈ line.words, ¬ w.IsM 61) : next.tool = s.tool := by
  obtain ⟨-, -, number, tool, -, htool, rfl⟩ := Execution.run_eq_ok_iff.mp hrun
  have hnumber : ex.toolNumber? = .ok none := by
    unfold Execution.toolNumber?
    split
    · obtain ⟨w, hw, h61⟩ := exists_isM_of_setNumber h ‹_›
      exact absurd h61 (hM w hw)
    · rfl
  rw [Execution.tool, wholeWord?_of_lacks h hT, hnumber] at htool
  cases htool
  rw [← state_of_executionOf h]
  rfl

/-- The work coordinate system stays as it is on a line without a code of its group. -/
theorem coordinateSystem_of_run (h : executionOf config operator s line = .ok ex)
    {tokens : List Token} {next : State} {tools : List Int}
    (hrun : ex.run = .ok (tokens, next, tools))
    (hcode : ∀ w ∈ line.words, ¬ w.InGroup .coordinateSystem) :
    next.coordinateSystem = s.coordinateSystem := by
  obtain ⟨-, -, number, tool, -, -, rfl⟩ := Execution.run_eq_ok_iff.mp hrun
  have hnone : ex.coordinateSystem? = none := by
    rw [Option.eq_none_iff_forall_ne_some]
    intro slot hslot
    obtain ⟨c, hc, -⟩ := Option.bind_eq_some_iff.mp hslot
    obtain ⟨w, hw, hgroup⟩ := exists_inGroup_of_codes h hc
    exact hcode w hw hgroup
  rw [Execution.next, hnone, ← state_of_executionOf h]
  rfl

/-- The tokens of a line borrow from the state before the line.  They borrow from the state after it
exactly if the line leaves the values that they borrow as they are. -/
theorem borrows_interpret {result : LineResult}
    (h : interpret config operator s line = .ok result) :
    Borrows line result.tokens s ∧
      (Borrows line result.tokens result.state ↔
        (line.Lacks 'H' → (∃ t ∈ result.tokens, t.offsetNumber?.isSome) →
          result.state.tool = s.tool) ∧
        (line.NamesNoSystem → (∃ t ∈ result.tokens, t.dataSlot?.isSome) →
          result.state.coordinateSystem = s.coordinateSystem)) := by
  have hbefore : Borrows line result.tokens s := by
    rcases interpret_cases h with ⟨htokens, -⟩ | ⟨-, -, htokens, -⟩ | ⟨-, ex, tools, hex, hrun⟩
    · exact htokens ▸ borrows_nil line s
    · exact htokens ▸ borrows_nil line s
    · exact borrows_run hex hrun
  exact ⟨hbefore, hbefore.iff⟩

/-- A tool length offset after the tool was selected. -/
def lengthAfterTool : Line :=
  ⟨"G43".toList, .block [.word ⟨'G', ['4', '3'], 43.0, 0, 3⟩]⟩

theorem borrows_lengthAfterTool :
    ∃ result, interpret {} {} { tool := 4 } lengthAfterTool = .ok result ∧
      result.tokens.length = 1 ∧ Borrows lengthAfterTool result.tokens { tool := 4 } := by
  have hlength : (interpret {} {} { tool := 4 } lengthAfterTool).toOption.map
      (·.tokens.length) = some 1 := by
    decide +kernel
  obtain ⟨result, h, hlength⟩ := map_toOption_eq_some_iff.mp hlength
  exact ⟨result, h, hlength, (borrows_interpret h).1⟩

/-- A tool and a work coordinate system that are selected and used on the same line. -/
def selectedAndUsed : Line :=
  ⟨"T4 G43 G55 G10 L2 P0 X5".toList, .block
    [.word ⟨'T', ['4'], 4.0, 0, 2⟩, .word ⟨'G', ['4', '3'], 43.0, 3, 6⟩,
      .word ⟨'G', ['5', '5'], 55.0, 7, 10⟩, .word ⟨'G', ['1', '0'], 10.0, 11, 14⟩,
      .word ⟨'L', ['2'], 2.0, 15, 17⟩, .word ⟨'P', ['0'], 0.0, 18, 20⟩,
      .word ⟨'X', ['5'], 5.0, 21, 23⟩]⟩

theorem not_borrows_selectedAndUsed :
    selectedAndUsed.Lacks 'H' ∧ selectedAndUsed.NamesNoSystem ∧
      ∃ result, interpret {} {} .initial selectedAndUsed = .ok result ∧
        ¬ (∀ t ∈ result.tokens, ∀ number ∈ t.offsetNumber?, number = result.state.tool) ∧
        ¬ (∀ t ∈ result.tokens, ∀ slot ∈ t.dataSlot?, slot = result.state.coordinateSystem) := by
  have hlacks : selectedAndUsed.Lacks 'H' := by
    unfold Line.Lacks
    decide +kernel
  have hwhole : ∀ w ∈ selectedAndUsed.words, w.letter = 'P' →
      (Number.truncate w.value).toOption = some 0 := by
    decide +kernel
  have hnames : selectedAndUsed.NamesNoSystem := by
    intro w hw hletter n hn
    have hzero := hwhole w hw hletter
    rw [hn] at hzero
    cases hzero
    exact Int.le_refl 0
  have hvalues : (interpret {} {} .initial selectedAndUsed).toOption.map (fun result =>
      (result.tokens.filterMap Token.offsetNumber?, result.state.tool,
        result.tokens.filterMap Token.dataSlot?, result.state.coordinateSystem)) =
      some ([0], 4, [0], 1) := by
    decide +kernel
  obtain ⟨result, h, hvalues⟩ := map_toOption_eq_some_iff.mp hvalues
  simp only [Prod.mk.injEq] at hvalues
  obtain ⟨hnumbers, htool, hslots, hsystem⟩ := hvalues
  refine ⟨hlacks, hnames, result, h, fun hall => ?_, fun hall => ?_⟩
  · have hmem : (0 : Int) ∈ result.tokens.filterMap Token.offsetNumber? := by simp [hnumbers]
    obtain ⟨t, ht, hnumber⟩ := List.mem_filterMap.mp hmem
    exact absurd (hall t ht 0 hnumber) (by rw [htool]; decide)
  · have hmem : (0 : Int) ∈ result.tokens.filterMap Token.dataSlot? := by simp [hslots]
    obtain ⟨t, ht, hslot⟩ := List.mem_filterMap.mp hmem
    exact absurd (hall t ht 0 hslot) (by rw [hsystem]; decide)

/-- A line without T word, M61 and coordinate system code borrows from the state after it. -/
theorem borrows_interpret_of_keeps {result : LineResult}
    (h : interpret config operator s line = .ok result) (hT : line.Lacks 'T')
    (hM : ∀ w ∈ line.words, ¬ w.IsM 61)
    (hcode : ∀ w ∈ line.words, ¬ w.InGroup .coordinateSystem) :
    Borrows line result.tokens result.state := by
  rcases interpret_cases h with ⟨htokens, -⟩ | ⟨-, -, htokens, -⟩ | ⟨-, ex, tools, hex, hrun⟩
  · exact htokens ▸ borrows_nil line _
  · exact htokens ▸ borrows_nil line _
  · exact (borrows_run hex hrun).iff.mpr
      ⟨fun _ _ => tool_of_run hex hrun hT hM, fun _ _ => coordinateSystem_of_run hex hrun hcode⟩

end

end NumericControl
