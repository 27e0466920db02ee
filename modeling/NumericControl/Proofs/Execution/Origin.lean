import NumericControl.Interpretation
import NumericControl.Proofs.Block.Acceptance

/-!
# Where the codes and values of an execution come from

An execution reads its codes by group and its values by letter.  All of them are those of words of
its line: a code is the one that a G or M word gives, and a value stands behind its letter.

## Main definitions

* `Interpreted` : what the interpretation of a line can yield.

## Main results

* `interpret_eq_ok_iff` : a line is accepted exactly with what its interpretation can yield.
* `interpret_cases` : what an accepted line does to tokens and state.
* `executionOf_eq_ok_iff` : the block behind an execution.
* `exists_gives_of_codes`, `exists_inGroup_of_codes` : every code of an execution is given by a
  word of its line that is in the group of the code.
* `exists_word_of_word?` : every value of an execution is that of a word of its line.
* `index_lt_of_word?` : an axis that has a value is one of the machine.
* `slot_le_of_executionOf` : a coordinate system that a line selects has a number up to eight.
-/

namespace NumericControl

namespace Block

variable {ctx : BlockContext} {words : List Word} {b : Block}

/-- The values of a block are those of its words. -/
theorem mem_values_iff (h : ({} : Block).addAll ctx words = .ok b) {letter : Char} {v : Float} :
    (letter, v) ∈ b.values ↔ ∃ w ∈ words, ctx.Gives w (.value letter v) := by
  obtain ⟨-, -, -, rfl⟩ := addAll_eq_ok_iff.mp h
  have hvalue (r : Role) (a : Char × Float) : r.value? = some a ↔ r = .value a.1 a.2 := by
    cases r <;> simp [Role.value?, Prod.ext_iff]
  rw [extend, List.nil_append]
  exact @mem_filterMap_roles_iff ctx words _ _ _ hvalue (letter, v)

end Block

variable {config : Config} {operator : Operator} {s : State} {line : Line} {ex : Execution}

/-- What the interpretation of a line can yield. -/
inductive Interpreted (config : Config) (operator : Operator) (s : State) (line : Line) :
    LineResult → Prop
  | ended (hend : s.programEnd = true) :
      Interpreted config operator s line { state := s, line := line.text, handled := false }
  | passedOver (hend : s.programEnd = false)
      (hcontent : line.content = .blank ∨ line.content = .passThrough) :
      Interpreted config operator s line { state := s, line := line.text, handled := false }
  | comment (hend : s.programEnd = false) (hcontent : line.content = .comment) :
      Interpreted config operator s line { state := s, line := line.text }
  | demarcation (hend : s.programEnd = false) (hcontent : line.content = .demarcation) :
      Interpreted config operator s line
        { state := { s with
            demarcations := s.demarcations + 1
            programEnd := decide (2 ≤ s.demarcations + 1) }
          line := line.text }
  | block {items : List Item} {ex : Execution} {tokens : List Token} {next : State}
      {tools : List Int} (hend : s.programEnd = false) (hcontent : line.content = .block items)
      (hex : executionOf config operator s line = .ok ex)
      (hrun : ex.run = .ok (tokens, next, tools)) :
      Interpreted config operator s line
        { tokens
          state := next
          line := String.ofList
            (if ex.stripped.isEmpty then line.source else removeWords line.source ex.stripped)
          warnings := toolWarnings operator tools
          stripped := ex.stripped }

theorem interpret_eq_ok_iff {result : LineResult} :
    interpret config operator s line = .ok result ↔ Interpreted config operator s line result := by
  constructor
  · intro h
    unfold interpret at h
    split at h
    · rename_i hend
      cases h
      exact .ended hend
    · rename_i hend
      rw [Bool.not_eq_true] at hend
      split at h
      case h_1 hcontent =>
        cases h
        exact .passedOver hend (.inl hcontent)
      case h_2 hcontent =>
        cases h
        exact .passedOver hend (.inr hcontent)
      case h_3 hcontent =>
        cases h
        exact .comment hend hcontent
      case h_4 hcontent =>
        cases h
        rw [hend, Bool.false_or]
        exact .demarcation hend hcontent
      case h_5 items hcontent =>
        obtain ⟨ex, hex, h⟩ := bind_eq_ok_iff.mp h
        obtain ⟨⟨tokens, next, tools⟩, hrun, h⟩ := bind_eq_ok_iff.mp h
        cases h
        exact .block hend hcontent hex hrun
  · intro h
    unfold interpret
    cases h with
    | ended hend => rw [if_pos hend]
    | passedOver hend hcontent =>
      rw [hend]
      rcases hcontent with hcontent | hcontent <;> rw [hcontent] <;> rfl
    | comment hend hcontent | demarcation hend hcontent =>
      rw [hend, hcontent]
      rfl
    | block hend hcontent hex hrun =>
      rw [hend, hcontent, if_neg Bool.false_ne_true]
      exact bind_eq_ok_iff.mpr ⟨_, hex, bind_eq_ok_iff.mpr ⟨_, hrun, rfl⟩⟩

/-- What an accepted line does: nothing to tokens and state, or a demarcation is counted, or a
block is executed. -/
theorem interpret_cases {result : LineResult}
    (h : interpret config operator s line = .ok result) :
    (result.tokens = [] ∧ result.state = s) ∨
      (line.content = .demarcation ∧ s.programEnd = false ∧ result.tokens = [] ∧
        result.state = { s with
          demarcations := s.demarcations + 1
          programEnd := decide (2 ≤ s.demarcations + 1) }) ∨
      (s.programEnd = false ∧ ∃ ex tools, executionOf config operator s line = .ok ex ∧
        ex.run = .ok (result.tokens, result.state, tools)) := by
  cases interpret_eq_ok_iff.mp h with
  | ended | passedOver | comment => exact .inl ⟨rfl, rfl⟩
  | demarcation hend hcontent => exact .inr (.inl ⟨hcontent, hend, rfl, rfl⟩)
  | block hend _ hex hrun => exact .inr (.inr ⟨hend, _, _, hex, hrun⟩)

/-- An execution is that of the block that the words of its line make. -/
theorem executionOf_eq_ok_iff :
    executionOf config operator s line = .ok ex ↔
      ∃ (b : Block) (owner : Option AxisOwner),
        ({} : Block).addAll (blockContext config operator s line) line.words = .ok b ∧
          b.owner (blockContext config operator s line) = .ok owner ∧
          ex =
            { toBlockContext := blockContext config operator s line
              state := s
              codes := b.code?
              word? := b.value?
              owner
              message := line.message?
              stripped := b.stripped } := by
  constructor
  · intro h
    obtain ⟨⟨b, owner⟩, hblock, hex⟩ := bind_eq_ok_iff.mp h
    obtain ⟨b', hb, hblock⟩ := bind_eq_ok_iff.mp hblock
    obtain ⟨owner', howner, heq⟩ := bind_eq_ok_iff.mp hblock
    cases heq
    cases hex
    exact ⟨b, owner, hb, howner, rfl⟩
  · rintro ⟨b, owner, hb, howner, rfl⟩
    refine bind_eq_ok_iff.mpr ⟨(b, owner), ?_, rfl⟩
    exact bind_eq_ok_iff.mpr ⟨b, hb, bind_eq_ok_iff.mpr ⟨owner, howner, rfl⟩⟩

/-- An execution starts from the state in which its line is read. -/
theorem state_of_executionOf (h : executionOf config operator s line = .ok ex) : ex.state = s := by
  obtain ⟨b, owner, -, -, rfl⟩ := executionOf_eq_ok_iff.mp h
  rfl

/-- The block behind an execution. -/
theorem exists_addAll_of_executionOf (h : executionOf config operator s line = .ok ex) :
    ∃ b : Block, ({} : Block).addAll (blockContext config operator s line) line.words = .ok b ∧
      ex.codes = b.code? ∧ ex.word? = b.value? := by
  obtain ⟨b, owner, hb, -, rfl⟩ := executionOf_eq_ok_iff.mp h
  exact ⟨b, hb, rfl, rfl⟩

/-- Every code of an execution is given by a word of its line. -/
theorem exists_gives_of_codes (h : executionOf config operator s line = .ok ex)
    {group : ModalGroup} {c : Code} (hc : ex.codes group = some c) :
    ∃ w ∈ line.words, (blockContext config operator s line).Gives w (.code c) := by
  obtain ⟨b, hb, hcodes, -⟩ := exists_addAll_of_executionOf h
  rw [hcodes] at hc
  exact (Block.mem_codes_iff hb).mp (List.mem_of_find?_eq_some hc)

/-- A group has a code only if a word of the line is in the group. -/
theorem exists_inGroup_of_codes (h : executionOf config operator s line = .ok ex)
    {group : ModalGroup} {c : Code} (hc : ex.codes group = some c) :
    ∃ w ∈ line.words, w.InGroup group := by
  obtain ⟨w, hw, hgives⟩ := exists_gives_of_codes h hc
  obtain ⟨b, -, hcodes, -⟩ := exists_addAll_of_executionOf h
  rw [hcodes] at hc
  have hgroup : c.group = group := by
    simpa only [beq_iff_eq] using List.find?_some hc
  exact ⟨w, hw, (hgives.codeWord.group group).mpr hgroup⟩

/-- The tool number is set without a change only if M61 is on the line. -/
theorem exists_isM_of_setNumber (h : executionOf config operator s line = .ok ex)
    (hchange : ex.toolChange? = some .setNumber) : ∃ w ∈ line.words, w.IsM 61 := by
  obtain ⟨c, hc, hselects⟩ := Option.bind_eq_some_iff.mp hchange
  obtain ⟨w, hw, hgives⟩ := exists_gives_of_codes h hc
  cases c <;> cases hselects
  generalize hcode : Code.toolChange .setNumber = c at hgives
  cases hgives with
  | ofG number listed allowed =>
    -- no G number is in the group of tool changes
    subst hcode
    exact absurd (Code.listed_of_ofG? listed).group List.not_mem_nil
  | ofM number kept allowed => exact ⟨w, hw, Code.eq_of_ofM_eq_setNumber hcode.symm ▸ number⟩

/-- Every value of an execution is given by a word of its line. -/
theorem exists_gives_of_word? (h : executionOf config operator s line = .ok ex) {letter : Char}
    {value : Float} (hvalue : ex.word? letter = some value) :
    ∃ w ∈ line.words, (blockContext config operator s line).Gives w (.value letter value) := by
  obtain ⟨b, hb, -, hword⟩ := exists_addAll_of_executionOf h
  rw [hword] at hvalue
  obtain ⟨l₁, l₂, hvalues, -⟩ := List.lookup_eq_some_iff.mp hvalue
  have hmem : (letter, value) ∈ b.values := by
    rw [hvalues]
    exact List.mem_append_right l₁ List.mem_cons_self
  exact (Block.mem_values_iff hb).mp hmem

/-- Every value of an execution is that of a word of its line. -/
theorem exists_word_of_word? (h : executionOf config operator s line = .ok ex) {letter : Char}
    {value : Float} (hvalue : ex.word? letter = some value) :
    ∃ w ∈ line.words, w.letter = letter ∧ w.value = value := by
  obtain ⟨w, hw, hgives⟩ := exists_gives_of_word? h hvalue
  cases hgives with
  | value kind _ => exact ⟨w, hw, rfl, rfl⟩

/-- The machine takes the letters of its own axes only. -/
theorem Config.TakesLetter.index_lt {axis : Axis} (h : config.TakesLetter axis.letter) :
    axis.index < config.axisCount := by
  have hfault := (BlockContext.letterFault?_eq_none_iff.mpr h).2
  rw [Block.letterFault?, Axis.ofLetter?_letter] at hfault
  exact Decidable.byContradiction fun hindex => by simp [hindex] at hfault

/-- An axis that has a value is one of the machine. -/
theorem index_lt_of_word? (h : executionOf config operator s line = .ok ex) {axis : Axis}
    (hvalue : (ex.word? axis.letter).isSome) : axis.index < config.axisCount := by
  obtain ⟨value, hvalue⟩ := Option.isSome_iff_exists.mp hvalue
  obtain ⟨w, -, hgives⟩ := exists_gives_of_word? h hvalue
  generalize hletter : axis.letter = letter at hgives
  cases hgives with
  | value _ htakes => exact Config.TakesLetter.index_lt (hletter ▸ htakes)

/-- A coordinate system that a line selects has a number up to eight. -/
theorem slot_le_of_executionOf (h : executionOf config operator s line = .ok ex) :
    ∀ slot ∈ ex.coordinateSystem?, slot ≤ 8 := by
  intro slot hslot
  obtain ⟨c, hc, hselects⟩ := Option.bind_eq_some_iff.mp hslot
  obtain ⟨w, -, hgives⟩ := exists_gives_of_codes h hc
  cases c <;> cases hselects
  generalize hcode : Code.coordinateSystem slot = c at hgives
  cases hgives with
  | ofG number listed allowed =>
    subst hcode
    exact Code.slot_le_of_ofG? listed
  | ofM number kept allowed => exact absurd hcode.symm (Code.ofM_ne_coordinateSystem _ slot)

end NumericControl
