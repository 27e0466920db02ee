import NumericControl.Proofs.Line.Values
import NumericControl.Proofs.Number.Rounding
import NumericControl.Proofs.Program.Order

/-!
# Well-formed tokens

What reads the tokens of a program relies on their shape: an arc has a radius or an offset, a drill
in steps has a step, and the values for a work coordinate system go to one of the nine.  Nothing in
a token forbids another shape.  It is the interpretation of lines that yields no other, because it
refuses the words that would lead to one and because the coordinate system in force is always one
of the nine.

## Main definitions

* `Token.Body.Suits` : a token may say this under its command.
* `Token.WellFormed` : so it does, for axes of the machine in their order.
* `Execution.Regular` : what a block reads are numbers, for axes of the machine.

## Main results

* `Execution.regular_of_read` : the execution of a line that is read is regular.
* `Execution.Emits.wellFormed` : a regular execution emits well-formed tokens.
* `Program.wellFormed_readLines` : the tokens of a program are well formed.
-/

namespace NumericControl

/-! ### Shapes of tokens -/

/-- The center of an arc is fixed by a radius other than zero alone, or by one of the offsets. -/
def ArcWords.IsDetermined (words : ArcWords) : Prop :=
  (∃ radius, words.radius = some radius ∧ (radius == 0.0) = false ∧
    words.offsets = ⟨none, none, none⟩) ∨
  (words.radius = none ∧
    (words.offsets.i.isSome ∨ words.offsets.j.isSome ∨ words.offsets.k.isSome))

/-- A hole is drilled at least once, in steps by the commands that drill in steps only, and a dwell
comes with the commands that pause only. -/
structure DrillWords.Suits (command : Command) (words : DrillWords) : Prop where
  repeats : 1 ≤ words.repeats
  peck : 0.0 < words.peck ↔ command ∈ [.g73, .g83]
  dwell : command ∉ [.g82, .g83, .g86, .g89] → words.dwell = 0.0

namespace Token

/-- The axis values that a token holds. -/
def Body.target? : Body → Option Target
  | .linear target | .arc target _ | .drill target _ | .spindleSync target _ | .thread target _
  | .coordinates target _ | .toolTable target _ _ _ | .toolOffsets target | .scaling target =>
    some target
  | _ => none

/-- A token may say this under a command. -/
def Body.Suits (command : Command) : Body → Prop
  | .linear _ => command ∈ [.g0, .g1, .g28, .g30, .g53, .g38_2, .g38_3, .g38_4, .g38_5]
  | .arc _ words => command ∈ [.g2, .g3] ∧ words.IsDetermined
  | .drill _ words => words.Suits command
  | .coordinates _ slot =>
    (command = .g92 ∧ slot = 10) ∨ (command = .g28_1 ∧ slot = 11) ∨
      (command = .g30_1 ∧ slot = 12) ∨ (command = .g10 ∧ 0 ≤ slot ∧ slot ≤ 8)
  | .toolTable _ entry _ _ => entry = 1 ∨ entry = 10 ∨ entry = 11
  | _ => True

/-- A token says what suits its command, and the axes that it programs are some of the axes of the
machine, in their order. -/
structure WellFormed (axisCount : Nat) (t : Token) : Prop where
  suits : t.body.Suits t.command
  axes : ∀ target ∈ t.body.target?, target.axes.Sublist (Axis.all.take axisCount)

end Token

theorem Axis.take_all (n : Nat) : all.take n = all.filter fun axis => axis.index < n := by
  have hsmall : ∀ n < 6, all.take n = all.filter fun axis => axis.index < n := by decide
  rcases Nat.lt_or_ge n 6 with h | h
  · exact hsmall n h
  · rw [List.take_of_length_le h, eq_comm, List.filter_eq_self]
    intro axis _
    have hindex : axis.index < 6 := by cases axis <;> decide
    exact decide_eq_true (hindex.trans_le h)

/-- A set of the two coolant supplies. -/
def Coolant.IsKnown (c : Coolant) : Prop :=
  c.number < Nat.pow 2 2

theorem Coolant.IsKnown.or {c d : Coolant} (hc : c.IsKnown) (hd : d.IsKnown) : (c.or d).IsKnown :=
  Nat.or_lt_two_pow hc hd

/-- A radius that fixes an arc is not zero. -/
theorem isZero_eq_false_of_centerFromRadius {α : Type} [Scalar α] {start stop center : Point α}
    {radius : α} {clockwise : Bool} {plane : Plane}
    (h : centerFromRadius start stop radius clockwise plane = .ok center) :
    Scalar.isZero radius = false := by
  obtain ⟨way, hway, -⟩ := map_eq_ok_iff.mp h
  unfold centerOffset centerOffsetBy at hway
  dsimp only at hway
  split at hway
  · cases hway
  · simpa using ‹¬ Scalar.isZero radius = true›

/-- The value of a word of a line that is read is a number. -/
theorem Line.not_isNaN_of_read {text : String} {line : Line} (h : Line.read text = .ok line) :
    ∀ w ∈ line.words, ¬ w.value.isNaN := by
  intro w hw
  obtain ⟨p, -, hvalue⟩ := hasWrittenValue_of_read h w hw
  rw [hvalue]
  exact Number.not_isNaN_nearest _ _ _

namespace Execution

variable {ex : Execution} {stage : Stage} {t : Token}

/-- Only axes of the machine have values, every value is a number, and the coordinate system before
the block is one of the nine. -/
structure Regular (ex : Execution) : Prop where
  index_lt {axis : Axis} (h : (ex.word? axis.letter).isSome) : axis.index < ex.config.axisCount
  isNumber {letter : Char} {value : Float} (h : ex.word? letter = some value) : ¬ value.isNaN
  slot_le : ex.state.coordinateSystem ≤ 8

/-- The execution of a line that is read is regular. -/
theorem regular_of_read {config : Config} {operator : Operator} {s : State} {text : String}
    {line : Line} (hread : Line.read text = .ok line)
    (hex : executionOf config operator s line = .ok ex) (hslot : s.coordinateSystem ≤ 8) :
    ex.Regular ∧ ex.config = config := by
  have hconfig : ex.config = config := by
    obtain ⟨b, owner, -, -, rfl⟩ := executionOf_eq_ok_iff.mp hex
    rfl
  refine ⟨⟨fun h => ?_, fun h => ?_, ?_⟩, hconfig⟩
  · rw [hconfig]
    exact index_lt_of_word? hex h
  · obtain ⟨w, hw, -, rfl⟩ := exists_word_of_word? hex h
    exact Line.not_isNaN_of_read hread w hw
  · rw [state_of_executionOf hex]
    exact hslot

/-! ### Axes -/

/-- Axes with words that stem from those of the block are some of the axes of the machine. -/
theorem Regular.given_sublist (hex : ex.Regular) {words : PerAxis (Option Float)}
    (hwords : ∀ axis, (words.get axis).isSome → (ex.word? axis.letter).isSome) :
    words.given.Sublist (Axis.all.take ex.config.axisCount) := by
  rw [Axis.take_all]
  refine List.monotone_filter_right Axis.all fun axis hgiven => ?_
  exact decide_eq_true (hex.index_lt (hwords axis hgiven))

theorem isSome_axisWords {axis : Axis} (h : (ex.axisWords.get axis).isSome) :
    (ex.word? axis.letter).isSome := by
  rwa [axisWords, PerAxis.get_ofFn] at h

theorem isSome_lengthWords {axis : Axis} (h : (ex.lengthWords.get axis).isSome) :
    (ex.word? axis.letter).isSome := by
  unfold lengthWords at h
  split at h
  · simp at h
  · rw [PerAxis.get_ofFn, Option.isSome_map] at h
    exact isSome_axisWords h

theorem isSome_coordinateWords {axis : Axis} (h : (ex.coordinateWords.get axis).isSome) :
    (ex.word? axis.letter).isSome := by
  unfold coordinateWords at h
  split at h
  · simp at h
  · exact isSome_lengthWords h

theorem target?_of_move (h : ex.move = .ok (some t)) : t.body.target? = some ex.target := by
  obtain ⟨mode, htoken⟩ := exists_isMoveToken h
  cases htoken <;> rfl

/-- The axis values of a token are those of the block, or its tool offsets, or scale factors. -/
theorem Emits.target_cases (h : ex.Emits stage t) {target : Target}
    (htarget : t.body.target? = some target) :
    ((target = ex.target ∨ target = ⟨ex.dynamicOffsets, ex.lengthWords.given⟩) ∧
        ∀ factors, t.body ≠ .scaling factors) ∨
      (target = ⟨ex.scaleFactors, ex.axisWords.given⟩ ∧ t.body = .scaling target) := by
  cases h with
  | move moves =>
    rw [target?_of_move moves] at htarget
    obtain ⟨mode, htoken⟩ := exists_isMoveToken moves
    exact .inl ⟨.inl (Option.some.inj htarget).symm, by cases htoken <;> nofun⟩
  | toolOffsets =>
    cases htarget
    exact .inl ⟨.inr rfl, nofun⟩
  | scaling =>
    cases htarget
    exact .inr ⟨rfl, rfl⟩
  | coordinates | toolTable | goFirst | goSecond | machine | storeFirst | storeSecond | setOffset =>
    cases htarget
    exact .inl ⟨.inl rfl, nofun⟩
  | _ => cases htarget

theorem Emits.axes_sublist (h : ex.Emits stage t) (hex : ex.Regular) :
    ∀ target ∈ t.body.target?, target.axes.Sublist (Axis.all.take ex.config.axisCount) := by
  intro target htarget
  rcases h.target_cases htarget with ⟨rfl | rfl, -⟩ | ⟨rfl, -⟩
  · exact hex.given_sublist fun _ => isSome_coordinateWords
  · exact hex.given_sublist fun _ => isSome_lengthWords
  · exact hex.given_sublist fun _ => isSome_axisWords

/-! ### Arcs -/

theorem suits_arcMove {clockwise : Bool} (h : ex.arcMove clockwise = .ok t) :
    t.body.Suits t.command := by
  have hcommand : arcCommand clockwise ∈ [Command.g2, .g3] := by cases clockwise <;> decide
  rcases arcMove_cases h with ⟨radius, center, hcenter, rfl⟩ | ⟨hoffset, rfl⟩
  · exact ⟨hcommand, .inl ⟨radius, rfl, isZero_eq_false_of_centerFromRadius hcenter, rfl⟩⟩
  · exact ⟨hcommand, .inr ⟨rfl, hoffset⟩⟩

/-! ### Drilling cycles -/

theorem unpack_inch :
    inch.toModel.unpack = .finite .positive 7149464408450662 (-48) (by decide) :=
  rfl

/-- A positive length is positive in millimetres. -/
theorem zero_lt_millimetres {value : Float} (h : 0.0 < value) : 0.0 < ex.millimetres value := by
  unfold millimetres
  split
  · exact Number.zero_lt_mul h unpack_inch (by decide)
  · exact h

/-- The step of a drilling cycle is positive exactly if the cycle drills in steps. -/
theorem Regular.zero_lt_peckOf_iff (hex : ex.Regular) {cycle : DrillCycle} {peck : Float}
    (h : ex.peckOf cycle = .ok peck) : 0.0 < peck ↔ cycle.pecks = true := by
  unfold peckOf at h
  split at h
  · rename_i hpecks
    refine iff_of_true ?_ hpecks
    split at h
    · cases h
    · rename_i step hstep
      split at h
      · cases h
      · rename_i hpositive
        cases h
        exact zero_lt_millimetres (Number.lt_of_not_le (hex.isNumber hstep) (by decide) hpositive)
  · rename_i hpecks
    cases h
    exact iff_of_false (Number.lt_irrefl _) hpecks

theorem drillCommand_mem_iff_pecks (cycle : DrillCycle) :
    drillCommand cycle ∈ [Command.g73, .g83] ↔ cycle.pecks = true := by
  cases cycle <;> decide

theorem drillCommand_mem_iff_pauses (cycle : DrillCycle) :
    drillCommand cycle ∈ [Command.g82, .g83, .g86, .g89] ↔ cycle.pauses = true := by
  cases cycle <;> decide

theorem Regular.suits_drillMove (hex : ex.Regular) {cycle : DrillCycle}
    (h : ex.drillMove cycle = .ok t) : t.body.Suits t.command := by
  obtain ⟨repeats, peck, hpeck, rfl⟩ := drillMove_cases h
  refine ⟨?_, ?_, fun hcommand => ?_⟩
  · dsimp only
    split <;> omega
  · exact (hex.zero_lt_peckOf_iff hpeck).trans (drillCommand_mem_iff_pecks cycle).symm
  · exact if_neg fun hpauses => hcommand ((drillCommand_mem_iff_pauses cycle).mpr hpauses)

/-! ### All tokens -/

theorem Regular.suits_move (hex : ex.Regular) (h : ex.move = .ok (some t)) :
    t.body.Suits t.command := by
  have htoken := isMoveToken_of_move h
  unfold move at h
  cases hmotion : ex.motion with
  | arc clockwise =>
    rw [hmotion] at h
    obtain ⟨t, ht, heq⟩ := map_eq_ok_iff.mp h
    cases heq
    exact suits_arcMove ht
  | drill cycle =>
    rw [hmotion] at h
    obtain ⟨t, ht, heq⟩ := map_eq_ok_iff.mp h
    cases heq
    exact hex.suits_drillMove ht
  | probe mode =>
    rw [hmotion] at htoken
    cases htoken
    cases mode <;> simp [token, probeCommand, Token.Body.Suits]
  | seek | linear =>
    rw [hmotion] at htoken
    cases htoken
    simp [token, Token.Body.Suits]
  | spindleSync | threading =>
    rw [hmotion] at htoken
    cases htoken
    trivial
  | cancelled =>
    rw [hmotion] at htoken
    cases htoken

theorem Regular.suits_coordinates (hex : ex.Regular) {choice : Int}
    (h : ex.dataSlot choice ≤ lastSlot) :
    (Token.Body.coordinates ex.target (ex.dataSlot choice)).Suits .g10 := by
  have hslot := hex.slot_le
  refine .inr (.inr (.inr ⟨rfl, ?_, h⟩))
  unfold dataSlot
  split <;> omega

/-- A regular execution emits tokens that say what suits their commands. -/
theorem Emits.suits (h : ex.Emits stage t) (hex : ex.Regular) : t.body.Suits t.command := by
  cases h with
  | move moves => exact hex.suits_move moves
  | coordinates inRange => exact hex.suits_coordinates inRange
  | toolTable _ supported => exact supported
  | goFirst | goSecond | machine | storeFirst | storeSecond | setOffset =>
    simp [token, Token.Body.Suits, firstSlot, secondSlot, offsetSlot]
  | _ => trivial

/-- A coolant code switches on one of the two supplies, or both off. -/
theorem isKnown_coolantAfter {before : Coolant} (h : before.IsKnown) (code : CoolantCode) :
    (coolantAfter before code).IsKnown := by
  cases code with
  | mist => exact h.or (show 1 < Nat.pow 2 2 by decide)
  | flood => exact h.or (show 2 < Nat.pow 2 2 by decide)
  | off => exact show 0 < Nat.pow 2 2 by decide

/-- The coolant after a block. -/
theorem isKnown_coolant (h : ex.state.coolant.IsKnown) :
    (ex.coolant?.getD ex.state.coolant).IsKnown := by
  unfold coolant?
  cases ex.coolantCode? with
  | none => exact h
  | some code => exact isKnown_coolantAfter h code

/-- A regular execution emits well-formed tokens. -/
theorem Emits.wellFormed (h : ex.Emits stage t) (hex : ex.Regular) :
    t.WellFormed ex.config.axisCount :=
  ⟨h.suits hex, h.axes_sublist hex⟩

end Execution

namespace Program

variable {setup : Setup} {p q : Program} {text : String} {handled : Bool}

/-- The tokens so far are well formed, the coordinate system is one of the nine, and only the two
coolant supplies may be on. -/
structure WellFormed (setup : Setup) (p : Program) : Prop where
  tokens : ∀ t ∈ p.tokens.toList, t.WellFormed setup.config.axisCount
  slot_le : p.state.coordinateSystem ≤ 8
  coolant : p.state.coolant.IsKnown

theorem wellFormed_empty : empty.WellFormed setup :=
  ⟨fun _ ht => absurd ht List.not_mem_nil, Nat.zero_le 8, show 0 < Nat.pow 2 2 by decide⟩

/-- Reading a line keeps a program well formed. -/
theorem WellFormed.readLine (hp : p.WellFormed setup)
    (h : p.readLine setup text = .ok (q, handled)) : q.WellFormed setup := by
  rcases readLine_eq_ok_iff.mp h with ⟨-, rfl, -⟩ | ⟨-, line, result, hread, hresult, rfl, -⟩
  · exact ⟨hp.tokens, hp.slot_le, hp.coolant⟩
  · rcases interpret_cases hresult with ⟨htokens, hstate⟩ | ⟨-, -, htokens, hstate⟩ |
      ⟨-, ex, tools, hex, hrun⟩
    · exact ⟨by simpa [accept, htokens] using hp.tokens, by simpa [accept, hstate] using hp.slot_le,
        by simpa [accept, hstate] using hp.coolant⟩
    · exact ⟨by simpa [accept, htokens] using hp.tokens, by simpa [accept, hstate] using hp.slot_le,
        by simpa [accept, hstate] using hp.coolant⟩
    · obtain ⟨hregular, hconfig⟩ := Execution.regular_of_read hread hex hp.slot_le
      have hblock : ∀ t ∈ result.tokens, t.WellFormed setup.config.axisCount := by
        intro t ht
        rw [← hconfig]
        exact (Execution.emits_of_run hrun t ht).wellFormed hregular
      have htokens : (p.accept result).tokens.toList = p.tokens.toList ++ result.tokens := by
        simp [accept]
      obtain ⟨-, -, number, tool, -, -, hnext⟩ := Execution.run_eq_ok_iff.mp hrun
      refine ⟨?_, ?_, ?_⟩
      · rw [htokens]
        exact List.forall_mem_append.mpr ⟨hp.tokens, hblock⟩
      · rw [accept, ← hnext, Execution.next]
        cases hselected : ex.coordinateSystem? with
        | none => exact hregular.slot_le
        | some slot => exact slot_le_of_executionOf hex slot hselected
      · rw [accept, ← hnext, Execution.next]
        exact Execution.isKnown_coolant (state_of_executionOf hex ▸ hp.coolant)

/-- Reading lines keeps a program well formed. -/
theorem WellFormed.readLines (hp : p.WellFormed setup) (count : Nat) (lines : List String) :
    (p.readLines setup count lines).1.WellFormed setup :=
  readLines_induction hp (fun hp h => hp.readLine h) count lines

/-- Every token of a program is well formed.  The coordinate system in force is always one of the
nine, and the coolant supplies are one of the four combinations. -/
theorem wellFormed_readLines (setup : Setup) (lines : List String) :
    let program := (empty.readLines setup 0 lines).1
    (∀ t ∈ program.tokens.toList, t.WellFormed setup.config.axisCount) ∧
      program.state.coordinateSystem ≤ 8 ∧ program.state.coolant.number ≤ 3 := by
  have h : (empty.readLines setup 0 lines).1.WellFormed setup :=
    wellFormed_empty.readLines 0 lines
  exact ⟨h.tokens, h.slot_le, Nat.le_of_lt_succ h.coolant⟩

end Program

end NumericControl
