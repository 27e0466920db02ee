import NumericControl.Execution
import NumericControl.Proofs.Refusal.Kind

/-!
# Stages of an execution

An execution that succeeds runs every stage with success; its tokens are those of the stages, one
after another.  Most stages only put into a token what a code or a word says.  For each of the
others one lemma tells the tokens it can yield and under which conditions.

## Main results

* `Execution.tokensOf_append_eq_ok_iff` : the tokens of stages that are run one after another.
* `Execution.tokensOf_congr` : two executions all of whose stages have the same outcome.
* `Execution.forall_mem_of_tokensOf` : what holds of the tokens of each stage holds of all tokens.
* `Execution.run_eq_ok_iff` : the parts of a successful execution.
* `Execution.toolSelectStage_eq_ok_iff`, `Execution.toolChangeStage_cases`,
  `Execution.toolLengthStage_cases`, `Execution.setDataStage_cases` : the outcomes of the stages
  that need a whole number.
* `Execution.arcMove_cases`, `Execution.drillMove_cases`, `Execution.isMoveToken_of_move` : the
  outcomes of moves.
-/

namespace NumericControl

namespace Execution

variable {ex : Execution} {stage : Execution → Except Failure (Option Token)}
  {stages₁ stages₂ : List (Execution → Except Failure (Option Token))} {tokens : List Token}

theorem tokensOf_cons_eq_ok_iff :
    ex.tokensOf (stage :: stages₁) = .ok tokens ↔
      ∃ t ts, stage ex = .ok t ∧ ex.tokensOf stages₁ = .ok ts ∧ tokens = t.toList ++ ts := by
  simp only [tokensOf, bind_eq_ok_iff, pure, Except.pure, Except.ok.injEq]
  constructor
  · rintro ⟨t, ht, ts, hts, rfl⟩
    exact ⟨t, ts, ht, hts, rfl⟩
  · rintro ⟨t, ts, ht, hts, rfl⟩
    exact ⟨t, ht, ts, hts, rfl⟩

theorem tokensOf_append_eq_ok_iff :
    ex.tokensOf (stages₁ ++ stages₂) = .ok tokens ↔
      ∃ ts₁ ts₂, ex.tokensOf stages₁ = .ok ts₁ ∧ ex.tokensOf stages₂ = .ok ts₂ ∧
        tokens = ts₁ ++ ts₂ := by
  induction stages₁ generalizing tokens with
  | nil => simp [tokensOf]
  | cons stage stages₁ ih =>
    simp only [List.cons_append, tokensOf_cons_eq_ok_iff, ih]
    constructor
    · rintro ⟨t, _, ht, ⟨ts₁, ts₂, h₁, h₂, rfl⟩, rfl⟩
      exact ⟨t.toList ++ ts₁, ts₂, ⟨t, ts₁, ht, h₁, rfl⟩, h₂, by rw [List.append_assoc]⟩
    · rintro ⟨_, ts₂, ⟨t, ts₁, ht, h₁, rfl⟩, h₂, rfl⟩
      exact ⟨t, ts₁ ++ ts₂, ht, ⟨ts₁, ts₂, h₁, h₂, rfl⟩, by rw [List.append_assoc]⟩

/-- Stages with the same outcome in two executions have the same tokens together. -/
theorem tokensOf_congr {ex' : Execution}
    (h : ∀ stage ∈ stages₁, SameOutcome (stage ex) (stage ex')) :
    SameOutcome (ex.tokensOf stages₁) (ex'.tokensOf stages₁) := by
  induction stages₁ with
  | nil => exact SameOutcome.refl _
  | cons stage rest ih =>
    have hrest := ih fun other hother => h other (List.mem_cons_of_mem stage hother)
    exact (h stage List.mem_cons_self).bind fun token => hrest.bind fun tokens => SameOutcome.refl _

/-- What holds of the tokens of each stage holds of all tokens. -/
theorem forall_mem_of_tokensOf {P : Token → Prop}
    (hstage : ∀ stage ∈ stages₁, ∀ t, stage ex = .ok (some t) → P t)
    (h : ex.tokensOf stages₁ = .ok tokens) : ∀ t ∈ tokens, P t := by
  induction stages₁ generalizing tokens with
  | nil =>
    cases h
    simp
  | cons stage stages₁ ih =>
    obtain ⟨o, ts, ho, hts, rfl⟩ := tokensOf_cons_eq_ok_iff.mp h
    intro t ht
    rcases List.mem_append.mp ht with ht | ht
    · rw [Option.mem_toList] at ht
      cases ht
      exact hstage stage List.mem_cons_self t ho
    · exact ih (fun s hs => hstage s (List.mem_cons_of_mem _ hs)) hts t ht

/-- What holds of the tokens for all codes and words holds of the token of a stage that only maps
what a code or a word says. -/
theorem forall_of_map {α : Type} {P : Token → Prop} {a? : Option α} {f : α → Token} {t : Token}
    (hf : ∀ a, P (f a)) (h : (.ok (a?.map f) : Except Failure _) = .ok (some t)) : P t := by
  obtain ⟨a, -, rfl⟩ := Option.map_eq_some_iff.mp (Except.ok.inj h)
  exact hf a

/-- A block is executed when all stages succeed and its whole number words are finite. -/
theorem run_eq_ok_iff {next : State} {tools : List Int} :
    ex.run = .ok (tokens, next, tools) ↔
      ex.tokensOf stages = .ok tokens ∧ ex.toolRequests = .ok tools ∧
        ∃ number tool, ex.sequenceNumber = .ok number ∧ ex.tool = .ok tool ∧
          ex.next number tool = next := by
  simp only [run, bind_eq_ok_iff, pure, Except.pure, Except.ok.injEq, Prod.mk.injEq]
  constructor
  · rintro ⟨number, hnumber, ts, hts, tool, htool, requests, hrequests, rfl, rfl, rfl⟩
    exact ⟨hts, hrequests, number, tool, hnumber, htool, rfl⟩
  · rintro ⟨hts, hrequests, number, tool, hnumber, htool, rfl⟩
    exact ⟨number, hnumber, tokens, hts, tool, htool, tools, hrequests, rfl, rfl, rfl⟩

/-! ### The outcomes of single stages -/

variable {o : Option Token}

theorem messageStage_cases (h : ex.messageStage = .ok o) :
    o = none ∨ ∃ text, o = some (ex.token .comment (.comment text)) := by
  unfold messageStage at h
  split at h <;> cases h
  · exact .inl rfl
  · exact .inl rfl
  · exact .inr ⟨_, rfl⟩

theorem toolSelectStage_eq_ok_iff :
    ex.toolSelectStage = .ok o ↔
      ∃ selected, ex.wholeWord? 'T' = .ok selected ∧
        o = selected.map fun tool => ex.token .toolSelect (.toolSelect tool) := by
  simp only [toolSelectStage, bind_eq_ok_iff, pure, Except.pure, Except.ok.injEq, @eq_comm _ o]

/-- A tool change yields the change itself or the tool number that it sets. -/
theorem toolChangeStage_cases (h : ex.toolChangeStage = .ok o) :
    (ex.toolNumber? = .ok none ∧ (o = none ∨ o = some (ex.token .m6 .plain))) ∨
      ∃ tool, ex.toolNumber? = .ok (some tool) ∧
        o = some (ex.token .m61 (.toolSelect tool)) := by
  unfold toolChangeStage at h
  obtain ⟨number, hnumber, h⟩ := bind_eq_ok_iff.mp h
  rw [hnumber]
  split at h
  · rename_i hchange
    -- a change sets no number
    rw [toolNumber?, hchange] at hnumber
    cases hnumber
    cases h
    exact .inl ⟨rfl, .inr rfl⟩
  · cases h
    exact .inr ⟨_, rfl, rfl⟩
  · cases h
    exact .inl ⟨rfl, .inl rfl⟩

theorem dwellStage_cases (h : ex.dwellStage = .ok o) :
    o = none ∨ ∃ seconds, o = some (ex.token .g4 (.dwell seconds)) := by
  unfold dwellStage at h
  split at h
  · obtain ⟨seconds, -, h⟩ := bind_eq_ok_iff.mp h
    cases h
    exact .inr ⟨seconds, rfl⟩
  · cases h
    exact .inl rfl

theorem toolOffsetNumber_eq_ok_iff {number : Int} :
    ex.toolOffsetNumber = .ok number ↔
      ∃ word?, ex.wholeWord? 'H' = .ok word? ∧ number = word?.getD ex.state.tool := by
  simp only [toolOffsetNumber, bind_eq_ok_iff, pure, Except.pure, Except.ok.injEq,
    @eq_comm _ number]

/-- The token of the tool length, by the mode that the block selects. -/
theorem toolLengthStage_cases (h : ex.toolLengthStage = .ok o) :
    (ex.toolLength? = none ∧ o = none) ∨
      (ex.toolLength? = some .cancel ∧ o = some (ex.token .g49 .plain)) ∨
      (ex.toolLength? = some .dynamic ∧
        o = some (ex.token .g43_1 (.toolOffsets ⟨ex.dynamicOffsets, ex.lengthWords.given⟩))) ∨
      ∃ number, ex.toolOffsetNumber = .ok number ∧
        ((ex.toolLength? = some .enable ∧ o = some (ex.token .g43 (.toolOffset number))) ∨
          (ex.toolLength? = some .additional ∧
            o = some (ex.token .g43_2 (.toolOffset number)))) := by
  unfold toolLengthStage at h
  split at h
  · rename_i hmode
    obtain ⟨number, hnumber, h⟩ := bind_eq_ok_iff.mp h
    cases h
    exact .inr (.inr (.inr ⟨number, hnumber, .inl ⟨hmode, rfl⟩⟩))
  · rename_i hmode
    obtain ⟨number, hnumber, h⟩ := bind_eq_ok_iff.mp h
    cases h
    exact .inr (.inr (.inr ⟨number, hnumber, .inr ⟨hmode, rfl⟩⟩))
  · cases h
    exact .inr (.inr (.inl ⟨‹_›, rfl⟩))
  · cases h
    exact .inr (.inl ⟨‹_›, rfl⟩)
  · cases h
    exact .inl ⟨‹_›, rfl⟩

/-- Setting data yields values for one of the work coordinate systems, or for the tool table in a
form that is supported. -/
theorem setDataStage_cases (h : ex.setDataStage = .ok o) :
    ∃ choice?, ex.wholeWord? 'P' = .ok choice? ∧
      ((ex.dataSlot (choice?.getD 0) ≤ lastSlot ∧
          o = some (ex.token .g10 (.coordinates ex.target (ex.dataSlot (choice?.getD 0))))) ∨
        ∃ form, (form = 1 ∨ form = 10 ∨ form = 11) ∧
          o = some (ex.token .g10
            (.toolTable ex.target form (choice?.getD 0) ((ex.word? 'R').map ex.millimetres)))) := by
  unfold setDataStage at h
  obtain ⟨value, -, h⟩ := bind_eq_ok_iff.mp h
  obtain ⟨form, -, h⟩ := bind_eq_ok_iff.mp h
  obtain ⟨choice?, hchoice, h⟩ := bind_eq_ok_iff.mp h
  refine ⟨choice?, hchoice, ?_⟩
  dsimp only at h
  split at h
  · unfold setCoordinates at h
    split at h <;> cases h
    exact .inl ⟨Int.not_lt.mp ‹_›, rfl⟩
  · split at h
    · rename_i hform
      cases h
      exact .inr ⟨form, hform.1, rfl⟩
    · cases h

/-! ### The outcomes of moves -/

variable {t : Token} {clockwise : Bool}

/-- An arc has a radius that fixes its center, or else at least one offset. -/
theorem arcMove_cases (h : ex.arcMove clockwise = .ok t) :
    (∃ radius center,
      centerFromRadius ex.state.position.point ex.moveEnd.point radius clockwise ex.plane =
          .ok center ∧
        t = ex.token (arcCommand clockwise)
          (.arc ex.target ⟨⟨none, none, none⟩, some radius, ex.arcDistance, ex.plane⟩)) ∨
      ((ex.offsets.i.isSome ∨ ex.offsets.j.isSome ∨ ex.offsets.k.isSome) ∧
        t = ex.token (arcCommand clockwise)
          (.arc ex.target ⟨ex.offsets, none, ex.arcDistance, ex.plane⟩)) := by
  unfold arcMove at h
  split at h
  · unfold radiusArc at h
    split at h <;> cases h
    exact .inl ⟨_, _, ‹_›, rfl⟩
  · unfold offsetArc at h
    split at h
    · cases h
    · rename_i hoffsets
      cases h
      refine .inr ⟨Decidable.byContradiction fun hnone => hoffsets ?_, rfl⟩
      simp only [not_or, Option.not_isSome_iff_eq_none] at hnone
      simp [hnone]

theorem spindleSyncMove_cases (h : ex.spindleSyncMove = .ok t) :
    ∃ pitch, t = ex.token .g33 (.spindleSync ex.target pitch) := by
  unfold spindleSyncMove at h
  split at h <;> cases h
  exact ⟨_, rfl⟩

theorem threadMove_cases (h : ex.threadMove = .ok t) :
    ∃ words, t = ex.token .g76 (.thread ex.target words) := by
  unfold threadMove at h
  obtain ⟨pitch, -, h⟩ := bind_eq_ok_iff.mp h
  dsimp only at h
  split at h
  · cases h
  · obtain ⟨number, -, h⟩ := bind_eq_ok_iff.mp h
    obtain ⟨taper, -, h⟩ := bind_eq_ok_iff.mp h
    cases h
    exact ⟨_, rfl⟩

/-- A drilling cycle is done at least once, dwells if it pauses, and has the step that its words
give. -/
theorem drillMove_cases {cycle : DrillCycle} (h : ex.drillMove cycle = .ok t) :
    ∃ (repeats : Int) (peck : Float), ex.peckOf cycle = .ok peck ∧
      t = ex.token (drillCommand cycle) (.drill ex.target
        { plane := ex.drillPlane
          repeats := if repeats ≤ 0 then 1 else repeats
          dwell := if cycle.pauses then (ex.word? 'P').getD 0.0 else 0.0
          peck }) := by
  unfold drillMove at h
  obtain ⟨repeats, -, h⟩ := bind_eq_ok_iff.mp h
  dsimp only at h
  split at h
  · cases h
  · obtain ⟨peck, hpeck, h⟩ := bind_eq_ok_iff.mp h
    cases h
    exact ⟨repeats.getD 1, peck, hpeck, rfl⟩

/-- The token of a move in a motion mode. -/
inductive IsMoveToken (ex : Execution) : MotionMode → Token → Prop
  | seek : IsMoveToken ex .seek (ex.token .g0 (.linear ex.target))
  | linear : IsMoveToken ex .linear (ex.token .g1 (.linear ex.target))
  | probe (mode : ProbeMode) :
      IsMoveToken ex (.probe mode) (ex.token (probeCommand mode) (.linear ex.target))
  | arc (clockwise : Bool) (words : ArcWords) :
      IsMoveToken ex (.arc clockwise) (ex.token (arcCommand clockwise) (.arc ex.target words))
  | spindleSync (pitch : Float) :
      IsMoveToken ex .spindleSync (ex.token .g33 (.spindleSync ex.target pitch))
  | threading (words : ThreadWords) :
      IsMoveToken ex .threading (ex.token .g76 (.thread ex.target words))
  | drill (cycle : DrillCycle) (words : DrillWords) (plane : words.plane = ex.drillPlane) :
      IsMoveToken ex (.drill cycle) (ex.token (drillCommand cycle) (.drill ex.target words))

/-- A move yields the token of the motion mode in force. -/
theorem isMoveToken_of_move (h : ex.move = .ok (some t)) : ex.IsMoveToken ex.motion t := by
  unfold move at h
  cases hmotion : ex.motion with
  | seek | linear | probe mode =>
    rw [hmotion] at h
    cases h
    constructor
  | arc clockwise =>
    rw [hmotion] at h
    obtain ⟨t, ht, htoken⟩ := map_eq_ok_iff.mp h
    cases htoken
    rcases arcMove_cases ht with ⟨radius, center, -, rfl⟩ | ⟨-, rfl⟩
    · exact .arc clockwise _
    · exact .arc clockwise _
  | spindleSync =>
    rw [hmotion] at h
    obtain ⟨t, ht, htoken⟩ := map_eq_ok_iff.mp h
    cases htoken
    obtain ⟨pitch, rfl⟩ := spindleSyncMove_cases ht
    exact .spindleSync pitch
  | threading =>
    rw [hmotion] at h
    obtain ⟨t, ht, htoken⟩ := map_eq_ok_iff.mp h
    cases htoken
    obtain ⟨words, rfl⟩ := threadMove_cases ht
    exact .threading words
  | drill cycle =>
    rw [hmotion] at h
    obtain ⟨t, ht, htoken⟩ := map_eq_ok_iff.mp h
    cases htoken
    obtain ⟨repeats, peck, -, rfl⟩ := drillMove_cases ht
    exact .drill cycle _ rfl
  | cancelled =>
    rw [hmotion] at h
    cases h

/-- A move yields the token of some motion mode. -/
theorem exists_isMoveToken (h : ex.move = .ok (some t)) : ∃ mode, ex.IsMoveToken mode t :=
  ⟨ex.motion, isMoveToken_of_move h⟩

/-- Only a cancelled motion has no token. -/
theorem motion_eq_cancelled_of_move (h : ex.move = .ok none) : ex.motion = .cancelled := by
  unfold move at h
  split at h
  case h_8 => assumption
  case h_1 | h_2 | h_3 => cases h
  all_goals
    obtain ⟨t, -, htoken⟩ := map_eq_ok_iff.mp h
    cases htoken

end Execution

end NumericControl
