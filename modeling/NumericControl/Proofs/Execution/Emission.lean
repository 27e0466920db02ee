import Mathlib.Data.List.Forall2
import NumericControl.Proofs.Execution.Stages

/-!
# What a block emits

A block emits its tokens stage by stage.  All that it can emit is listed here once, with the stage
that emits it and what the block says there; what holds of all tokens of a block is proved from
this list.  The command of a token tells its stage.

## Main definitions

* `Stage` : the stages by name, with their order and the place of each in it.
* `Command.stage` : the stage that emits a command.
* `Execution.Emits` : the tokens that a block can emit at a stage.

## Main results

* `Execution.emits_stages` : every stage emits what is listed for it.
* `Execution.Emits.stage_eq`, `Execution.Emits.line_eq` : stage and line of what is emitted.
* `Execution.emits_of_run`, `Execution.mem_of_run` : the tokens of a block are what its stages emit.
* `Execution.map_stage_run` : they are emitted in the order of the stages.
-/

namespace NumericControl

/-- The stages in which a block is executed. -/
inductive Stage where
  | message
  | feedMode
  | feed
  | spindleSpeedMode
  | spindleSpeed
  | toolSelect
  | toolChange
  | spindle
  | coolant
  | override
  | userCode
  | dwell
  | plane
  | lathe
  | units
  | scaling
  | cutterCompensation
  | toolLength
  | coordinateSystem
  | path
  | distance
  | arcDistance
  | retract
  | positioning
  | motion
  | flow
deriving DecidableEq, Repr

namespace Stage

/-- The stages in their order. -/
def order : List Stage :=
  [message, feedMode, feed, spindleSpeedMode, spindleSpeed, toolSelect, toolChange, spindle,
    coolant, override, userCode, dwell, plane, lathe, units, scaling, cutterCompensation,
    toolLength, coordinateSystem, path, distance, arcDistance, retract, positioning, motion, flow]

/-- The place of a stage in the order, counted from zero. -/
def rank (stage : Stage) : Nat :=
  order.idxOf stage

theorem pairwise_rank_order : order.Pairwise fun a b => a.rank < b.rank := by
  decide

end Stage

/-- The stage that emits a command. -/
def Command.stage : Command → Stage
  | comment => .message
  | g93 | g94 | g95 => .feedMode
  | feedrate => .feed
  | g96 | g97 => .spindleSpeedMode
  | spindleRpm => .spindleSpeed
  | toolSelect => .toolSelect
  | m6 | m61 => .toolChange
  | spindleState => .spindle
  | coolantState => .coolant
  | m48 | m49 | m50 | m51 | m52 | m53 | m56 => .override
  | userCode => .userCode
  | g4 => .dwell
  | g17 | g18 | g19 => .plane
  | g7 | g8 => .lathe
  | g20 | g21 => .units
  | g50 | g51 => .scaling
  | g40 => .cutterCompensation
  | g43 | g43_1 | g43_2 | g49 => .toolLength
  | g54 | g55 | g56 | g57 | g58 | g59 | g59_1 | g59_2 | g59_3 => .coordinateSystem
  | g61 | g61_1 | g64 => .path
  | g90 | g91 => .distance
  | g90_1 | g91_1 => .arcDistance
  | g98 | g99 => .retract
  | g10 | g28 | g28_1 | g30 | g30_1 | g53 | g92 | g92_1 | g92_2 | g92_3 => .positioning
  | g0 | g1 | g2 | g3 | g33 | g38_2 | g38_3 | g38_4 | g38_5 | g73 | g76 | g80 | g81 | g82 | g83
  | g85 | g86 | g89 => .motion
  | m0 | m1 | m2 | m30 => .flow

namespace Execution

variable {ex : Execution} {stage : Stage} {t : Token} {tokens : List Token}

/-- The tokens that a block can emit at a stage, with what it says there. -/
inductive Emits (ex : Execution) : Stage → Token → Prop
  | message (text : String) : Emits ex .message (ex.token .comment (.comment text))
  | feedMode {mode : FeedMode} (code : ex.feedMode? = some mode) :
      Emits ex .feedMode (ex.token (feedModeCommand mode) .plain)
  | feed {value : Float} (word : ex.word? 'F' = some value) :
      Emits ex .feed (ex.token .feedrate (.feed value))
  | spindleSpeedMode {mode : SpindleSpeedMode} (code : ex.spindleSpeedMode? = some mode) :
      Emits ex .spindleSpeedMode (ex.token (spindleSpeedModeCommand mode) .plain)
  | spindleSpeed {value : Float} (word : ex.word? 'S' = some value) :
      Emits ex .spindleSpeed (ex.token .spindleRpm (.spindleSpeed value))
  | toolSelect (tool : Int) : Emits ex .toolSelect (ex.token .toolSelect (.toolSelect tool))
  | toolChange : Emits ex .toolChange (ex.token .m6 .plain)
  | toolNumber (tool : Int) : Emits ex .toolChange (ex.token .m61 (.toolSelect tool))
  | spindle {state : SpindleState} (code : ex.spindle? = some state) :
      Emits ex .spindle (ex.token .spindleState (.spindle state))
  | coolant {state : Coolant} (code : ex.coolant? = some state) :
      Emits ex .coolant (ex.token .coolantState (.coolant state))
  | override {action : Override} (code : ex.override? = some action) :
      Emits ex .override (ex.token (overrideCommand action) .plain)
  | userCode {number : Int} (code : ex.user? = some number) :
      Emits ex .userCode (ex.token .userCode (.userCode number ex.parameters))
  | dwell (seconds : Float) : Emits ex .dwell (ex.token .g4 (.dwell seconds))
  | plane {plane : Plane} (code : ex.plane? = some plane) :
      Emits ex .plane (ex.token (planeCommand plane) (.plane plane))
  | lathe {mode : LatheMode} (code : ex.lathe? = some mode) :
      Emits ex .lathe (ex.token (latheCommand mode) (.lathe mode))
  | units {units : Units} (code : ex.units? = some units) :
      Emits ex .units (ex.token (unitsCommand units) (.units units))
  | scaling {active : Bool} (code : ex.scaling? = some active) :
      Emits ex .scaling (ex.token (if active then .g51 else .g50)
        (.scaling ⟨ex.scaleFactors, ex.axisWords.given⟩))
  | cutterOff : Emits ex .cutterCompensation (ex.token .g40 .plain)
  | toolOffset (number : Int) : Emits ex .toolLength (ex.token .g43 (.toolOffset number))
  | furtherOffset (number : Int) : Emits ex .toolLength (ex.token .g43_2 (.toolOffset number))
  | toolOffsets : Emits ex .toolLength
      (ex.token .g43_1 (.toolOffsets ⟨ex.dynamicOffsets, ex.lengthWords.given⟩))
  | noToolOffset : Emits ex .toolLength (ex.token .g49 .plain)
  | coordinateSystem {slot : Nat} (code : ex.coordinateSystem? = some slot) :
      Emits ex .coordinateSystem (ex.token (coordinateSystemCommand slot) .plain)
  | path {mode : PathMode} (code : ex.path? = some mode) :
      Emits ex .path (ex.token (pathCommand mode) .plain)
  | distance {mode : DistanceMode} (code : ex.distance? = some mode) :
      Emits ex .distance (ex.token (distanceCommand mode) (.distance mode))
  | arcDistance {mode : DistanceMode} (code : ex.arcDistance? = some mode) :
      Emits ex .arcDistance (ex.token (arcDistanceCommand mode) (.arcDistance mode))
  | retract {mode : RetractMode} (code : ex.retract? = some mode) :
      Emits ex .retract (ex.token (retractCommand mode) .plain)
  | coordinates {choice : Int} (inRange : ex.dataSlot choice ≤ lastSlot) :
      Emits ex .positioning (ex.token .g10 (.coordinates ex.target (ex.dataSlot choice)))
  | toolTable {form : Int} (choice : Int) (supported : form = 1 ∨ form = 10 ∨ form = 11) :
      Emits ex .positioning
        (ex.token .g10 (.toolTable ex.target form choice ((ex.word? 'R').map ex.millimetres)))
  | goFirst : Emits ex .positioning (ex.token .g28 (.linear ex.target))
  | goSecond : Emits ex .positioning (ex.token .g30 (.linear ex.target))
  | machine : Emits ex .positioning (ex.token .g53 (.linear ex.target))
  | storeFirst : Emits ex .positioning (ex.token .g28_1 (.coordinates ex.target firstSlot))
  | storeSecond : Emits ex .positioning (ex.token .g30_1 (.coordinates ex.target secondSlot))
  | setOffset : Emits ex .positioning (ex.token .g92 (.coordinates ex.target offsetSlot))
  | clearOffset : Emits ex .positioning (ex.token .g92_1 .plain)
  | suspendOffset : Emits ex .positioning (ex.token .g92_2 .plain)
  | restoreOffset : Emits ex .positioning (ex.token .g92_3 .plain)
  | cancelled : Emits ex .motion (ex.token .g80 .plain)
  | move {t : Token} (moves : ex.move = .ok (some t)) : Emits ex .motion t
  | flow {action : ProgramFlow} (code : ex.flow? = some action) :
      Emits ex .flow (ex.token (flowCommand action) .plain)

/-! ### The stages one by one -/

private theorem emits_map {α : Type} {a? : Option α} {f : α → Token}
    (hf : ∀ a, a? = some a → ex.Emits stage (f a)) (t : Token)
    (h : (.ok (a?.map f) : Except Failure (Option Token)) = .ok (some t)) : ex.Emits stage t := by
  obtain ⟨a, ha, rfl⟩ := Option.map_eq_some_iff.mp (Except.ok.inj h)
  exact hf a ha

private theorem emits_plainStage {α : Type} {a? : Option α} {command : α → Command}
    (hf : ∀ a, a? = some a → ex.Emits stage (ex.token (command a) .plain)) (t : Token)
    (h : ex.plainStage (a?.map command) = .ok (some t)) : ex.Emits stage t := by
  rw [plainStage, Option.map_map] at h
  exact emits_map hf t h

private theorem emits_messageStage (t : Token) (h : ex.messageStage = .ok (some t)) :
    ex.Emits .message t := by
  rcases messageStage_cases h with h | ⟨text, h⟩ <;> cases h
  exact .message text

private theorem emits_toolSelectStage (t : Token) (h : ex.toolSelectStage = .ok (some t)) :
    ex.Emits .toolSelect t := by
  obtain ⟨selected, -, h⟩ := toolSelectStage_eq_ok_iff.mp h
  obtain ⟨tool, -, rfl⟩ := Option.map_eq_some_iff.mp h.symm
  exact .toolSelect tool

private theorem emits_toolChangeStage (t : Token) (h : ex.toolChangeStage = .ok (some t)) :
    ex.Emits .toolChange t := by
  rcases toolChangeStage_cases h with ⟨-, h | h⟩ | ⟨tool, -, h⟩ <;> cases h
  · exact .toolChange
  · exact .toolNumber tool

private theorem emits_dwellStage (t : Token) (h : ex.dwellStage = .ok (some t)) :
    ex.Emits .dwell t := by
  rcases dwellStage_cases h with h | ⟨seconds, h⟩ <;> cases h
  exact .dwell seconds

private theorem emits_toolLengthStage (t : Token) (h : ex.toolLengthStage = .ok (some t)) :
    ex.Emits .toolLength t := by
  rcases toolLengthStage_cases h with ⟨-, h⟩ | ⟨-, h⟩ | ⟨-, h⟩ | ⟨number, -, ⟨-, h⟩ | ⟨-, h⟩⟩ <;>
    cases h
  · exact .noToolOffset
  · exact .toolOffsets
  · exact .toolOffset number
  · exact .furtherOffset number

private theorem emits_setDataStage (t : Token) (h : ex.setDataStage = .ok (some t)) :
    ex.Emits .positioning t := by
  obtain ⟨choice?, -, ⟨hslot, h⟩ | ⟨form, hform, h⟩⟩ := setDataStage_cases h
  · cases h
    exact .coordinates hslot
  · cases h
    exact .toolTable _ hform

private theorem emits_positioningStage (t : Token) (h : ex.positioningStage = .ok (some t)) :
    ex.Emits .positioning t := by
  unfold positioningStage at h
  split at h
  case h_2 => exact emits_setDataStage t h
  all_goals cases h <;> constructor

private theorem emits_motionStage (t : Token) (h : ex.motionStage = .ok (some t)) :
    ex.Emits .motion t := by
  unfold motionStage at h
  split at h
  · cases h
    exact .cancelled
  · split at h
    · exact .move h
    · cases h

/-- Every stage emits what is listed for it. -/
theorem emits_stages (ex : Execution) :
    List.Forall₂ (fun run stage => ∀ t, run ex = .ok (some t) → ex.Emits stage t)
      stages Stage.order :=
  .cons emits_messageStage <|
  .cons (emits_plainStage fun _ => .feedMode) <|
  .cons (emits_map fun _ => .feed) <|
  .cons (emits_plainStage fun _ => .spindleSpeedMode) <|
  .cons (emits_map fun _ => .spindleSpeed) <|
  .cons emits_toolSelectStage <|
  .cons emits_toolChangeStage <|
  .cons (emits_map fun _ => .spindle) <|
  .cons (emits_map fun _ => .coolant) <|
  .cons (emits_plainStage fun _ => .override) <|
  .cons (emits_map fun _ => .userCode) <|
  .cons emits_dwellStage <|
  .cons (emits_map fun _ => .plane) <|
  .cons (emits_map fun _ => .lathe) <|
  .cons (emits_map fun _ => .units) <|
  .cons (emits_map fun _ => .scaling) <|
  .cons (emits_plainStage fun _ _ => .cutterOff) <|
  .cons emits_toolLengthStage <|
  .cons (emits_plainStage fun _ => .coordinateSystem) <|
  .cons (emits_plainStage fun _ => .path) <|
  .cons (emits_map fun _ => .distance) <|
  .cons (emits_map fun _ => .arcDistance) <|
  .cons (emits_plainStage fun _ => .retract) <|
  .cons emits_positioningStage <|
  .cons emits_motionStage <|
  .cons (emits_plainStage fun _ => .flow) .nil

/-! ### Stage and line of a token -/

/-- The command of a token tells the stage that emits it. -/
theorem Emits.stage_eq (h : ex.Emits stage t) : t.command.stage = stage := by
  cases h with
  | feedMode | spindleSpeedMode | override | plane | lathe | units | path | distance | arcDistance
    | retract | flow =>
    rename_i mode _
    cases mode <;> rfl
  | scaling =>
    rename_i active _
    cases active <;> rfl
  | @coordinateSystem slot =>
    change (coordinateSystemCommand slot).stage = _
    unfold coordinateSystemCommand
    split <;> rfl
  | move moves =>
    obtain ⟨mode, htoken⟩ := exists_isMoveToken moves
    cases htoken with
    | probe mode => cases mode <;> rfl
    | arc clockwise => cases clockwise <;> rfl
    | drill cycle => cases cycle <;> rfl
    | seek | linear | spindleSync | threading => rfl
  | _ => rfl

/-- A block emits tokens on its line. -/
theorem Emits.line_eq (h : ex.Emits stage t) : t.line = ex.lineNumber := by
  cases h with
  | move moves =>
    obtain ⟨mode, htoken⟩ := exists_isMoveToken moves
    cases htoken <;> rfl
  | _ => rfl

/-! ### The tokens of a block -/

variable {next : State} {tools : List Int}
  {runs : List (Execution → Except Failure (Option Token))}

theorem mem_tokensOf {run : Execution → Except Failure (Option Token)} (hrun : run ∈ runs)
    (ht : run ex = .ok (some t)) (h : ex.tokensOf runs = .ok tokens) : t ∈ tokens := by
  induction runs generalizing tokens with
  | nil => cases hrun
  | cons first runs ih =>
    obtain ⟨o, ts, ho, hts, rfl⟩ := tokensOf_cons_eq_ok_iff.mp h
    rcases List.mem_cons.mp hrun with rfl | hrun
    · cases ho.symm.trans ht
      exact List.mem_append_left ts (List.mem_singleton.mpr rfl)
    · exact List.mem_append_right _ (ih hrun hts)

/-- What a stage yields is among the tokens of the block. -/
theorem mem_of_run {run : Execution → Except Failure (Option Token)}
    (h : ex.run = .ok (tokens, next, tools)) (hrun : run ∈ stages)
    (ht : run ex = .ok (some t)) : t ∈ tokens :=
  mem_tokensOf hrun ht (run_eq_ok_iff.mp h).1

/-- Where runs emit at most the stages beside them, their tokens are emitted at some of these
stages, in order. -/
theorem emits_tokensOf {order : List Stage}
    (hemits : List.Forall₂ (fun run stage => ∀ t, run ex = .ok (some t) → ex.Emits stage t)
      runs order) (h : ex.tokensOf runs = .ok tokens) :
    List.SublistForall₂ (fun t stage => ex.Emits stage t) tokens order := by
  induction hemits generalizing tokens with
  | nil =>
    cases h
    exact .nil
  | cons hfirst _ ih =>
    obtain ⟨o, ts, ho, hts, rfl⟩ := tokensOf_cons_eq_ok_iff.mp h
    cases o with
    | none => exact (ih hts).cons_right
    | some t => exact .cons (hfirst t ho) (ih hts)

/-- The stages of the tokens of a block are some of the stages, in order. -/
private theorem exists_stages_of_run (h : ex.run = .ok (tokens, next, tools)) :
    List.Forall₂ (fun t stage => ex.Emits stage t) tokens (tokens.map fun t => t.command.stage) ∧
      (tokens.map fun t => t.command.stage).Sublist Stage.order := by
  obtain ⟨names, hnames, hsublist⟩ :=
    List.sublistForall₂_iff.mp (emits_tokensOf ex.emits_stages (run_eq_ok_iff.mp h).1)
  have heq : tokens.map (fun t => t.command.stage) = names := by
    rw [← List.forall₂_eq_eq_eq, List.forall₂_map_left_iff]
    exact hnames.imp fun _ _ => Emits.stage_eq
  exact heq ▸ ⟨hnames, hsublist⟩

/-- Every token of a block is emitted at the stage of its command. -/
theorem emits_of_run (h : ex.run = .ok (tokens, next, tools)) :
    ∀ t ∈ tokens, ex.Emits t.command.stage t := by
  have hemits := List.forall₂_same.mp (List.forall₂_map_right_iff.mp (exists_stages_of_run h).1)
  exact hemits

/-- The tokens of a block are in the order of the stages, at most one of each. -/
theorem map_stage_run (h : ex.run = .ok (tokens, next, tools)) :
    (tokens.map fun t => t.command.stage).Sublist Stage.order :=
  (exists_stages_of_run h).2

end Execution

end NumericControl
