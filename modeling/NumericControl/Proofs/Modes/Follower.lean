import Mathlib.Data.List.Forall2
import NumericControl.Proofs.Execution.Stages

/-!
# Following the modes along the tokens

Who only sees the tokens of a program can keep track of its modes: every token that selects a mode,
sets a number or closes the program overwrites its own part of the state, and all other tokens
leave the state as it is.  Stage by stage, the tokens of a block tell the modes in force after it.

## Main definitions

* `State.follow` : the state after a token, as far as the token tells of it.
* `SameModes` : two states that agree on everything that tokens tell.
* `Execution.Tells` : what the tokens of a stage do to the state of a follower.
* `Execution.modeEffects` : the effect of every stage, in order.

## Main results

* `Execution.tells_stages` : every stage tells its effect.
* `Execution.sameModes_foldl_follow` : the tokens of a block lead a follower to the modes after it.
* `Execution.programEnd_foldl_follow` : they tell whether the block ends the program.
-/

namespace NumericControl

/-! ### A follower -/

/-- The state after a token that says nothing beside its command. -/
def State.followCommand (s : State) : Command → State
  | .g93 => { s with feedMode := .inverseTime }
  | .g94 => { s with feedMode := .perMinute }
  | .g95 => { s with feedMode := .perRevolution }
  | .g96 => { s with spindleSpeedMode := .surfaceSpeed }
  | .g97 => { s with spindleSpeedMode := .revolutions }
  | .g49 => { s with toolLength := .cancel, toolOffsets := .zero }
  | .g54 => { s with coordinateSystem := 0 }
  | .g55 => { s with coordinateSystem := 1 }
  | .g56 => { s with coordinateSystem := 2 }
  | .g57 => { s with coordinateSystem := 3 }
  | .g58 => { s with coordinateSystem := 4 }
  | .g59 => { s with coordinateSystem := 5 }
  | .g59_1 => { s with coordinateSystem := 6 }
  | .g59_2 => { s with coordinateSystem := 7 }
  | .g59_3 => { s with coordinateSystem := 8 }
  | .g61 => { s with path := .exactPath }
  | .g61_1 => { s with path := .exactStop }
  | .g64 => { s with path := .continuous }
  | .g98 => { s with retract := .oldZ }
  | .g99 => { s with retract := .rPlane }
  | .m2 | .m30 => { s with programEnd := true }
  | _ => s

/-- The state after a token, as far as the token tells of it: a token overwrites the mode that it
selects or the number that it sets, and nothing else. -/
def State.follow (s : State) (t : Token) : State :=
  match t.body with
  | .plain => s.followCommand t.command
  | .plane plane => { s with plane }
  | .distance mode => { s with distance := mode }
  | .arcDistance mode => { s with arcDistance := mode }
  | .units units => { s with units }
  | .lathe mode => { s with lathe := mode }
  | .spindle state => { s with spindle := state }
  | .coolant state => { s with coolant := state }
  | .toolSelect tool => { s with tool }
  | .scaling target => { s with scaleFactors := target.values }
  | .toolOffset _ =>
    { s with toolLength := if t.command = .g43_2 then .additional else .enable }
  | .toolOffsets target => { s with toolLength := .dynamic, toolOffsets := target.values }
  | .drill _ words => { s with drillPlane := words.plane }
  | _ => s

/-- Whether a motion mode is a drilling cycle. -/
def MotionMode.isDrill : MotionMode → Bool
  | .drill _ => true
  | _ => false

/-- Two states that agree on everything that tokens tell, but for the program end. -/
structure SameModes (s t : State) : Prop where
  plane : s.plane = t.plane
  distance : s.distance = t.distance
  arcDistance : s.arcDistance = t.arcDistance
  units : s.units = t.units
  lathe : s.lathe = t.lathe
  coordinateSystem : s.coordinateSystem = t.coordinateSystem
  toolLength : s.toolLength = t.toolLength
  toolOffsets : s.toolOffsets = t.toolOffsets
  scaleFactors : s.scaleFactors = t.scaleFactors
  spindle : s.spindle = t.spindle
  coolant : s.coolant = t.coolant
  feedMode : s.feedMode = t.feedMode
  spindleSpeedMode : s.spindleSpeedMode = t.spindleSpeedMode
  path : s.path = t.path
  retract : s.retract = t.retract
  drillPlane : s.drillPlane = t.drillPlane
  tool : s.tool = t.tool

theorem SameModes.refl (s : State) : SameModes s s :=
  ⟨rfl, rfl, rfl, rfl, rfl, rfl, rfl, rfl, rfl, rfl, rfl, rfl, rfl, rfl, rfl, rfl, rfl⟩

namespace Execution

variable {ex : Execution} {o : Option Token}

/-! ### The effects of the stages -/

/-- The tokens of a stage lead a follower from a state to the one that the effect gives. -/
def Tells (ex : Execution) (stage : Execution → Except Failure (Option Token))
    (effect : Execution → State → State) : Prop :=
  ∀ o, stage ex = .ok o → ∀ s : State, o.toList.foldl State.follow s = effect ex s

/-- The effect of a stage that tells nothing of the modes. -/
def keepModes (_ : Execution) (s : State) : State :=
  s

/-- Whether the block moves the tool in a drilling cycle. -/
def drills (ex : Execution) : Bool :=
  ex.motion.isDrill && ex.moves

/-- The tool offsets after a tool length mode. -/
def offsetsAfter (ex : Execution) (before : AxisValues) : Option ToolLengthMode → AxisValues
  | some .dynamic => ex.dynamicOffsets
  | some .cancel => .zero
  | _ => before

/-- The effect of every stage, in the order of the stages. -/
def modeEffects : List (Execution → State → State) :=
  [keepModes,
    fun ex s => { s with feedMode := ex.feedMode?.getD s.feedMode },
    keepModes,
    fun ex s => { s with spindleSpeedMode := ex.spindleSpeedMode?.getD s.spindleSpeedMode },
    keepModes,
    fun ex s => { s with tool := (ex.wholeWord? 'T').toOption.join.getD s.tool },
    fun ex s => { s with tool := ex.toolNumber?.toOption.join.getD s.tool },
    fun ex s => { s with spindle := ex.spindle?.getD s.spindle },
    fun ex s => { s with coolant := ex.coolant?.getD s.coolant },
    keepModes,
    keepModes,
    keepModes,
    fun ex s => { s with plane := ex.plane?.getD s.plane },
    fun ex s => { s with lathe := ex.lathe?.getD s.lathe },
    fun ex s => { s with units := ex.units?.getD s.units },
    fun ex s =>
      { s with scaleFactors := if ex.scaling?.isSome then ex.scaleFactors else s.scaleFactors },
    keepModes,
    fun ex s =>
      { s with
        toolLength := ex.toolLength?.getD s.toolLength
        toolOffsets := ex.offsetsAfter s.toolOffsets ex.toolLength? },
    fun ex s => { s with coordinateSystem := ex.coordinateSystem?.getD s.coordinateSystem },
    fun ex s => { s with path := ex.path?.getD s.path },
    fun ex s => { s with distance := ex.distance?.getD s.distance },
    fun ex s => { s with arcDistance := ex.arcDistance?.getD s.arcDistance },
    fun ex s => { s with retract := ex.retract?.getD s.retract },
    keepModes,
    fun ex s => { s with drillPlane := if ex.drills then ex.drillPlane else s.drillPlane },
    fun ex s => { s with programEnd := s.programEnd || ex.endsProgram }]

/-- A stage that maps what a code or a word says to tokens tells what these tokens tell. -/
private theorem tells_of_map {α : Type} {stage : Execution → Except Failure (Option Token)}
    {effect : Execution → State → State} {f : α → Token} {a? : Option α}
    (hstage : stage ex = .ok (a?.map f)) (hnone : a? = none → ∀ s, effect ex s = s)
    (hsome : ∀ a, a? = some a → ∀ s, State.follow s (f a) = effect ex s) :
    ex.Tells stage effect := by
  intro o h s
  rw [hstage] at h
  cases h
  cases ha : a? with
  | none => exact (hnone ha s).symm
  | some a => exact hsome a ha s

/-- A stage whose token says nothing beside its command tells what the command tells. -/
private theorem tells_of_plain {α : Type} {stage : Execution → Except Failure (Option Token)}
    {effect : Execution → State → State} {command : α → Command} {a? : Option α}
    (hstage : stage ex = ex.plainStage (a?.map command))
    (hnone : a? = none → ∀ s, effect ex s = s)
    (hsome : ∀ a, a? = some a → ∀ s : State, s.followCommand (command a) = effect ex s) :
    ex.Tells stage effect := by
  have hstage' : stage ex = .ok (a?.map fun a => ex.token (command a) .plain) := by
    rw [hstage, plainStage, Option.map_map]
    rfl
  exact tells_of_map hstage' hnone hsome

/-- A stage whose tokens a follower passes over tells nothing. -/
private theorem tells_keepModes {stage : Execution → Except Failure (Option Token)}
    (h : ∀ t, stage ex = .ok (some t) → ∀ s, State.follow s t = s) :
    ex.Tells stage keepModes := by
  intro o ho s
  cases o with
  | none => rfl
  | some t => exact h t ho s

/-! ### The stages one by one -/

private theorem tells_messageStage : ex.Tells messageStage keepModes := by
  refine tells_keepModes fun t h s => ?_
  rcases messageStage_cases h with h | ⟨text, h⟩ <;> cases h
  rfl

private theorem tells_toolSelectStage :
    ex.Tells toolSelectStage fun ex s =>
      { s with tool := (ex.wholeWord? 'T').toOption.join.getD s.tool } := by
  intro o h s
  obtain ⟨selected, hword, rfl⟩ := toolSelectStage_eq_ok_iff.mp h
  simp only [hword]
  cases selected <;> rfl

private theorem tells_toolChangeStage :
    ex.Tells toolChangeStage fun ex s =>
      { s with tool := ex.toolNumber?.toOption.join.getD s.tool } := by
  intro o h s
  rcases toolChangeStage_cases h with ⟨hnumber, rfl | rfl⟩ | ⟨tool, hnumber, rfl⟩
  all_goals
    simp only [hnumber]
    rfl

private theorem tells_dwellStage : ex.Tells dwellStage keepModes := by
  refine tells_keepModes fun t h s => ?_
  rcases dwellStage_cases h with h | ⟨seconds, h⟩ <;> cases h
  rfl

private theorem tells_toolLengthStage :
    ex.Tells toolLengthStage fun ex s =>
      { s with
        toolLength := ex.toolLength?.getD s.toolLength
        toolOffsets := ex.offsetsAfter s.toolOffsets ex.toolLength? } := by
  intro o h s
  rcases toolLengthStage_cases h with ⟨hmode, rfl⟩ | ⟨hmode, rfl⟩ | ⟨hmode, rfl⟩ |
    ⟨number, -, ⟨hmode, rfl⟩ | ⟨hmode, rfl⟩⟩
  all_goals
    simp only [hmode]
    rfl

/-- The command of a work coordinate system tells which one it is. -/
theorem followCommand_coordinateSystemCommand {slot : Nat} (h : slot ≤ 8) (s : State) :
    s.followCommand (coordinateSystemCommand slot) = { s with coordinateSystem := slot } := by
  match slot, h with
  | 0, _ | 1, _ | 2, _ | 3, _ | 4, _ | 5, _ | 6, _ | 7, _ | 8, _ => rfl

private theorem tells_coordinateSystemStage (hslot : ∀ slot ∈ ex.coordinateSystem?, slot ≤ 8) :
    ex.Tells coordinateSystemStage fun ex s =>
      { s with coordinateSystem := ex.coordinateSystem?.getD s.coordinateSystem } := by
  refine tells_of_plain rfl (fun h s => by rw [h]; rfl) fun slot h s => ?_
  rw [h, followCommand_coordinateSystemCommand (hslot slot h)]
  rfl

private theorem tells_positioningStage : ex.Tells positioningStage keepModes := by
  refine tells_keepModes fun t h s => ?_
  unfold positioningStage at h
  split at h
  case h_1 => cases h
  case h_2 =>
    obtain ⟨choice?, -, ⟨-, h⟩ | ⟨form, -, h⟩⟩ := setDataStage_cases h
    · cases h
      rfl
    · cases h
      rfl
  all_goals
    cases h
    rfl

/-- The token of a drilling cycle tells the retract plane, and no other move tells a mode. -/
private theorem follow_isMoveToken {mode : MotionMode} {t : Token} (h : ex.IsMoveToken mode t)
    (s : State) :
    State.follow s t =
      { s with drillPlane := if mode.isDrill then ex.drillPlane else s.drillPlane } := by
  cases h with
  | drill cycle words plane =>
    simp only [MotionMode.isDrill, ← plane]
    rfl
  | seek | linear | probe | arc | spindleSync | threading => rfl

private theorem tells_motionStage :
    ex.Tells motionStage fun ex s =>
      { s with drillPlane := if ex.drills then ex.drillPlane else s.drillPlane } := by
  intro o h s
  unfold motionStage at h
  split at h
  · rename_i hmotion
    cases h
    simp only [drills, motion, hmotion]
    rfl
  · split at h
    · rename_i hmoves
      cases o with
      | none =>
        simp only [drills, motion_eq_cancelled_of_move h]
        rfl
      | some t =>
        simp only [drills, hmoves, Bool.and_true]
        exact follow_isMoveToken (isMoveToken_of_move h) s
    · rename_i hmoves
      cases h
      simp only [drills, hmoves, Bool.and_false]
      rfl

private theorem tells_flowStage :
    ex.Tells flowStage fun ex s => { s with programEnd := s.programEnd || ex.endsProgram } := by
  refine tells_of_plain rfl (fun h s => ?_) fun flow h s => ?_
  · have hends : ex.endsProgram = false := by rw [endsProgram, h]; rfl
    simp only [hends, Bool.or_false]
  · cases flow with
    | stop | optionalStop =>
      have hends : ex.endsProgram = false := by rw [endsProgram, h]; rfl
      simp only [hends, Bool.or_false]
      rfl
    | finish | finishAndRewind =>
      have hends : ex.endsProgram = true := by rw [endsProgram, h]; rfl
      simp only [hends, Bool.or_true]
      rfl

/-! ### All stages -/

/-- Every stage tells its effect; the number of a coordinate system has to be one that a code
can have. -/
theorem tells_stages (hslot : ∀ slot ∈ ex.coordinateSystem?, slot ≤ 8) :
    List.Forall₂ ex.Tells stages modeEffects := by
  simp only [stages, modeEffects, List.forall₂_cons, List.Forall₂.nil, and_true]
  refine ⟨tells_messageStage, ?feedMode, ?feed, ?spindleSpeedMode, ?spindleSpeed,
    tells_toolSelectStage, tells_toolChangeStage, ?spindle, ?coolant, ?override, ?user,
    tells_dwellStage, ?plane, ?lathe, ?units, ?scaling, ?cutter, tells_toolLengthStage,
    tells_coordinateSystemStage hslot, ?path, ?distance, ?arcDistance, ?retract,
    tells_positioningStage, tells_motionStage, tells_flowStage⟩
  case feedMode =>
    refine tells_of_plain rfl (fun h s => by rw [h]; rfl) fun mode h s => ?_
    rw [h]
    cases mode <;> rfl
  case spindleSpeedMode =>
    refine tells_of_plain rfl (fun h s => by rw [h]; rfl) fun mode h s => ?_
    rw [h]
    cases mode <;> rfl
  case path =>
    refine tells_of_plain rfl (fun h s => by rw [h]; rfl) fun mode h s => ?_
    rw [h]
    cases mode <;> rfl
  case retract =>
    refine tells_of_plain rfl (fun h s => by rw [h]; rfl) fun mode h s => ?_
    rw [h]
    cases mode <;> rfl
  case override =>
    refine tells_of_plain rfl (fun _ _ => rfl) fun override _ s => ?_
    cases override <;> rfl
  case feed | spindleSpeed | user => exact tells_of_map rfl (fun _ _ => rfl) fun _ _ _ => rfl
  case cutter => exact tells_of_plain rfl (fun _ _ => rfl) fun _ _ _ => rfl
  all_goals exact tells_of_map rfl (fun h s => by rw [h]; rfl) fun _ h s => by rw [h]; rfl

/-- The tokens of stages lead a follower through the effects of the stages, one after another. -/
theorem foldl_follow_tokensOf {list : List (Execution → Except Failure (Option Token))}
    {effects : List (Execution → State → State)} {tokens : List Token}
    (hlist : List.Forall₂ ex.Tells list effects) (h : ex.tokensOf list = .ok tokens) (s : State) :
    tokens.foldl State.follow s = effects.foldl (fun s effect => effect ex s) s := by
  induction hlist generalizing tokens s with
  | nil =>
    cases h
    rfl
  | cons hstage _ ih =>
    obtain ⟨o, rest, ho, hrest, rfl⟩ := tokensOf_cons_eq_ok_iff.mp h
    rw [List.foldl_append, List.foldl_cons, hstage o ho, ih hrest]

/-! ### The whole block -/

/-- A block without a scaling code keeps the scale factors. -/
private theorem scaleFactors_eq :
    (if ex.scaling?.isSome then ex.scaleFactors else ex.state.scaleFactors) = ex.scaleFactors := by
  unfold scaleFactors
  cases ex.scaling? <;> rfl

/-- A block without a tool length code keeps the tool offsets. -/
private theorem offsetsAfter_eq :
    ex.offsetsAfter ex.state.toolOffsets ex.toolLength? = ex.toolOffsets := by
  unfold toolOffsets offsetsAfter
  split <;> simp_all

/-- A block that does not drill keeps the retract plane. -/
private theorem drillPlane_eq :
    (if ex.drills then ex.drillPlane else ex.state.drillPlane) = ex.drillPlane := by
  split
  · rfl
  · rename_i hdrills
    unfold drillPlane
    split
    · rename_i hmotion _
      have hmoves : ex.moves = false := by simpa [drills, hmotion, MotionMode.isDrill] using hdrills
      rw [hmoves]
      rfl
    · rfl

/-- The number that the block sets counts, or else the tool that it selects. -/
private theorem tool_eq {tool : Int} (h : ex.tool = .ok tool) :
    ex.toolNumber?.toOption.join.getD ((ex.wholeWord? 'T').toOption.join.getD ex.state.tool) =
      tool := by
  obtain ⟨selected, hselected, h⟩ := bind_eq_ok_iff.mp h
  obtain ⟨number, hnumber, h⟩ := bind_eq_ok_iff.mp h
  cases h
  rw [hselected, hnumber]
  cases number <;> rfl

/-- The effects of the stages lead from the modes before the block to those after it. -/
theorem sameModes_effects {s : State} {number tool : Int} (hs : SameModes s ex.state)
    (htool : ex.tool = .ok tool) :
    SameModes (modeEffects.foldl (fun s effect => effect ex s) s) (ex.next number tool) := by
  simp only [modeEffects, List.foldl_cons, List.foldl_nil, keepModes]
  exact {
    plane := congrArg ex.plane?.getD hs.plane
    distance := congrArg ex.distance?.getD hs.distance
    arcDistance := congrArg ex.arcDistance?.getD hs.arcDistance
    units := congrArg ex.units?.getD hs.units
    lathe := congrArg ex.lathe?.getD hs.lathe
    coordinateSystem := congrArg ex.coordinateSystem?.getD hs.coordinateSystem
    toolLength := congrArg ex.toolLength?.getD hs.toolLength
    toolOffsets :=
      (congrArg (ex.offsetsAfter · ex.toolLength?) hs.toolOffsets).trans offsetsAfter_eq
    scaleFactors :=
      (congrArg (fun before => if ex.scaling?.isSome then ex.scaleFactors else before)
        hs.scaleFactors).trans scaleFactors_eq
    spindle := congrArg ex.spindle?.getD hs.spindle
    coolant := congrArg ex.coolant?.getD hs.coolant
    feedMode := congrArg ex.feedMode?.getD hs.feedMode
    spindleSpeedMode := congrArg ex.spindleSpeedMode?.getD hs.spindleSpeedMode
    path := congrArg ex.path?.getD hs.path
    retract := congrArg ex.retract?.getD hs.retract
    drillPlane :=
      (congrArg (fun before => if ex.drills then ex.drillPlane else before)
        hs.drillPlane).trans drillPlane_eq
    tool :=
      (congrArg (fun before =>
        ex.toolNumber?.toOption.join.getD ((ex.wholeWord? 'T').toOption.join.getD before))
        hs.tool).trans (tool_eq htool) }

variable {tokens : List Token} {next : State} {tools : List Int}

/-- The tokens of a block lead a follower from the modes before the block to those after it. -/
theorem sameModes_foldl_follow (hslot : ∀ slot ∈ ex.coordinateSystem?, slot ≤ 8)
    (h : ex.run = .ok (tokens, next, tools)) {s : State} (hs : SameModes s ex.state) :
    SameModes (tokens.foldl State.follow s) next := by
  obtain ⟨htokens, -, number, tool, -, htool, rfl⟩ := run_eq_ok_iff.mp h
  rw [foldl_follow_tokensOf (tells_stages hslot) htokens]
  exact sameModes_effects hs htool

/-- The tokens of a block tell whether it ends the program. -/
theorem programEnd_foldl_follow (hslot : ∀ slot ∈ ex.coordinateSystem?, slot ≤ 8)
    (h : ex.run = .ok (tokens, next, tools)) (s : State) :
    (tokens.foldl State.follow s).programEnd = (s.programEnd || ex.endsProgram) := by
  obtain ⟨htokens, -⟩ := run_eq_ok_iff.mp h
  rw [foldl_follow_tokensOf (tells_stages hslot) htokens]
  rfl

end Execution

end NumericControl
