import NumericControl.Proofs.Execution.Stages

/-!
# The text of a line in its execution

An execution looks at the text of its line and at the words removed from it only to say where it
failed.  So an execution elsewhere, in another text with other words removed, has the same tokens
and the same state after it, or it fails in the same way.

## Main definitions

* `Execution.relocate` : an execution elsewhere.

## Main results

* `Execution.run_relocate` : the outcome of an execution elsewhere.
-/

namespace NumericControl

namespace Execution

variable (ex : Execution) (source : List Char) (stripped : List Word)

/-- The execution of the same block in another text with other words removed. -/
def relocate : Execution :=
  { ex with source, stripped }

theorem require_relocate (letter : Char) (command : String) :
    SameOutcome (ex.require letter command)
      ((ex.relocate source stripped).require letter command) := by
  have hword : (ex.relocate source stripped).word? letter = ex.word? letter := rfl
  unfold require
  rw [hword]
  cases ex.word? letter with
  | some value => exact SameOutcome.refl _
  | none => exact .error rfl

theorem toolNumber?_relocate :
    SameOutcome ex.toolNumber? (ex.relocate source stripped).toolNumber? := by
  have hcode : (ex.relocate source stripped).toolChange? = ex.toolChange? := rfl
  unfold toolNumber?
  rw [hcode]
  split
  · exact (ex.require_relocate source stripped _ _).bind fun value => SameOutcome.refl _
  · exact SameOutcome.refl _

theorem toolChangeStage_relocate :
    SameOutcome ex.toolChangeStage (ex.relocate source stripped).toolChangeStage :=
  (ex.toolNumber?_relocate source stripped).bind fun _ => SameOutcome.refl _

theorem dwellStage_relocate :
    SameOutcome ex.dwellStage (ex.relocate source stripped).dwellStage := by
  have hcode : (ex.relocate source stripped).dwell? = ex.dwell? := rfl
  unfold dwellStage
  rw [hcode]
  split
  · exact (ex.require_relocate source stripped _ _).bind fun value => SameOutcome.refl _
  · exact SameOutcome.refl _

theorem setCoordinates_relocate (choice : Int) :
    SameOutcome (ex.setCoordinates choice)
      ((ex.relocate source stripped).setCoordinates choice) := by
  have hslot : (ex.relocate source stripped).dataSlot choice = ex.dataSlot choice := rfl
  unfold setCoordinates
  rw [hslot]
  split
  · exact .error rfl
  · exact SameOutcome.refl _

theorem setDataStage_relocate :
    SameOutcome ex.setDataStage (ex.relocate source stripped).setDataStage := by
  have hword : (ex.relocate source stripped).wholeWord? 'P' = ex.wholeWord? 'P' := rfl
  have hconfig : (ex.relocate source stripped).config = ex.config := rfl
  unfold setDataStage
  rw [hword, hconfig]
  refine (ex.require_relocate source stripped _ _).bind fun value => ?_
  refine (SameOutcome.refl _).bind fun form => (SameOutcome.refl _).bind fun choice => ?_
  dsimp only
  split
  · exact ex.setCoordinates_relocate source stripped _
  · split
    · exact SameOutcome.refl _
    · exact .error rfl

theorem positioningStage_relocate :
    SameOutcome ex.positioningStage (ex.relocate source stripped).positioningStage := by
  have hcode : (ex.relocate source stripped).positioning? = ex.positioning? := rfl
  unfold positioningStage
  rw [hcode]
  split
  case h_2 => exact ex.setDataStage_relocate source stripped
  all_goals exact SameOutcome.refl _

/-! ### Motion -/

theorem radiusArc_relocate (clockwise : Bool) (radius : Float) :
    SameOutcome (ex.radiusArc clockwise radius)
      ((ex.relocate source stripped).radiusArc clockwise radius) := by
  have hstate : (ex.relocate source stripped).state = ex.state := rfl
  have hend : (ex.relocate source stripped).moveEnd = ex.moveEnd := rfl
  have hplane : (ex.relocate source stripped).plane = ex.plane := rfl
  unfold radiusArc
  rw [hstate, hend, hplane]
  split
  · exact SameOutcome.refl _
  · exact .error rfl

theorem offsetArc_relocate (clockwise : Bool) :
    SameOutcome (ex.offsetArc clockwise) ((ex.relocate source stripped).offsetArc clockwise) := by
  have hoffsets : (ex.relocate source stripped).offsets = ex.offsets := rfl
  unfold offsetArc
  rw [hoffsets]
  split
  · exact .error rfl
  · exact SameOutcome.refl _

theorem arcMove_relocate (clockwise : Bool) :
    SameOutcome (ex.arcMove clockwise) ((ex.relocate source stripped).arcMove clockwise) := by
  have hword : (ex.relocate source stripped).word? 'R' = ex.word? 'R' := rfl
  unfold arcMove
  rw [hword]
  split
  · exact ex.radiusArc_relocate source stripped clockwise _
  · exact ex.offsetArc_relocate source stripped clockwise

theorem spindleSyncMove_relocate :
    SameOutcome ex.spindleSyncMove (ex.relocate source stripped).spindleSyncMove := by
  have hoffsets : (ex.relocate source stripped).offsets = ex.offsets := rfl
  unfold spindleSyncMove
  rw [hoffsets]
  split
  · exact SameOutcome.refl _
  · exact .error rfl

theorem threadMove_relocate :
    SameOutcome ex.threadMove (ex.relocate source stripped).threadMove := by
  have hoffsets : (ex.relocate source stripped).offsets = ex.offsets := rfl
  unfold threadMove
  rw [hoffsets]
  refine (ex.require_relocate source stripped _ _).bind fun pitch => ?_
  dsimp only
  split
  · exact .error rfl
  · exact SameOutcome.refl _

theorem peckOf_relocate (cycle : DrillCycle) :
    SameOutcome (ex.peckOf cycle) ((ex.relocate source stripped).peckOf cycle) := by
  have hword : (ex.relocate source stripped).word? 'Q' = ex.word? 'Q' := rfl
  unfold peckOf
  rw [hword]
  split
  · split
    · exact .error rfl
    · split
      · exact .error rfl
      · exact SameOutcome.refl _
  · exact SameOutcome.refl _

theorem drillMove_relocate (cycle : DrillCycle) :
    SameOutcome (ex.drillMove cycle) ((ex.relocate source stripped).drillMove cycle) := by
  have hword : (ex.relocate source stripped).wholeWord? 'L' = ex.wholeWord? 'L' := rfl
  have hradius : (ex.relocate source stripped).word? 'R' = ex.word? 'R' := rfl
  unfold drillMove
  rw [hword, hradius]
  refine (SameOutcome.refl _).bind fun repeats => ?_
  dsimp only
  split
  · exact .error rfl
  · exact (ex.peckOf_relocate source stripped cycle).bind fun peck => SameOutcome.refl _

theorem move_relocate : SameOutcome ex.move (ex.relocate source stripped).move := by
  have hmotion : (ex.relocate source stripped).motion = ex.motion := rfl
  unfold move
  rw [hmotion]
  split
  case h_4 => exact (ex.arcMove_relocate source stripped _).map some
  case h_5 => exact (ex.spindleSyncMove_relocate source stripped).map some
  case h_6 => exact (ex.threadMove_relocate source stripped).map some
  case h_7 => exact (ex.drillMove_relocate source stripped _).map some
  all_goals exact SameOutcome.refl _

theorem motionStage_relocate :
    SameOutcome ex.motionStage (ex.relocate source stripped).motionStage := by
  have hmotion : (ex.relocate source stripped).motion? = ex.motion? := rfl
  have hmoves : (ex.relocate source stripped).moves = ex.moves := rfl
  unfold motionStage
  rw [hmotion, hmoves]
  split
  · exact SameOutcome.refl _
  · split
    · exact ex.move_relocate source stripped
    · exact SameOutcome.refl _

/-! ### The whole block -/

/-- No stage looks at the text of the line, but to say where it failed. -/
theorem stage_relocate {stage : Execution → Except Failure (Option Token)}
    (hstage : stage ∈ stages) : SameOutcome (stage ex) (stage (ex.relocate source stripped)) := by
  simp only [stages, List.mem_cons, List.not_mem_nil, or_false] at hstage
  rcases hstage with rfl | rfl | rfl | rfl | rfl | rfl | rfl | rfl | rfl | rfl | rfl | rfl | rfl |
    rfl | rfl | rfl | rfl | rfl | rfl | rfl | rfl | rfl | rfl | rfl | rfl | rfl
  any_goals first
    | exact ex.toolChangeStage_relocate source stripped
    | exact ex.dwellStage_relocate source stripped
    | exact ex.positioningStage_relocate source stripped
    | exact ex.motionStage_relocate source stripped
    | exact SameOutcome.refl _

theorem tool_relocate : SameOutcome ex.tool (ex.relocate source stripped).tool :=
  (SameOutcome.refl (ex.wholeWord? 'T')).bind fun _ =>
    (ex.toolNumber?_relocate source stripped).bind fun _ => SameOutcome.refl _

/-- An execution elsewhere has the same tokens, state and tools, or fails in the same way. -/
theorem run_relocate : SameOutcome ex.run (ex.relocate source stripped).run := by
  refine (SameOutcome.refl ex.sequenceNumber).bind fun number => ?_
  refine (tokensOf_congr fun _ => ex.stage_relocate source stripped).bind fun tokens => ?_
  exact (ex.tool_relocate source stripped).bind fun tool => SameOutcome.refl _

end Execution

end NumericControl
