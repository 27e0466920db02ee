import NumericControl.Execution
import NumericControl.Proofs.Outcome

/-!
# Executions that fail by refusal only

A stage fails for a stated cause, or because a word that has to be a whole number is too large to
be a finite number.  Where the words that have to be whole numbers are finite, only refusals are
left.

## Main definitions

* `Failure.IsRefusal` : a failure with a stated cause.
* `Execution.wholeLetters` : the letters whose values have to be whole numbers somewhere.
* `Execution.HasFiniteWholes` : the values of these letters are finite.

## Main results

* `Execution.HasFiniteWholes.stage` : every stage fails by refusal only.
* `Execution.HasFiniteWholes.run` : so does the whole execution.
-/

namespace NumericControl

/-- A failure with a stated cause. -/
def Failure.IsRefusal (failure : Failure) : Prop :=
  ∃ e, failure = .refused e

/-- A refusal at a word is one. -/
theorem isRefusal_refuse (ctx : BlockContext) (cause : Cause) (word : String) :
    (ctx.refuse cause word).IsRefusal :=
  ⟨_, rfl⟩

namespace Number

instance (x : Float) : Decidable (IsFinite x) :=
  match h : Reading.of x with
  | .finite b => .isTrue ⟨b, h⟩
  | .infinite _ | .notANumber => .isFalse fun ⟨b, hb⟩ => by rw [h] at hb; cases hb

/-- A finite number has a whole part. -/
theorem IsFinite.exists_truncate {x : Float} (h : IsFinite x) : ∃ n, truncate x = .ok n := by
  obtain ⟨b, hb⟩ := h
  exact ⟨b.truncate, by rw [truncate, hb]⟩

end Number

namespace Execution

/-- The letters whose values have to be whole numbers somewhere. -/
def wholeLetters : List Char :=
  ['N', 'T', 'Q', 'H', 'L', 'P']

/-- The values that have to be whole numbers are finite. -/
def HasFiniteWholes (ex : Execution) : Prop :=
  ∀ letter ∈ wholeLetters, ∀ value ∈ ex.word? letter, Number.IsFinite value

variable {ex : Execution}

/-! ### Words -/

theorem failsOnly_whole {value : Float} (h : Number.IsFinite value) :
    FailsOnly Failure.IsRefusal (whole value) := by
  obtain ⟨n, hn⟩ := h.exists_truncate
  rw [whole, hn]
  exact .ok n

theorem failsOnly_require (letter : Char) (command : String) :
    FailsOnly Failure.IsRefusal (ex.require letter command) := by
  unfold require
  split
  · exact .ok _
  · exact .error (isRefusal_refuse _ _ _)

/-- The value that a command needs is that of its letter. -/
theorem word?_of_require {letter : Char} {command : String} {value : Float}
    (h : ex.require letter command = .ok value) : ex.word? letter = some value := by
  unfold require at h
  split at h
  · cases h
    assumption
  · cases h

namespace HasFiniteWholes

variable (hfinite : ex.HasFiniteWholes)

include hfinite

theorem wholeWord? {letter : Char} (hletter : letter ∈ wholeLetters) :
    FailsOnly Failure.IsRefusal (ex.wholeWord? letter) := by
  unfold Execution.wholeWord?
  split
  · exact (failsOnly_whole (hfinite letter hletter _ ‹_›)).map
  · exact .ok none

/-- What comes after the whole part of a word that a command needs. -/
theorem whole_require {α : Type} {letter : Char} (hletter : letter ∈ wholeLetters)
    (command : String) {f : Int → Except Failure α}
    (hf : ∀ n, FailsOnly Failure.IsRefusal (f n)) :
    FailsOnly Failure.IsRefusal (do f (← whole (← ex.require letter command))) :=
  (failsOnly_require letter command).bind fun _ hvalue =>
    (failsOnly_whole (hfinite letter hletter _ (word?_of_require hvalue))).bind fun n _ => hf n

/-! ### Stages -/

theorem toolNumber? : FailsOnly Failure.IsRefusal ex.toolNumber? := by
  unfold Execution.toolNumber?
  split
  · exact hfinite.whole_require (by decide) _ fun _ => .ok _
  · exact .ok none

theorem toolSelectStage : FailsOnly Failure.IsRefusal ex.toolSelectStage :=
  (hfinite.wholeWord? (by decide)).bind fun _ _ => .ok _

theorem toolChangeStage : FailsOnly Failure.IsRefusal ex.toolChangeStage := by
  refine hfinite.toolNumber?.bind fun number _ => ?_
  split
  · exact .ok _
  · exact .ok _
  · exact .ok _

theorem toolOffsetNumber : FailsOnly Failure.IsRefusal ex.toolOffsetNumber :=
  (hfinite.wholeWord? (by decide)).bind fun _ _ => .ok _

theorem toolLengthStage : FailsOnly Failure.IsRefusal ex.toolLengthStage := by
  unfold Execution.toolLengthStage
  split
  · exact hfinite.toolOffsetNumber.bind fun _ _ => .ok _
  · exact hfinite.toolOffsetNumber.bind fun _ _ => .ok _
  · exact .ok _
  · exact .ok _
  · exact .ok _

theorem setDataStage : FailsOnly Failure.IsRefusal ex.setDataStage := by
  refine hfinite.whole_require (by decide) _ fun form => ?_
  refine (hfinite.wholeWord? (by decide)).bind fun choice? _ => ?_
  dsimp only
  split
  · unfold setCoordinates
    split
    · exact .error (isRefusal_refuse _ _ _)
    · exact .ok _
  · split
    · exact .ok _
    · exact .error (isRefusal_refuse _ _ _)

theorem positioningStage : FailsOnly Failure.IsRefusal ex.positioningStage := by
  unfold Execution.positioningStage
  split
  case h_2 => exact hfinite.setDataStage
  all_goals exact .ok _

omit hfinite in
private theorem failsOnly_arcMove (clockwise : Bool) :
    FailsOnly Failure.IsRefusal (ex.arcMove clockwise) := by
  unfold arcMove
  split
  · unfold radiusArc
    split
    · exact .ok _
    · exact .error (isRefusal_refuse _ _ _)
  · unfold offsetArc
    split
    · exact .error (isRefusal_refuse _ _ _)
    · exact .ok _

omit hfinite in
private theorem failsOnly_spindleSyncMove : FailsOnly Failure.IsRefusal ex.spindleSyncMove := by
  unfold spindleSyncMove
  split
  · exact .ok _
  · exact .error (isRefusal_refuse _ _ _)

omit hfinite in
private theorem failsOnly_peckOf (cycle : DrillCycle) :
    FailsOnly Failure.IsRefusal (ex.peckOf cycle) := by
  unfold peckOf
  split
  · split
    · exact .error (isRefusal_refuse _ _ _)
    · split
      · exact .error (isRefusal_refuse _ _ _)
      · exact .ok _
  · exact .ok _

theorem threadMove : FailsOnly Failure.IsRefusal ex.threadMove := by
  refine (failsOnly_require _ _).bind fun pitch _ => ?_
  dsimp only
  split
  · exact .error (isRefusal_refuse _ _ _)
  · exact (hfinite.wholeWord? (by decide)).bind fun _ _ =>
      (hfinite.wholeWord? (by decide)).bind fun _ _ => .ok _

theorem drillMove (cycle : DrillCycle) : FailsOnly Failure.IsRefusal (ex.drillMove cycle) := by
  refine (hfinite.wholeWord? (by decide)).bind fun repeats? _ => ?_
  dsimp only
  split
  · exact .error (isRefusal_refuse _ _ _)
  · exact (failsOnly_peckOf cycle).bind fun _ _ => .ok _

theorem move : FailsOnly Failure.IsRefusal ex.move := by
  unfold Execution.move
  split
  case h_4 => exact (failsOnly_arcMove _).map
  case h_5 => exact failsOnly_spindleSyncMove.map
  case h_6 => exact hfinite.threadMove.map
  case h_7 => exact (hfinite.drillMove _).map
  all_goals exact .ok _

theorem motionStage : FailsOnly Failure.IsRefusal ex.motionStage := by
  unfold Execution.motionStage
  split
  · exact .ok _
  · split
    · exact hfinite.move
    · exact .ok _

omit hfinite in
private theorem failsOnly_messageStage : FailsOnly Failure.IsRefusal ex.messageStage := by
  unfold messageStage
  split <;> exact .ok _

omit hfinite in
private theorem failsOnly_dwellStage : FailsOnly Failure.IsRefusal ex.dwellStage := by
  unfold dwellStage
  split
  · exact (failsOnly_require _ _).bind fun _ _ => .ok _
  · exact .ok _

/-- Every stage fails by refusal only. -/
theorem stage {stage : Execution → Except Failure (Option Token)} (hstage : stage ∈ stages) :
    FailsOnly Failure.IsRefusal (stage ex) := by
  simp only [stages, List.mem_cons, List.not_mem_nil, or_false] at hstage
  rcases hstage with rfl | rfl | rfl | rfl | rfl | rfl | rfl | rfl | rfl | rfl | rfl | rfl | rfl |
    rfl | rfl | rfl | rfl | rfl | rfl | rfl | rfl | rfl | rfl | rfl | rfl | rfl
  any_goals exact .ok _
  · exact failsOnly_messageStage
  · exact hfinite.toolSelectStage
  · exact hfinite.toolChangeStage
  · exact failsOnly_dwellStage
  · exact hfinite.toolLengthStage
  · exact hfinite.positioningStage
  · exact hfinite.motionStage

/-! ### The whole block -/

theorem tokensOf {list : List (Execution → Except Failure (Option Token))}
    (hlist : ∀ stage ∈ list, stage ∈ stages) : FailsOnly Failure.IsRefusal (ex.tokensOf list) := by
  induction list with
  | nil => exact .ok []
  | cons stage rest ih =>
    have hrest := ih fun other hother => hlist other (List.mem_cons_of_mem stage hother)
    exact (hfinite.stage (hlist stage List.mem_cons_self)).bind fun _ _ =>
      hrest.bind fun _ _ => .ok _

/-- An execution fails by refusal only. -/
theorem run : FailsOnly Failure.IsRefusal ex.run := by
  have hnumber : FailsOnly Failure.IsRefusal ex.sequenceNumber :=
    (hfinite.wholeWord? (by decide)).bind fun _ _ => .ok _
  have htool : FailsOnly Failure.IsRefusal ex.tool :=
    (hfinite.wholeWord? (by decide)).bind fun _ _ => hfinite.toolNumber?.bind fun _ _ => .ok _
  have hrequests : FailsOnly Failure.IsRefusal ex.toolRequests :=
    (hfinite.wholeWord? (by decide)).bind fun _ _ => .ok _
  exact hnumber.bind fun _ _ => (hfinite.tokensOf fun _ hstage => hstage).bind fun _ _ =>
    htool.bind fun _ _ => hrequests.bind fun _ _ => .ok _

end HasFiniteWholes

end Execution

end NumericControl
