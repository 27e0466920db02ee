import NumericControl.Proofs.Extent.Tracking
import NumericControl.Proofs.Program.WellFormed

/-!
# Axes that a machine lacks

Values are held for six axes, whatever axes the machine has.  The letter of an axis that it lacks is
refused where the words of a line are taken, and nowhere else.  So no word ever names such an axis,
and what is held along it stays as it was in the first state, in every value that is built from
those before: the axis values, the position, the tool offsets and the scale factors, the axis values
of tokens, and the box.

## Main definitions

* `State.RestsAlong`, `Token.RestsAlong`, `BoxReplay.RestsAlong` : nothing has touched an axis.

## Main results

* `State.RestsAlong.next` : a block leaves an axis at rest that it does not name.
* `Execution.Emits.restsAlong` : so does every token that the block emits.
* `BoxReplay.RestsAlong.step` : such a token leaves the axis of the box at rest.
* `Program.restsAlong_readLines` : what holds along an axis that the machine lacks.
-/

namespace NumericControl

/-- Nothing has been set along an axis: every value is the one of the first state. -/
structure State.RestsAlong (s : State) (axis : Axis) : Prop where
  position : s.position.get axis = 0.0
  axisValues : s.axisValues.get axis = 0.0
  toolOffsets : s.toolOffsets.get axis = 0.0
  scaleFactors : s.scaleFactors.get axis = 1.0

/-- What a token holds for an axis along which nothing has been set. -/
def Token.Body.restValue : Token.Body → Float
  | .scaling _ => 1.0
  | _ => 0.0

/-- A token that does not program an axis and holds nothing along it. -/
def Token.RestsAlong (t : Token) (axis : Axis) : Prop :=
  ∀ target ∈ t.body.target?, axis ∉ target.axes ∧ target.values.get axis = t.body.restValue

variable {axis : Axis}

theorem State.restsAlong_initial (axis : Axis) : State.initial.RestsAlong axis where
  position := PerAxis.get_replicate 0.0 axis
  axisValues := PerAxis.get_replicate 0.0 axis
  toolOffsets := PerAxis.get_replicate 0.0 axis
  scaleFactors := PerAxis.get_replicate 1.0 axis

theorem Token.Body.restValue_of_ne_scaling {body : Token.Body}
    (h : ∀ factors, body ≠ .scaling factors) : body.restValue = 0.0 := by
  cases body with
  | scaling factors => exact absurd rfl (h factors)
  | _ => rfl

theorem PerAxis.not_mem_given {words : PerAxis (Option Float)} (h : words.get axis = none) :
    axis ∉ words.given := by
  simp [given, h]

/-- A move leaves the position along an axis that it does not program. -/
theorem get_advance_of_not_mem {axes : List Axis} (h : axis ∉ axes)
    (position values : AxisValues) (mode : DistanceMode) :
    (advance position values axes mode).get axis = position.get axis := by
  rw [get_advance, if_neg h]

/-! ### Blocks -/

namespace Execution

variable {ex : Execution} {stage : Stage} {t : Token}

section NoWord

variable (hword : ex.word? axis.letter = none)

include hword

theorem get_axisWords_eq_none : ex.axisWords.get axis = none := by
  rw [axisWords, PerAxis.get_ofFn, hword]

theorem get_lengthWords_eq_none : ex.lengthWords.get axis = none := by
  by_contra h
  simpa [hword] using isSome_lengthWords (Option.isSome_iff_ne_none.mpr h)

theorem get_coordinateWords_eq_none : ex.coordinateWords.get axis = none := by
  by_contra h
  simpa [hword] using isSome_coordinateWords (Option.isSome_iff_ne_none.mpr h)

theorem not_mem_axes : axis ∉ ex.axes :=
  PerAxis.not_mem_given (get_coordinateWords_eq_none hword)

theorem get_axisValues : ex.axisValues.get axis = ex.state.axisValues.get axis := by
  rw [axisValues, PerAxis.get_overlay, get_coordinateWords_eq_none hword, Option.getD_none]

theorem get_dynamicOffsets : ex.dynamicOffsets.get axis = ex.state.toolOffsets.get axis := by
  rw [dynamicOffsets, PerAxis.get_overlay, get_lengthWords_eq_none hword, Option.getD_none]

/-- Scaling that is switched off leaves no other factor than one. -/
theorem get_scaleFactors (h : ex.state.scaleFactors.get axis = 1.0) :
    ex.scaleFactors.get axis = 1.0 := by
  unfold scaleFactors
  split
  · rw [PerAxis.get_overlay, get_axisWords_eq_none hword, Option.getD_none, h]
  · exact PerAxis.get_replicate 1.0 axis
  · exact h

/-- Tool offsets that are cancelled are zero. -/
theorem get_toolOffsets (h : ex.state.toolOffsets.get axis = 0.0) :
    ex.toolOffsets.get axis = 0.0 := by
  unfold toolOffsets
  split
  · rw [get_dynamicOffsets hword, h]
  · exact PerAxis.get_replicate 0.0 axis
  · exact h

theorem get_position : ex.position.get axis = ex.state.position.get axis := by
  have hadvance := get_advance_of_not_mem (not_mem_axes hword) ex.state.position ex.axisValues
  unfold position
  split
  · exact hadvance ex.distance
  · unfold positioned
    split
    · exact hadvance ex.distance
    · exact hadvance ex.distance
    · exact hadvance .absolute
    · exact hadvance .absolute
    · rfl

end NoWord

end Execution

section Block

variable {ex : Execution} {stage : Stage} {t : Token} (hword : ex.word? axis.letter = none)

include hword

/-- A block leaves an axis at rest that it does not name. -/
theorem State.RestsAlong.next (h : ex.state.RestsAlong axis) (sequenceNumber tool : Int) :
    (ex.next sequenceNumber tool).RestsAlong axis where
  position := (ex.get_position hword).trans h.position
  axisValues := (ex.get_axisValues hword).trans h.axisValues
  toolOffsets := ex.get_toolOffsets hword h.toolOffsets
  scaleFactors := ex.get_scaleFactors hword h.scaleFactors

/-- The tokens of a block rest along an axis that it does not name. -/
theorem Execution.Emits.restsAlong (h : ex.Emits stage t) (hs : ex.state.RestsAlong axis) :
    t.RestsAlong axis := by
  intro target htarget
  rcases h.target_cases htarget with ⟨rfl | rfl, hbody⟩ | ⟨rfl, hbody⟩
  · rw [Token.Body.restValue_of_ne_scaling hbody]
    exact ⟨not_mem_axes hword, (get_axisValues hword).trans hs.axisValues⟩
  · rw [Token.Body.restValue_of_ne_scaling hbody]
    exact ⟨PerAxis.not_mem_given (get_lengthWords_eq_none hword),
      (get_dynamicOffsets hword).trans hs.toolOffsets⟩
  · rw [hbody]
    exact ⟨PerAxis.not_mem_given (get_axisWords_eq_none hword),
      get_scaleFactors hword hs.scaleFactors⟩

end Block

/-! ### The box -/

/-- The replay has seen no value but zero along an axis. -/
structure BoxReplay.RestsAlong (r : BoxReplay) (axis : Axis) : Prop where
  position : r.position.get axis = 0.0
  span : r.box.get axis = .empty ∨ r.box.get axis = .single 0.0

/-- A span of zero alone takes in zero. -/
theorem Span.widen_zero {s : Span Float} (h : s = .empty ∨ s = .single 0.0) :
    s.widen 0.0 = .single 0.0 := by
  rcases h with rfl | rfl
  · have hlow : (0.0 : Float) < (Span.empty : Span Float).low := by decide +kernel
    have hhigh : (Span.empty : Span Float).high < 0.0 := by decide +kernel
    rw [widen, if_pos hlow, if_pos hhigh, single]
  · exact congrArg₂ Span.mk (ite_self 0.0) (ite_self 0.0)

/-- An extent of nothing but zero is normalized to zero, and so is that of no value. -/
theorem Span.normalize_zero {s : Span Float} (h : s = .empty ∨ s = .single 0.0) :
    s.normalize = ⟨0.0, 0.0⟩ := by
  rcases h with rfl | rfl
  · exact if_pos (by decide +kernel)
  · exact if_neg (by decide +kernel)

theorem BoxReplay.RestsAlong.move {r : BoxReplay} (h : r.RestsAlong axis) {target : Target}
    (haxis : axis ∉ target.axes) (mode : DistanceMode) : (r.move target mode).RestsAlong axis := by
  have hstop : (advance r.position target.values target.axes mode).get axis = 0.0 := by
    rw [get_advance_of_not_mem haxis, h.position]
  refine ⟨hstop, .inr ?_⟩
  rw [BoxReplay.move, Box.get_add, Box.get_add, h.position, hstop, Span.widen_zero h.span,
    Span.widen_zero (.inr rfl)]

/-- A token that rests along an axis leaves the axis of the box at rest. -/
theorem BoxReplay.RestsAlong.step {r : BoxReplay} {t : Token} (h : r.RestsAlong axis)
    (ht : t.RestsAlong axis) : (r.step t).RestsAlong axis := by
  obtain ⟨command, line, body⟩ := t
  cases body with
  | linear target | arc target | drill target => exact h.move (ht target rfl).1 _
  | coordinates target slot =>
    unfold BoxReplay.step
    dsimp only
    split
    · exact ⟨by rw [get_advance_of_not_mem (ht target rfl).1, h.position], h.span⟩
    · exact h
  | _ => exact ⟨h.position, h.span⟩

/-- The box of tokens that rest along an axis is zero along it. -/
theorem normalize_boxOf_of_restsAlong {tokens : List Token} (h : ∀ t ∈ tokens, t.RestsAlong axis) :
    (boxOf tokens).normalize.get axis = ⟨0.0, 0.0⟩ := by
  have hfold (r : BoxReplay) (hr : r.RestsAlong axis) :
      (tokens.foldl BoxReplay.step r).RestsAlong axis := by
    induction tokens generalizing r with
    | nil => exact hr
    | cons t tokens ih =>
      exact ih (fun u hu => h u (List.mem_cons_of_mem t hu)) _ (hr.step (h t List.mem_cons_self))
  have hstart : BoxReplay.RestsAlong {} axis :=
    ⟨PerAxis.get_replicate 0.0 axis, .inl (PerAxis.get_replicate Span.empty axis)⟩
  rw [Box.normalize, PerAxis.get_ofFn]
  exact Span.normalize_zero (hfold {} hstart).span

/-! ### Programs -/

namespace Program

variable {setup : Setup} {p q : Program} {text : String} {handled : Bool}

/-- Nothing has touched an axis, neither in the state nor in the tokens so far. -/
structure RestsAlong (p : Program) (axis : Axis) : Prop where
  state : p.state.RestsAlong axis
  tokens : ∀ t ∈ p.tokens.toList, t.RestsAlong axis

theorem restsAlong_empty (axis : Axis) : empty.RestsAlong axis :=
  ⟨State.restsAlong_initial axis, fun _ ht => absurd ht List.not_mem_nil⟩

/-- Reading a line leaves an axis at rest that the machine lacks. -/
theorem RestsAlong.readLine (hp : p.RestsAlong axis) (haxis : setup.config.axisCount ≤ axis.index)
    (h : p.readLine setup text = .ok (q, handled)) : q.RestsAlong axis := by
  rcases readLine_cases h with ⟨htokens, hstate⟩ | ⟨-, -, htokens, hstate⟩ |
    ⟨line, ex, tokens, tools, hex, hrun, htokens, -⟩
  · exact ⟨hstate ▸ hp.state, htokens ▸ hp.tokens⟩
  · refine ⟨?_, htokens ▸ hp.tokens⟩
    rw [hstate]
    exact ⟨hp.state.position, hp.state.axisValues, hp.state.toolOffsets, hp.state.scaleFactors⟩
  · have hword : ex.word? axis.letter = none := by
      by_contra hsome
      have hindex := index_lt_of_word? hex (Option.isSome_iff_ne_none.mpr hsome)
      omega
    have hbefore : ex.state.RestsAlong axis := by
      rw [state_of_executionOf hex]
      exact hp.state
    refine ⟨?_, ?_⟩
    · obtain ⟨-, -, number, tool, -, -, hnext⟩ := Execution.run_eq_ok_iff.mp hrun
      rw [← hnext]
      exact hbefore.next hword number tool
    · rw [htokens]
      exact List.forall_mem_append.mpr ⟨hp.tokens,
        fun t ht => (Execution.emits_of_run hrun t ht).restsAlong hword hbefore⟩

/-- Along an axis that the machine lacks every state and every token of a program holds what the
first state holds: zero, or one for a scale factor.  No token programs the axis, and the box of the
program is zero along it. -/
theorem restsAlong_readLines (setup : Setup) (lines : List String) {axis : Axis}
    (haxis : setup.config.axisCount ≤ axis.index) :
    let program := (empty.readLines setup 0 lines).1
    (program.state.position.get axis = 0.0 ∧ program.state.axisValues.get axis = 0.0 ∧
        program.state.toolOffsets.get axis = 0.0 ∧ program.state.scaleFactors.get axis = 1.0) ∧
      (∀ t ∈ program.tokens.toList, ∀ target ∈ t.body.target?,
        axis ∉ target.axes ∧ target.values.get axis = t.body.restValue) ∧
      (boxOf program.tokens.toList).normalize.get axis = ⟨0.0, 0.0⟩ := by
  intro program
  have h : program.RestsAlong axis :=
    readLines_induction (P := fun p => p.RestsAlong axis) (restsAlong_empty axis)
      (fun hp hline => hp.readLine haxis hline) 0 lines
  exact ⟨⟨h.state.position, h.state.axisValues, h.state.toolOffsets, h.state.scaleFactors⟩,
    h.tokens, normalize_boxOf_of_restsAlong h.tokens⟩

/-- A machine with the axes X, Y, Z and A. -/
def fourAxes : Setup :=
  { config := { axisCount := 4 } }

/-- A program that sets scale factors, tool offsets and an offset and moves all four axes. -/
def fourAxesMoved : List String :=
  ["G51 X2 A3", "G43.1 Z5", "G1 X1 Y2 A30 F100", "G92 Z1", "G91 G0 Y4"]

theorem restsAlong_fourAxesMoved :
    (empty.readLines fourAxes 0 fourAxesMoved).2.2 = none ∧
      fourAxes.config.axisCount ≤ Axis.b.index ∧
      let program := (empty.readLines fourAxes 0 fourAxesMoved).1
      (program.state.position.get .b = 0.0 ∧ program.state.axisValues.get .b = 0.0 ∧
          program.state.toolOffsets.get .b = 0.0 ∧ program.state.scaleFactors.get .b = 1.0) ∧
        (∀ t ∈ program.tokens.toList, ∀ target ∈ t.body.target?,
          Axis.b ∉ target.axes ∧ target.values.get .b = t.body.restValue) ∧
        (boxOf program.tokens.toList).normalize.get .b = ⟨0.0, 0.0⟩ := by
  have haccepted : (empty.readLines fourAxes 0 fourAxesMoved).2.2 = none :=
    Option.isNone_iff_eq_none.mp (by decide +kernel)
  exact ⟨haccepted, by decide, restsAlong_readLines fourAxes fourAxesMoved (by decide)⟩

end Program

end NumericControl
