/-!
# Machine axes

The six axes of a machine and values held per axis.  A machine with `n` axes has the first `n` of
them.  The first three are linear and the others rotary, which matters for units.

## Main definitions

* `Axis` : the axes X, Y, Z, A, B, C in their fixed order.
* `PerAxis` : one value for each axis; `AxisValues` holds doubles.
* `PerAxis.overlay` : values replaced where new ones are given.
* `advance` : the position reached by a move that programs some of the axes.
-/

namespace NumericControl

/-- A machine axis. -/
inductive Axis where
  | x
  | y
  | z
  | a
  | b
  | c
deriving DecidableEq, Repr, Inhabited

namespace Axis

/-- The axes in their order. -/
def all : List Axis := [x, y, z, a, b, c]

/-- The place of an axis in the order, counted from zero. -/
def index : Axis → Nat
  | x => 0
  | y => 1
  | z => 2
  | a => 3
  | b => 4
  | c => 5

/-- The letter of an axis. -/
def letter : Axis → Char
  | x => 'X'
  | y => 'Y'
  | z => 'Z'
  | a => 'A'
  | b => 'B'
  | c => 'C'

/-- The axis that a capital letter names. -/
def ofLetter? (l : Char) : Option Axis :=
  all.find? (·.letter == l)

/-- The axis that a text of one letter names, in either case. -/
def ofName? (name : String) : Option Axis :=
  match name.toList with
  | [l] => ofLetter? l.toUpper
  | _ => none

/-- The axes along which a tool travels; about the others it turns. -/
def isLinear (axis : Axis) : Bool :=
  axis.index < 3

/-- The letters of a list of axes, as one text. -/
def letters (axes : List Axis) : String :=
  String.ofList (axes.map letter)

theorem mem_all (axis : Axis) : axis ∈ all := by
  cases axis <;> decide

theorem ofLetter?_letter (axis : Axis) : ofLetter? axis.letter = some axis := by
  cases axis <;> decide

end Axis

/-- One value for each axis. -/
structure PerAxis (α : Type) where
  x : α
  y : α
  z : α
  a : α
  b : α
  c : α
deriving DecidableEq, Repr

namespace PerAxis

variable {α β : Type}

/-- The value of an axis. -/
def get (v : PerAxis α) : Axis → α
  | .x => v.x
  | .y => v.y
  | .z => v.z
  | .a => v.a
  | .b => v.b
  | .c => v.c

/-- The values that a function gives. -/
def ofFn (f : Axis → α) : PerAxis α :=
  ⟨f .x, f .y, f .z, f .a, f .b, f .c⟩

/-- The values with another one for an axis. -/
def set (v : PerAxis α) (axis : Axis) (value : α) : PerAxis α :=
  ofFn fun other => if other = axis then value else v.get other

/-- A function of every value. -/
def map (f : α → β) (v : PerAxis α) : PerAxis β :=
  ofFn fun axis => f (v.get axis)

/-- The same value for every axis. -/
def replicate (value : α) : PerAxis α :=
  ofFn fun _ => value

/-- The values in the order of the axes. -/
def toList (v : PerAxis α) : List α :=
  Axis.all.map v.get

/-- The values of a list of six. -/
def ofList? : List α → Option (PerAxis α)
  | [x, y, z, a, b, c] => some ⟨x, y, z, a, b, c⟩
  | _ => none

/-- The values with new ones where they are given. -/
def overlay (base : PerAxis α) (words : PerAxis (Option α)) : PerAxis α :=
  ofFn fun axis => (words.get axis).getD (base.get axis)

/-- The axes for which a value is given, in their order. -/
def given (words : PerAxis (Option α)) : List Axis :=
  Axis.all.filter fun axis => (words.get axis).isSome

@[simp]
theorem get_ofFn (f : Axis → α) (axis : Axis) : (ofFn f).get axis = f axis := by
  cases axis <;> rfl

@[simp]
theorem get_replicate (value : α) (axis : Axis) : (replicate value).get axis = value := by
  simp [replicate]

@[simp]
theorem get_overlay (base : PerAxis α) (words : PerAxis (Option α)) (axis : Axis) :
    (overlay base words).get axis = (words.get axis).getD (base.get axis) := by
  simp [overlay]

theorem ext_get {v w : PerAxis α} (h : ∀ axis, v.get axis = w.get axis) : v = w := by
  obtain ⟨_, _, _, _, _, _⟩ := v
  obtain ⟨_, _, _, _, _, _⟩ := w
  simp only [mk.injEq]
  exact ⟨h .x, h .y, h .z, h .a, h .b, h .c⟩

end PerAxis

/-- A double for each axis. -/
abbrev AxisValues := PerAxis Float

/-- Zero on every axis. -/
def AxisValues.zero : AxisValues :=
  .replicate 0.0

/-- One on every axis: the scale factors that change nothing. -/
def AxisValues.one : AxisValues :=
  .replicate 1.0

/-- Whether values are positions or distances from where the tool stands. -/
inductive DistanceMode where
  | absolute
  | incremental
deriving DecidableEq, Repr, Inhabited

/-- The position reached from `position` by a move that programs `axes`. -/
def advance (position values : AxisValues) (axes : List Axis) (mode : DistanceMode) :
    AxisValues :=
  .ofFn fun axis =>
    if axes.contains axis then
      match mode with
      | .absolute => values.get axis
      | .incremental => position.get axis + values.get axis
    else position.get axis

end NumericControl
