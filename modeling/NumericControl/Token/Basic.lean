import NumericControl.Command
import NumericControl.Modal

/-!
# Instruction tokens

Interpreting a line yields tokens: typed instructions with units and scaling applied.  A token
names the command it was produced for and the number of its line.  Tokens with axis values hold
six of them together with the axes that were programmed.

## Main definitions

* `Target` : axis values and the programmed axes.
* `Token.Body` : what a token says.
* `Token` : a body with its command and line number.
-/

namespace NumericControl

/-- Axis values in millimetres and degrees, and the axes programmed on the line. -/
structure Target where
  values : AxisValues := .zero
  axes : List Axis := []

/-- One value for each of the words I, J and K, or for each of X, Y and Z. -/
structure Triple (α : Type) where
  i : α
  j : α
  k : α
deriving DecidableEq, Repr

/-- The words that fix the center of an arc; without a radius the offsets do. -/
structure ArcWords where
  offsets : Triple (Option Float) := ⟨none, none, none⟩
  radius : Option Float := none
  offsetMode : DistanceMode := .incremental
  plane : Plane := .xy

/-- The words of a drilling cycle. -/
structure DrillWords where
  plane : Float := 0.0
  repeats : Int := 1
  dwell : Float := 0.0
  peck : Float := 0.0

/-- The words of a threading cycle, by their letters. -/
structure ThreadWords where
  pitch : Float := 0.0
  i : Float := 0.0
  j : Float := 0.0
  r : Float := 1.0
  k : Float := 0.0
  q : Float := 0.0
  h : Int := 0
  e : Float := 0.0
  l : Int := 0

namespace Token

/-- What a token says. -/
inductive Body where
  /-- The command says it all. -/
  | plain
  | linear (target : Target)
  | arc (target : Target) (words : ArcWords)
  | drill (target : Target) (words : DrillWords)
  | spindleSync (target : Target) (pitch : Float)
  | thread (target : Target) (words : ThreadWords)
  /-- Values for a coordinate system or a stored position. -/
  | coordinates (target : Target) (slot : Int)
  /-- Values for the tool table, of kind `entry`. -/
  | toolTable (target : Target) (entry tool : Int) (radius : Option Float)
  | toolOffset (number : Int)
  | toolOffsets (target : Target)
  | scaling (target : Target)
  | toolSelect (tool : Int)
  | feed (value : Float)
  | spindleSpeed (value : Float)
  | spindle (state : SpindleState)
  | coolant (state : Coolant)
  | plane (plane : Plane)
  | distance (mode : DistanceMode)
  | arcDistance (mode : DistanceMode)
  | units (units : Units)
  | lathe (mode : LatheMode)
  | dwell (seconds : Float)
  | comment (text : String)
  /-- A code that the machine gives a meaning to, with its parameter words. -/
  | userCode (code : Int) (parameters : String)

end Token

/-- A typed instruction. -/
structure Token where
  command : Command
  line : Nat
  body : Token.Body

end NumericControl
