import NumericControl.Failure
import NumericControl.Number.Length

/-!
# Arc centers

The center of an arc from its radius or from offsets.  Of the two circles through both end points
with a given radius, direction and sign of the radius choose one: a negative radius asks for the
arc longer than a half circle.  The computation is generic in the numbers, so that it can be
studied in exact arithmetic; doubles are one instance.

## Main definitions

* `Scalar` : the arithmetic of plane geometry.
* `Point`, `Plane.first`, `Plane.second`, `Plane.helix` : points and the axes of a plane.
* `centerOffset`, `centerFromRadius` : the center from a radius, or why there is none.
* `centerFromOffsets` : the center from offsets.
* `resolveCenter` : the center from whichever is given.
-/

namespace NumericControl

/-- The arithmetic of plane geometry: the four operations, an order, roots and angles. -/
class Scalar (α : Type) extends Zero α, One α, Add α, Sub α, Mul α, Div α, Neg α, LT α where
  two : α
  four : α
  /-- Lengths below this one count as zero. -/
  epsilon : α
  decLt : DecidableLT α
  isZero : α → Bool
  sqrt : α → α
  /-- The length of a vector with two components. -/
  hypot : α → α → α
  /-- The angle of a full turn. -/
  turn : α
  /-- The angle of a vector, from zero up to a full turn. -/
  angle : α → α → α

attribute [reducible, instance] Scalar.decLt

/-- A point in space. -/
structure Point (α : Type) where
  x : α
  y : α
  z : α
deriving DecidableEq, Repr

/-- A coordinate of a point. -/
inductive Coordinate where
  | x
  | y
  | z
deriving DecidableEq, Repr

namespace Point

variable {α : Type}

/-- A coordinate of a point. -/
def get (p : Point α) : Coordinate → α
  | .x => p.x
  | .y => p.y
  | .z => p.z

/-- The point with another value of one coordinate. -/
def set (p : Point α) (c : Coordinate) (value : α) : Point α :=
  match c with
  | .x => { p with x := value }
  | .y => { p with y := value }
  | .z => { p with z := value }

/-- The coordinates in order. -/
def toList (p : Point α) : List α := [p.x, p.y, p.z]

/-- A function of every coordinate. -/
def map {β : Type} (f : α → β) (p : Point α) : Point β := ⟨f p.x, f p.y, f p.z⟩

end Point

/-- The first three of the values of the axes. -/
def PerAxis.point {α : Type} (v : PerAxis α) : Point α :=
  ⟨v.x, v.y, v.z⟩

namespace Plane

/-- The first axis of a plane; with the second and the helix axis it is right-handed. -/
def first : Plane → Coordinate
  | .xy => .x
  | .zx => .z
  | .yz => .y

/-- The second axis of a plane. -/
def second : Plane → Coordinate
  | .xy => .y
  | .zx => .x
  | .yz => .z

/-- The axis across a plane. -/
def helix : Plane → Coordinate
  | .xy => .z
  | .zx => .y
  | .yz => .x

end Plane

section Generic

variable {α : Type} [Scalar α]

/-- The value without its sign. -/
def magnitude (x : α) : α :=
  if x < 0 then -x else x

/-- The way to the center from the start of an arc with the given radius, given the way to its
end and the squares of both parts of that way; the ways lie in the plane of the arc. -/
def centerOffsetBy (way squares : α × α) (radius : α) (clockwise : Bool) :
    Except (DegenerateArc α) (α × α) :=
  let (x, y) := way
  let chord := Scalar.hypot x y
  let square := Scalar.four * radius * radius
  let rest := square - squares.1 - squares.2
  if Scalar.isZero radius then .error .zeroRadius
  else if chord < Scalar.epsilon then .error .coincident
  else if rest < -Scalar.epsilon * (if 1 < square then square else 1) then
    .error (.tooShort (magnitude radius) (chord / Scalar.two))
  else
    let height := -Scalar.sqrt (if rest < 0 then 0 else rest) / chord
    let height := if clockwise then height else -height
    let height := if radius < 0 then -height else height
    .ok ((x - y * height) / Scalar.two, (y + x * height) / Scalar.two)

/-- The way to the center from the start of an arc with the given radius, given the way to its
end. -/
def centerOffset (x y radius : α) (clockwise : Bool) : Except (DegenerateArc α) (α × α) :=
  centerOffsetBy (x, y) (x * x, y * y) radius clockwise

/-- A point moved in a plane. -/
def Point.shift (p : Point α) (plane : Plane) (way : α × α) : Point α :=
  (p.set plane.first (p.get plane.first + way.1)).set plane.second
    (p.get plane.second + way.2)

/-- The center of the arc from `start` to `stop` with the given radius. -/
def centerFromRadius (start stop : Point α) (radius : α) (clockwise : Bool) (plane : Plane) :
    Except (DegenerateArc α) (Point α) :=
  (centerOffset (stop.get plane.first - start.get plane.first)
    (stop.get plane.second - start.get plane.second) radius clockwise).map (start.shift plane)

/-- One coordinate of the center: that of the start point unless an offset is given, which is a
position or a distance from the start point. -/
def offsetCoordinate (absolute : Bool) (start : α) : Option α → α
  | none => start
  | some offset => if absolute then offset else start + offset

/-- The center of an arc from offsets to its start point. -/
def centerFromOffsets (start : Point α) (offsets : Point (Option α)) (absolute : Bool) :
    Point α :=
  ⟨offsetCoordinate absolute start.x offsets.x, offsetCoordinate absolute start.y offsets.y,
    offsetCoordinate absolute start.z offsets.z⟩

/-- Why an arc has no center. -/
inductive CenterError (α : Type) where
  | degenerate (fault : DegenerateArc α)
  /-- Neither a radius nor offsets are given. -/
  | unspecified

/-- The center of an arc from its radius, or from offsets if no radius is given. -/
def resolveCenter (start stop : Point α) (radius? : Option α)
    (offsets? : Option (Point (Option α))) (absolute clockwise : Bool) (plane : Plane) :
    Except (CenterError α) (Point α) :=
  match radius?, offsets? with
  | some radius, _ => (centerFromRadius start stop radius clockwise plane).mapError .degenerate
  | none, some offsets => .ok (centerFromOffsets start offsets absolute)
  | none, none => .error .unspecified

end Generic

/-- The wording of a center that is not specified. -/
def unspecifiedCenterMessage : String :=
  "Arc needs a radius or I/J/K offsets"

/-! ### Doubles -/

/-- An offset that is given and a number. -/
def specified (offset : Option Float) : Option Float :=
  offset.filter fun value => !value.isNaN

/-- The length of a vector with two components. -/
def hypotenuse (x y : Float) : Float :=
  Number.vectorLength [x, y]

/-- The circle constant. -/
def circleConstant : Float := 3.141592653589793

/-- The angle of a vector, from zero up to a full turn. -/
def vectorAngle (u v : Float) : Float :=
  let angle := Float.atan2 v u
  if angle < 0.0 then angle + 2.0 * circleConstant else angle

instance : Scalar Float where
  zero := 0.0
  one := 1.0
  two := 2.0
  four := 4.0
  epsilon := 1e-9
  decLt := inferInstance
  isZero x := x == 0.0
  sqrt := Float.sqrt
  hypot := hypotenuse
  turn := 2.0 * circleConstant
  angle := vectorAngle

end NumericControl
