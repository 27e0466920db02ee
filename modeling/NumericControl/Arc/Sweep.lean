import NumericControl.Arc.Center
import NumericControl.Number.Length

/-!
# Angles and points of arcs

The angles at which an arc starts and ends about its center, the angle it sweeps, its length and
points along it.  End points that coincide in the plane describe a full circle.

## Main definitions

* `ArcAngles`, `arcAngles` : start, end and sweep.
* `PlanarArc`, `planarArc` : an arc as it is seen in its plane.
* `arcLength` : the length of the path, with its helix.
* `Chords`, `arcPoints` : an arc cut into chords: the start point, points between, and the end
  point.
-/

namespace NumericControl

/-- The angles of an arc about its center. -/
structure ArcAngles (α : Type) where
  start : α
  stop : α
  sweep : α

section Generic

variable {α : Type} [Scalar α]

/-- The angles of an arc, given the ways from its center to its ends and whether the ends
coincide in the plane.  An end angle of zero counts as a full turn. -/
def anglesBetween (start stop : α × α) (closed clockwise : Bool) : ArcAngles α :=
  let startAngle := Scalar.angle start.1 start.2
  let stopAngle := Scalar.angle stop.1 stop.2
  let stopAngle := if Scalar.isZero stopAngle then Scalar.turn else stopAngle
  let sweep :=
    if closed then Scalar.turn
    else if clockwise then
      if startAngle < stopAngle then Scalar.turn - stopAngle + startAngle
      else startAngle - stopAngle
    else
      if stopAngle < startAngle then Scalar.turn - startAngle + stopAngle
      else stopAngle - startAngle
  ⟨startAngle, stopAngle, sweep⟩

/-- The way from one point to another one, in a plane. -/
def Point.wayTo (p q : Point α) (plane : Plane) : α × α :=
  (q.get plane.first - p.get plane.first, q.get plane.second - p.get plane.second)

/-- The angles of an arc. -/
def arcAngles (start stop center : Point α) (clockwise : Bool) (plane : Plane) : ArcAngles α :=
  let way := start.wayTo stop plane
  let isShort (x : α) : Bool := decide (magnitude x < Scalar.epsilon)
  anglesBetween (center.wayTo start plane) (center.wayTo stop plane)
    (isShort way.1 && isShort way.2) clockwise

/-- An arc as it is seen in its plane. -/
structure PlanarArc (α : Type) where
  center : α × α
  radius : α
  angles : ArcAngles α

/-- The length of the path of an arc with the given rise across its plane; the helix is its third
side. -/
def PlanarArc.length (arc : PlanarArc α) (rise : α) : α :=
  Scalar.hypot (arc.angles.sweep * arc.radius) rise

/-- An arc in its plane. -/
def planarArc (start stop center : Point α) (clockwise : Bool) (plane : Plane) : PlanarArc α :=
  let way := center.wayTo start plane
  { center := (center.get plane.first, center.get plane.second)
    radius := Scalar.hypot way.1 way.2
    angles := arcAngles start stop center clockwise plane }

/-- The length of the path of an arc. -/
def arcLength (start stop center : Point α) (clockwise : Bool) (plane : Plane) : α :=
  (planarArc start stop center clockwise plane).length
    (stop.get plane.helix - start.get plane.helix)

end Generic

/-- Why an arc is not cut into chords. -/
inductive BadResolution where
  /-- The number of chords, shown as it is given, is not positive. -/
  | notPositive (shown : String)
  /-- The number of chords is larger than all doubles. -/
  | tooLarge
deriving DecidableEq, Repr

/-- The wording of a bad resolution. -/
def BadResolution.message : BadResolution → String
  | notPositive shown => "Arc resolution must be positive, got " ++ shown
  | tooLarge => "int too large to convert to float"

/-- A number of chords with the double nearest to it, by which angles are divided. -/
structure Chords where
  count : Nat
  double : Float

/-- So many chords, if their number is positive and there is a double for it. -/
def Chords.ofInt (resolution : Int) : Except BadResolution Chords :=
  if resolution < 1 then .error (.notPositive (toString resolution))
  else
    match Number.nearestWhole? resolution.toNat with
    | some double => .ok ⟨resolution.toNat, double⟩
    | none => .error .tooLarge

/-- The point of an arc after some of its chords. -/
def PlanarArc.point (arc : PlanarArc Float) (start stop : Point Float) (clockwise : Bool)
    (plane : Plane) (chords : Chords) (step : Nat) : Point Float :=
  let part := arc.angles.sweep / chords.double
  let part := if clockwise then -part else part
  let rise := (stop.get plane.helix - start.get plane.helix) / chords.double
  let angle := arc.angles.start + part * Float.ofNat step
  let origin : Point Float := ⟨0.0, 0.0, 0.0⟩
  ((origin.set plane.first (arc.center.1 + arc.radius * angle.cos)).set plane.second
    (arc.center.2 + arc.radius * angle.sin)).set plane.helix
    (start.get plane.helix + rise * Float.ofNat step)

/-- The points of an arc cut into chords: the exact start point, the points between, and the
exact end point. -/
def PlanarArc.points (arc : PlanarArc Float) (start stop : Point Float) (clockwise : Bool)
    (plane : Plane) (chords : Chords) : List (Point Float) :=
  start :: (List.range (chords.count - 1)).map (fun i =>
    arc.point start stop clockwise plane chords (i + 1)) ++ [stop]

/-- The points of an arc around a center, cut into so many chords. -/
def arcPoints (start stop center : Point Float) (clockwise : Bool) (plane : Plane)
    (resolution : Int) : Except BadResolution (List (Point Float)) := do
  let chords ← Chords.ofInt resolution
  return (planarArc start stop center clockwise plane).points start stop clockwise plane chords

end NumericControl
