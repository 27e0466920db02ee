import Mathlib.Analysis.SpecialFunctions.Complex.Arg
import NumericControl.Arc.Sweep

/-!
# Arcs in exact arithmetic

The computations with arcs are generic in the numbers.  Here the numbers are an ordered field, in
which nothing is rounded, so that what the formulas mean can be told apart from how they round.
Roots, lengths and angles are given from outside, since a field need not have them; the real numbers
have all of them.

## Main definitions

* `Geometry` : what plane geometry takes besides an ordered field; `Geometry.scalar` is its
  arithmetic.
* `Geometry.centerFromRadius`, `Geometry.arcAngles` : the computations with arcs in it.
* `Geometry.real` : the geometry of real numbers.

## Main results

* `Geometry.centerOffset_eq` : the way from the start of an arc to its center.
* `Geometry.arcAngles_eq` : the angles of an arc.
-/

namespace NumericControl

/-- What plane geometry takes besides an ordered field: the length below which two points coincide,
the roots of numbers, the lengths of vectors, a full turn and the angles of vectors. -/
structure Geometry (K : Type) where
  epsilon : K
  sqrt : K → K
  hypot : K → K → K
  turn : K
  angle : K → K → K

namespace Geometry

section Field

variable {K : Type} [Field K] [LinearOrder K]

/-- The arithmetic of plane geometry over an ordered field. -/
@[reducible]
def scalar (g : Geometry K) : Scalar K where
  zero := 0
  one := 1
  add := (· + ·)
  sub := (· - ·)
  mul := (· * ·)
  div := (· / ·)
  neg := (- ·)
  lt := (· < ·)
  two := 2
  four := 4
  epsilon := g.epsilon
  decLt := inferInstance
  isZero x := decide (x = 0)
  sqrt := g.sqrt
  hypot := g.hypot
  turn := g.turn
  angle := g.angle

/-- The way to the center from the start of an arc, given the way to its end. -/
def centerOffset (g : Geometry K) (x y radius : K) (clockwise : Bool) :
    Except (DegenerateArc K) (K × K) :=
  @NumericControl.centerOffset K g.scalar x y radius clockwise

/-- The center of the arc from `start` to `stop` with the given radius. -/
def centerFromRadius (g : Geometry K) (start stop : Point K) (radius : K) (clockwise : Bool)
    (plane : Plane) : Except (DegenerateArc K) (Point K) :=
  @NumericControl.centerFromRadius K g.scalar start stop radius clockwise plane

/-- The angles of an arc. -/
def arcAngles (g : Geometry K) (start stop center : Point K) (clockwise : Bool) (plane : Plane) :
    ArcAngles K :=
  @NumericControl.arcAngles K g.scalar start stop center clockwise plane

/-- The geometry has a root of a number, which is not negative. -/
structure IsRoot (g : Geometry K) (v : K) : Prop where
  nonneg : 0 ≤ g.sqrt v
  square : g.sqrt v * g.sqrt v = v

variable (g : Geometry K) (x y radius : K) (clockwise : Bool)

/-- What is left of the square of the diameter without the square of the chord. -/
def rest : K :=
  4 * radius * radius - x * x - y * y

/-- The way from the start of a chord to the point above its middle, on its left, at a height of
which half the chord is the unit. -/
def apex (x y height : K) : K × K :=
  ((x - y * height) / 2, (y + x * height) / 2)

/-- How far to the left of its chord the center lies, with half the chord as the unit. -/
def height : K :=
  let height := -g.sqrt (max (rest x y radius) 0) / g.hypot x y
  let height := if clockwise then height else -height
  if radius < 0 then -height else height

/-- The center lies to the left of the chord. -/
def CenterIsLeft : Prop :=
  (clockwise = false ∧ 0 < radius) ∨ (clockwise = true ∧ radius < 0)

instance : Decidable (CenterIsLeft radius clockwise) :=
  inferInstanceAs (Decidable (_ ∨ _))

/-- Of direction and sign of the radius, each changes the side on which the center lies. -/
theorem height_eq {radius : K} (hradius : radius ≠ 0) :
    g.height x y radius clockwise =
      if CenterIsLeft radius clockwise then g.sqrt (max (rest x y radius) 0) / g.hypot x y
      else -(g.sqrt (max (rest x y radius) 0) / g.hypot x y) := by
  unfold height CenterIsLeft
  rcases lt_or_gt_of_ne hradius with hneg | hpos
  · cases clockwise <;> simp [hneg, hneg.not_gt, neg_div]
  · cases clockwise <;> simp [hpos, hpos.not_gt, neg_div]

variable [IsStrictOrderedRing K]

theorem magnitude_eq : @magnitude K g.scalar x = |x| := by
  by_cases h : x < 0
  · rw [abs_of_neg h]
    exact if_pos h
  · rw [abs_of_nonneg (not_lt.mp h)]
    exact if_neg h

/-- The way from the start of an arc to its center, or why there is none. -/
theorem centerOffset_eq :
    g.centerOffset x y radius clockwise =
      if radius = 0 then .error .zeroRadius
      else if g.hypot x y < g.epsilon then .error .coincident
      else if rest x y radius < -g.epsilon * max 1 (4 * radius * radius) then
        .error (.tooShort |radius| (g.hypot x y / 2))
      else .ok (apex x y (g.height x y radius clockwise)) := by
  by_cases hzero : radius = 0
  · rw [if_pos hzero]
    exact if_pos (decide_eq_true hzero)
  rw [if_neg hzero]
  refine (if_neg fun h => hzero (of_decide_eq_true h)).trans ?_
  by_cases hshort : g.hypot x y < g.epsilon
  · rw [if_pos hshort]
    exact if_pos hshort
  rw [if_neg hshort]
  refine (if_neg hshort).trans ?_
  rw [max_def_lt 1]
  by_cases hfar : rest x y radius <
      -g.epsilon * (if 1 < 4 * radius * radius then 4 * radius * radius else 1)
  · rw [if_pos hfar, ← magnitude_eq g]
    exact if_pos hfar
  · rw [if_neg hfar, height, max_def_lt]
    exact if_neg hfar

/-- The angle of the way from a center to a point. -/
def angleAbout (plane : Plane) (center p : Point K) : K :=
  g.angle (p.get plane.first - center.get plane.first)
    (p.get plane.second - center.get plane.second)

/-- Two points coincide in a plane, up to the length below which lengths count as zero. -/
def Coincide (plane : Plane) (p q : Point K) : Prop :=
  |q.get plane.first - p.get plane.first| < g.epsilon ∧
    |q.get plane.second - p.get plane.second| < g.epsilon

instance (plane : Plane) (p q : Point K) : Decidable (g.Coincide plane p q) :=
  inferInstanceAs (Decidable (_ ∧ _))

theorem arcAngles_eq (start stop center : Point K) (plane : Plane) :
    g.arcAngles start stop center clockwise plane =
      let a := g.angleAbout plane center start
      let b := g.angleAbout plane center stop
      let b := if b = 0 then g.turn else b
      ⟨a, b,
        if g.Coincide plane start stop then g.turn
        else if clockwise then if a < b then g.turn - b + a else a - b
        else if b < a then g.turn - a + b else b - a⟩ := by
  have hzero (x : K) : @Scalar.isZero K g.scalar x = decide (x = 0) := rfl
  unfold arcAngles NumericControl.arcAngles anglesBetween
  simp only [hzero, magnitude_eq, decide_eq_true_eq, Bool.and_eq_true]
  rfl

end Field

/-! ### Real numbers -/

open Real in
/-- The geometry of real numbers. -/
noncomputable def real : Geometry ℝ where
  epsilon := 1e-9
  sqrt := Real.sqrt
  hypot x y := √(x * x + y * y)
  turn := 2 * π
  angle u v :=
    let angle := Complex.arg ⟨u, v⟩
    if angle < 0 then angle + 2 * π else angle

theorem isRoot_real {v : ℝ} (h : 0 ≤ v) : real.IsRoot v :=
  ⟨Real.sqrt_nonneg v, Real.mul_self_sqrt h⟩

theorem hypot_real_mul_self (x y : ℝ) : real.hypot x y * real.hypot x y = x * x + y * y :=
  Real.mul_self_sqrt (add_nonneg (mul_self_nonneg x) (mul_self_nonneg y))

/-- The angles of real vectors are counted from zero up to a full turn. -/
theorem angle_real_mem (u v : ℝ) : 0 ≤ real.angle u v ∧ real.angle u v < real.turn := by
  have hpi := Real.pi_pos
  have hlow := Complex.neg_pi_lt_arg ⟨u, v⟩
  have hhigh := Complex.arg_le_pi ⟨u, v⟩
  simp only [real]
  split
  · constructor <;> linarith
  · constructor <;> linarith

end Geometry

end NumericControl
