import NumericControl.Proofs.Arc.Exact

/-!
# The center of an arc with a given radius

Two circles with a given radius pass through two points, one with its center on each side of the
chord.  In exact arithmetic the center that is computed is on the side that direction and sign of
the radius ask for: on the left of a counter-clockwise arc and on the right of a clockwise one, and
the other way round if the radius is negative.  A radius that is a little too short for the chord is
taken as half of it.

## Main definitions

* `Plane.squareDistance`, `Plane.side`, `Plane.IsMidpoint` : points as they are seen in a plane.
* `Plane.above` : a point at a height above the middle of a chord.
* `Geometry.chord`, `Geometry.centerHeight` : the chord of an arc, and the height of its center.

## Main results

* `Plane.squareDistance_above_left`, `Plane.side_above` : where a point above a chord lies.
* `Geometry.centerFromRadius_eq` : the center, or why there is none.
* `Geometry.squareDistance_of_height`, `Geometry.side_of_height` : what the height is chosen for.
* `Geometry.onCircle_centerFromRadius` : the center is on its side, at the distance of the radius.
-/

namespace NumericControl

variable {K : Type} [Field K]

namespace Plane

/-- The square of the distance of two points in a plane. -/
def squareDistance (plane : Plane) (p q : Point K) : K :=
  (q.get plane.first - p.get plane.first) ^ 2 + (q.get plane.second - p.get plane.second) ^ 2

/-- On which side of the way from `p` to `q` a point lies in a plane: positive on the left, negative
on the right and zero on the line through both. -/
def side (plane : Plane) (p q r : Point K) : K :=
  (q.get plane.first - p.get plane.first) * (r.get plane.second - p.get plane.second) -
    (q.get plane.second - p.get plane.second) * (r.get plane.first - p.get plane.first)

/-- A point lies in the middle of two points in a plane: the way from `p` to it is the way from it
to `q`. -/
def IsMidpoint (plane : Plane) (p q r : Point K) : Prop :=
  r.get plane.first - p.get plane.first = q.get plane.first - r.get plane.first ∧
    r.get plane.second - p.get plane.second = q.get plane.second - r.get plane.second

/-- The point above the middle of the chord from `p` to `q`, on its left, at a height of which half
the chord is the unit. -/
def above (plane : Plane) (p q : Point K) (height : K) : Point K :=
  let offset := Geometry.apex (q.get plane.first - p.get plane.first)
    (q.get plane.second - p.get plane.second) height
  (p.set plane.first (p.get plane.first + offset.1)).set plane.second
    (p.get plane.second + offset.2)

variable (plane : Plane) (p q : Point K) (height : K)

theorem get_above_first : (plane.above p q height).get plane.first =
    p.get plane.first + (q.get plane.first - p.get plane.first -
      (q.get plane.second - p.get plane.second) * height) / 2 := by
  cases plane <;> rfl

theorem get_above_second : (plane.above p q height).get plane.second =
    p.get plane.second + (q.get plane.second - p.get plane.second +
      (q.get plane.first - p.get plane.first) * height) / 2 := by
  cases plane <;> rfl

theorem get_above_helix : (plane.above p q height).get plane.helix = p.get plane.helix := by
  cases plane <;> rfl

variable [LinearOrder K] [IsStrictOrderedRing K]

theorem squareDistance_above_left : plane.squareDistance p (plane.above p q height) =
    plane.squareDistance p q * (1 + height ^ 2) / 4 := by
  rw [squareDistance, get_above_first, get_above_second, squareDistance]
  ring

theorem squareDistance_above_right : plane.squareDistance q (plane.above p q height) =
    plane.squareDistance p q * (1 + height ^ 2) / 4 := by
  rw [squareDistance, get_above_first, get_above_second, squareDistance]
  ring

theorem side_above : plane.side p q (plane.above p q height) =
    plane.squareDistance p q * height / 2 := by
  rw [side, get_above_first, get_above_second, squareDistance]
  ring

theorem isMidpoint_above_zero : plane.IsMidpoint p q (plane.above p q 0) := by
  rw [IsMidpoint, get_above_first, get_above_second]
  constructor <;> ring

end Plane

namespace Geometry

variable (g : Geometry K) {plane : Plane} {start stop : Point K} {radius : K} {clockwise : Bool}

/-- The length of the chord of an arc. -/
def chord (plane : Plane) (start stop : Point K) : K :=
  g.hypot (stop.get plane.first - start.get plane.first)
    (stop.get plane.second - start.get plane.second)

theorem rest_eq (hchord : g.chord plane start stop * g.chord plane start stop =
      plane.squareDistance start stop) (radius : K) :
    rest (stop.get plane.first - start.get plane.first)
      (stop.get plane.second - start.get plane.second) radius =
        4 * radius * radius - g.chord plane start stop * g.chord plane start stop := by
  rw [hchord, rest, Plane.squareDistance]
  ring

variable [LinearOrder K]

/-- How far to the left of the chord of an arc its center lies, with half the chord as the unit. -/
def centerHeight (plane : Plane) (start stop : Point K) (radius : K) (clockwise : Bool) : K :=
  g.height (stop.get plane.first - start.get plane.first)
    (stop.get plane.second - start.get plane.second) radius clockwise

variable (clockwise) in
theorem centerHeight_eq (hradius : radius ≠ 0)
    (hchord : g.chord plane start stop * g.chord plane start stop =
      plane.squareDistance start stop) :
    g.centerHeight plane start stop radius clockwise =
      let s := g.sqrt
        (max (4 * radius * radius - g.chord plane start stop * g.chord plane start stop) 0)
      if CenterIsLeft radius clockwise then s / g.chord plane start stop
      else -(s / g.chord plane start stop) := by
  rw [centerHeight, height_eq g _ _ _ hradius, rest_eq g hchord]
  rfl

variable [IsStrictOrderedRing K]

variable (clockwise) in
/-- There is a center unless the radius is shorter than half the chord by more than is
tolerated. -/
theorem centerFromRadius_eq (hradius : radius ≠ 0)
    (hchord : g.chord plane start stop * g.chord plane start stop =
      plane.squareDistance start stop)
    (hlong : g.epsilon ≤ g.chord plane start stop) :
    g.centerFromRadius start stop radius clockwise plane =
      if 4 * radius * radius - g.chord plane start stop * g.chord plane start stop <
          -g.epsilon * max 1 (4 * radius * radius) then
        .error (.tooShort |radius| (g.chord plane start stop / 2))
      else .ok (plane.above start stop (g.centerHeight plane start stop radius clockwise)) := by
  have hmap : g.centerFromRadius start stop radius clockwise plane =
      (g.centerOffset (stop.get plane.first - start.get plane.first)
        (stop.get plane.second - start.get plane.second) radius clockwise).map
        (@Point.shift K g.scalar start plane) := rfl
  rw [hmap, centerOffset_eq, rest_eq g hchord, if_neg hradius,
    if_neg (show ¬ g.hypot _ _ < g.epsilon from not_lt.mpr hlong)]
  split
  · rfl
  · rfl

section Root

variable {c s height : K} (hc : 0 < c)
  (hheight : height = if CenterIsLeft radius clockwise then s / c else -(s / c))

include hc hheight

/-- A center whose height is a root over the chord is at the distance of the radius. -/
theorem squareDistance_of_height (hs : s * s = 4 * radius * radius - c * c) :
    c * c * (1 + height ^ 2) / 4 = radius * radius := by
  have hsquare : height ^ 2 = (s / c) ^ 2 := by
    rw [hheight]
    split
    · rfl
    · exact neg_sq _
  have hcancel : c * c * (s / c) ^ 2 = s * s := by
    rw [div_pow, sq, sq, mul_div_cancel₀ _ (mul_ne_zero hc.ne' hc.ne')]
  rw [hsquare, mul_add, mul_one, hcancel, hs]
  ring

/-- A center whose height is a root over the chord is on its side unless it is on the chord. -/
theorem side_of_height (hs : 0 < s) :
    if CenterIsLeft radius clockwise then 0 < c * c * height / 2 else c * c * height / 2 < 0 := by
  have hleft : 0 < c * c * (s / c) / 2 := by positivity
  rw [hheight]
  split
  · exact hleft
  · rw [mul_neg, neg_div]
    exact neg_neg_of_pos hleft

omit [IsStrictOrderedRing K] hc in
theorem height_eq_zero (hs : s = 0) : height = 0 := by
  rw [hheight, hs, zero_div, neg_zero, ite_self]

end Root

/-- The center of an arc with a given radius.  If the radius is at least half the chord, the center
is at the distance of the radius from both end points and keeps the coordinate of the start across
the plane.  It lies on the left of the chord of a counter-clockwise arc and on the right of a
clockwise one, and the other way round if the radius is negative; with half the chord as the radius,
it is the middle of the chord.  So it is if the radius is shorter, by no more than is tolerated. -/
theorem onCircle_centerFromRadius (hepsilon : 0 < g.epsilon) (start stop : Point K) (plane : Plane)
    (clockwise : Bool) {radius : K} (hradius : radius ≠ 0)
    (hchord : g.chord plane start stop * g.chord plane start stop =
      plane.squareDistance start stop)
    (hlong : g.epsilon ≤ g.chord plane start stop) :
    let c := g.chord plane start stop
    let s := g.sqrt (4 * radius * radius - c * c)
    (c * c ≤ 4 * radius * radius → g.IsRoot (4 * radius * radius - c * c) →
      ∃ center, g.centerFromRadius start stop radius clockwise plane = .ok center ∧
        plane.squareDistance start center = radius * radius ∧
        plane.squareDistance stop center = radius * radius ∧
        center.get plane.helix = start.get plane.helix ∧
        (0 < s →
          if (clockwise = false ∧ 0 < radius) ∨ (clockwise = true ∧ radius < 0) then
            0 < plane.side start stop center
          else plane.side start stop center < 0) ∧
        (s = 0 → plane.IsMidpoint start stop center)) ∧
    (4 * radius * radius < c * c → g.IsRoot 0 →
      ((∃ center, g.centerFromRadius start stop radius clockwise plane = .ok center) ↔
        -g.epsilon * max 1 (4 * radius * radius) ≤ 4 * radius * radius - c * c) ∧
      ∀ center, g.centerFromRadius start stop radius clockwise plane = .ok center →
        plane.IsMidpoint start stop center ∧ center.get plane.helix = start.get plane.helix) := by
  intro c s
  have hpos : 0 < c := hepsilon.trans_le hlong
  have hcenter := centerFromRadius_eq g clockwise hradius hchord hlong
  have hheight := centerHeight_eq g clockwise hradius hchord
  constructor
  · intro hle hroot
    have hrest : 0 ≤ 4 * radius * radius - c * c := sub_nonneg.mpr hle
    have htolerated : -g.epsilon * max 1 (4 * radius * radius) ≤ 0 :=
      mul_nonpos_of_nonpos_of_nonneg (neg_nonpos.mpr hepsilon.le)
        (zero_le_one.trans (le_max_left ..))
    rw [if_neg (htolerated.trans hrest).not_gt] at hcenter
    rw [max_eq_left hrest] at hheight
    have hdistance := squareDistance_of_height hpos hheight hroot.square
    refine ⟨_, hcenter, ?_, ?_, Plane.get_above_helix .., fun hs => ?_, fun hs => ?_⟩
    · rw [Plane.squareDistance_above_left, ← hchord]
      exact hdistance
    · rw [Plane.squareDistance_above_right, ← hchord]
      exact hdistance
    · rw [Plane.side_above, ← hchord]
      exact side_of_height hpos hheight hs
    · rw [height_eq_zero hheight hs]
      exact Plane.isMidpoint_above_zero ..
  · intro hlt hroot
    have hrest : 4 * radius * radius - c * c ≤ 0 := (sub_neg.mpr hlt).le
    rw [max_eq_right hrest] at hheight
    rw [hcenter, height_eq_zero hheight (mul_self_eq_zero.mp hroot.square), ← not_lt]
    constructor
    · split
      · rename_i hshort
        exact iff_of_false nofun (not_not.mpr hshort)
      · rename_i hlong
        exact iff_of_true ⟨_, rfl⟩ hlong
    · intro center h
      split at h
      · cases h
      · cases h
        exact ⟨Plane.isMidpoint_above_zero .., Plane.get_above_helix ..⟩

/-! ### Real numbers -/

/-- The chord of an arc of real numbers is as long as its end points are distant. -/
theorem chord_real_mul_self (plane : Plane) (start stop : Point ℝ) :
    real.chord plane start stop * real.chord plane start stop =
      plane.squareDistance start stop := by
  rw [chord, hypot_real_mul_self, Plane.squareDistance, sq, sq]

/-- An arc along a chord of length five, in the plane of which the axes are Z and X. -/
theorem onCircle_centerFromRadius_zx :
    let start : Point ℝ := ⟨1, 7, 2⟩
    let stop : Point ℝ := ⟨5, 8, 5⟩
    0 < real.epsilon ∧ real.epsilon ≤ real.chord .zx start stop ∧
      real.chord .zx start stop * real.chord .zx start stop = 25 ∧
      (∃ center, real.centerFromRadius start stop (-13 / 2) true .zx = .ok center ∧
        Plane.zx.squareDistance start center = (-13 / 2) * (-13 / 2) ∧ center.y = 7 ∧
        0 < Plane.zx.side start stop center) ∧
      ∃ center, real.centerFromRadius start stop (5 / 2 - 1e-11) false .zx = .ok center ∧
        Plane.zx.IsMidpoint start stop center := by
  intro start stop
  have hchord := chord_real_mul_self .zx start stop
  have hsquare : real.chord .zx start stop * real.chord .zx start stop = 25 := by
    rw [hchord]
    norm_num [Plane.squareDistance, Point.get, Plane.first, Plane.second, start, stop]
  have hepsilon : 0 < real.epsilon := by norm_num [real]
  have hnonneg : 0 ≤ real.chord .zx start stop := Real.sqrt_nonneg _
  have hlong : real.epsilon ≤ real.chord .zx start stop := by
    have hsmall : real.epsilon ≤ 1 := by norm_num [real]
    nlinarith
  have hfar : (-13 / 2 : ℝ) ≠ 0 := by norm_num
  have hhalf : (5 / 2 - 1e-11 : ℝ) ≠ 0 := by norm_num
  obtain ⟨hcenter, -⟩ :=
    onCircle_centerFromRadius real hepsilon start stop .zx true hfar hchord hlong
  obtain ⟨-, hmiddle⟩ :=
    onCircle_centerFromRadius real hepsilon start stop .zx false hhalf hchord hlong
  rw [hsquare] at hcenter hmiddle
  obtain ⟨center, hok, hdistance, -, hhelix, hside, -⟩ :=
    hcenter (by norm_num) (isRoot_real (by norm_num))
  obtain ⟨hexists, hmidpoint⟩ := hmiddle (by norm_num) (isRoot_real le_rfl)
  obtain ⟨middle, hmiddle⟩ := hexists.mpr (by norm_num [real])
  refine ⟨hepsilon, hlong, hsquare, ⟨center, hok, hdistance, hhelix, ?_⟩, middle, hmiddle,
    (hmidpoint middle hmiddle).1⟩
  have hleft := hside (Real.sqrt_pos.mpr (by norm_num))
  rwa [if_pos (.inr ⟨rfl, by norm_num⟩)] at hleft

end Geometry

end NumericControl
