import Mathlib.Order.Bounds.Basic
import NumericControl.Proofs.Extent.Exact

/-!
# The box of points

A box that takes in points one by one holds, along every axis, the least and the greatest of the
values that the points have there.  A point may be shorter or longer than the list of axes, so some
axes may receive nothing; their extent stays empty until the box is normalized.

The order in which the points come does not matter.  Two doubles that compare equal share one place
in the order, so in any order of the points the ends of the box compare equal, and they are the same
where no two different values share a place.

## Main definitions

* `Box.ofPoints` : the box of points.
* `Box.valuesAlong` : the values that points have along an axis.

## Main results

* `Box.get_ofPoints` : along an axis the box takes in the values of the points there.
* `Box.addGiven_map_some`, `Box.addGiven_of_missing` : a point with all its values, and one that
  lacks some.
* `Span.isLeast_foldl_widen` : finite values lead to their least and their greatest one.
* `Span.normalize_normalize` : a normalized extent stays as it is.
* `Box.extents_ofPoints` : the extents of a box of points, before and after it is normalized.
-/

namespace NumericControl

namespace Box

section Points

variable {α : Type}

/-- The values that points have along an axis, in the order of the points. -/
def valuesAlong (axis : Axis) (points : List (List α)) : List α :=
  points.filterMap fun values => values[axis.index]?

theorem mem_valuesAlong {axis : Axis} {points : List (List α)} {v : α}
    (h : v ∈ valuesAlong axis points) : ∃ values ∈ points, v ∈ values := by
  obtain ⟨values, hvalues, hv⟩ := List.mem_filterMap.mp h
  exact ⟨values, hvalues, List.mem_of_getElem? hv⟩

theorem perm_valuesAlong {points others : List (List α)} (h : others.Perm points) (axis : Axis) :
    (valuesAlong axis others).Perm (valuesAlong axis points) :=
  h.filterMap _

variable [Extremes α]

/-- The box of points, which are taken in one by one. -/
def ofPoints (points : List (List α)) : Box α :=
  points.foldl add empty

theorem get_foldl_add (box : Box α) (points : List (List α)) (axis : Axis) :
    (points.foldl add box).get axis =
      (valuesAlong axis points).foldl Span.widen (box.get axis) := by
  induction points generalizing box with
  | nil => rfl
  | cons values points ih =>
    rw [List.foldl_cons, ih, add, PerAxis.get_ofFn, valuesAlong, valuesAlong, List.filterMap_cons]
    cases values[axis.index]? <;> rfl

/-- A point that has all its values is taken in with all of them. -/
theorem addGiven_map_some (box : Box α) (values : List α) :
    box.addGiven (values.map some) = (box.add values, true) := by
  rcases values with _ | ⟨_, _ | ⟨_, _ | ⟨_, _ | ⟨_, _ | ⟨_, _ | ⟨_, _⟩⟩⟩⟩⟩⟩ <;> rfl

/-- A point that lacks a value is taken in with the values in front of it. -/
theorem addGiven_of_missing (box : Box α) {values : List α} (h : values.length < Axis.all.length)
    (rest : List (Option α)) :
    box.addGiven (values.map some ++ none :: rest) = (box.add values, false) := by
  rcases values with _ | ⟨_, _ | ⟨_, _ | ⟨_, _ | ⟨_, _ | ⟨_, _ | ⟨_, _⟩⟩⟩⟩⟩⟩
  case cons.cons.cons.cons.cons.cons =>
    simp only [Axis.all, List.length_cons, List.length_nil] at h
    omega
  all_goals rfl

/-- Along an axis the box of points takes in the values of the points there. -/
theorem get_ofPoints (points : List (List α)) (axis : Axis) :
    (ofPoints points).get axis = (valuesAlong axis points).foldl Span.widen .empty := by
  rw [ofPoints, get_foldl_add, empty, PerAxis.get_replicate]

end Points

end Box

/-! ### Extents of finite values -/

namespace Span

variable {values others : List Float}

/-- Finite values that are taken in one by one lead to their least and their greatest one. -/
theorem isLeast_foldl_widen (hfinite : ∀ v ∈ values, v.isFinite) (hne : values ≠ []) :
    IsLeast {v | v ∈ values} (values.foldl widen (empty : Span Float)).low ∧
      IsGreatest {v | v ∈ values} (values.foldl widen (empty : Span Float)).high := by
  have hextent := isExtentOf_foldl_widen values
  have hbounds (v : Float) (hv : v ∈ values) :=
    hextent.encloses v hv (Number.not_isNaN_of_isFinite (hfinite v hv))
  obtain ⟨hlow, hhigh⟩ := ends_mem_foldl_widen (empty : Span Float) values
  obtain ⟨v, hv⟩ := List.exists_mem_of_ne_nil values hne
  refine ⟨⟨?_, fun u hu => (hbounds u hu).1⟩, ?_, fun u hu => (hbounds u hu).2⟩
  · -- the low end has left infinity, which is above every finite value
    refine (List.mem_cons.mp hlow).resolve_left fun hinfinity => ?_
    have hle := (hbounds v hv).1
    rw [hinfinity] at hle
    exact Number.not_le_of_lt (Number.lt_infinity (hfinite v hv)) hle
  · refine (List.mem_cons.mp hhigh).resolve_left fun hinfinity => ?_
    have hle := (hbounds v hv).2
    rw [hinfinity] at hle
    exact Number.not_le_of_lt (Number.neg_infinity_lt (hfinite v hv)) hle

/-- In another order, finite values lead to an extent of which both ends compare equal. -/
theorem beq_foldl_widen_of_perm (hfinite : ∀ v ∈ values, v.isFinite)
    (hperm : others.Perm values) :
    ((others.foldl widen (empty : Span Float)).low ==
        (values.foldl widen (empty : Span Float)).low) = true ∧
      ((others.foldl widen (empty : Span Float)).high ==
        (values.foldl widen (empty : Span Float)).high) = true := by
  by_cases hne : values = []
  · subst hne
    rw [List.perm_nil.mp hperm]
    exact ⟨by decide +kernel, by decide +kernel⟩
  · obtain ⟨⟨hlow, hleast⟩, hhigh, hgreatest⟩ := isLeast_foldl_widen hfinite hne
    obtain ⟨⟨hlow', hleast'⟩, hhigh', hgreatest'⟩ := isLeast_foldl_widen
      (fun v hv => hfinite v (hperm.mem_iff.mp hv)) (mt (fun h => List.nil_perm.mp (h ▸ hperm)) hne)
    constructor
    · exact Number.beq_of_le_of_le (hleast' (hperm.mem_iff.mpr hlow))
        (hleast (hperm.mem_iff.mp hlow'))
    · exact Number.beq_of_le_of_le (hgreatest (hperm.mem_iff.mp hhigh'))
        (hgreatest' (hperm.mem_iff.mpr hhigh))

/-- In another order, finite values lead to the same extent if no two different ones share a
place. -/
theorem foldl_widen_of_perm (hfinite : ∀ v ∈ values, v.isFinite) (hperm : others.Perm values)
    (hlinear : ∀ u ∈ values, ∀ v ∈ values, u == v → u = v) :
    others.foldl widen (empty : Span Float) = values.foldl widen (empty : Span Float) := by
  by_cases hne : values = []
  · subst hne
    rw [List.perm_nil.mp hperm]
  · obtain ⟨⟨hlow, -⟩, hhigh, -⟩ := isLeast_foldl_widen hfinite hne
    obtain ⟨⟨hlow', -⟩, hhigh', -⟩ := isLeast_foldl_widen
      (fun v hv => hfinite v (hperm.mem_iff.mp hv)) (mt (fun h => List.nil_perm.mp (h ▸ hperm)) hne)
    obtain ⟨hlows, hhighs⟩ := beq_foldl_widen_of_perm hfinite hperm
    exact congrArg₂ Span.mk (hlinear _ (hperm.mem_iff.mp hlow') _ hlow hlows)
      (hlinear _ (hperm.mem_iff.mp hhigh') _ hhigh hhighs)

/-! ### Normalizing -/

theorem normalize_empty : (empty : Span Float).normalize = ⟨0.0, 0.0⟩ :=
  if_pos (by decide +kernel)

theorem normalize_of_isFinite {s : Span Float} (h : s.low.isFinite) : s.normalize = s := by
  refine if_neg fun htop => ?_
  exact Number.not_le_of_lt (Number.lt_infinity h) (Number.ge_of_beq htop)

/-- A normalized extent stays as it is. -/
theorem normalize_normalize (s : Span Float) : s.normalize.normalize = s.normalize := by
  by_cases htop : Extremes.isTop s.low = true
  · have hzero : s.normalize = ⟨0, 0⟩ := if_pos htop
    rw [hzero]
    exact if_neg (by decide +kernel)
  · have hsame : s.normalize = s := if_neg htop
    rw [hsame, hsame]

end Span

/-! ### The box -/

namespace Box

theorem get_normalize (box : Box Float) (axis : Axis) :
    box.normalize.get axis = (box.get axis).normalize := by
  rw [normalize, PerAxis.get_ofFn]

/-- A normalized box stays as it is. -/
theorem normalize_normalize (box : Box Float) : box.normalize.normalize = box.normalize :=
  PerAxis.ext_get fun axis => by
    rw [get_normalize, get_normalize, Span.normalize_normalize]

/-- The extents of a box of points with finite values.  Along an axis with values the ends are the
least and the greatest of them; along the others they are the infinities.  The points may come in
any order: the ends compare equal, and the box is the same if values that compare equal are the
same.  Normalizing the box turns the extents without values into zero and leaves the others; it does
so once and for all, and no least value is above the greatest one then. -/
theorem extents_ofPoints (points : List (List Float))
    (hfinite : ∀ values ∈ points, ∀ v ∈ values, v.isFinite) :
    let box := ofPoints points
    (∀ axis, valuesAlong axis points ≠ [] →
      IsLeast {v | v ∈ valuesAlong axis points} (box.get axis).low ∧
        IsGreatest {v | v ∈ valuesAlong axis points} (box.get axis).high) ∧
    (∀ axis, valuesAlong axis points = [] →
      box.get axis = ⟨Number.infinity, -Number.infinity⟩) ∧
    (∀ others, others.Perm points →
      (∀ axis, ((ofPoints others).get axis).low == (box.get axis).low ∧
        ((ofPoints others).get axis).high == (box.get axis).high) ∧
      ((∀ axis, ∀ u ∈ valuesAlong axis points, ∀ v ∈ valuesAlong axis points, u == v → u = v) →
        ofPoints others = box)) ∧
    box.normalize.normalize = box.normalize ∧
    (∀ axis, box.normalize.get axis =
      if valuesAlong axis points = [] then ⟨0.0, 0.0⟩ else box.get axis) ∧
    ∀ axis, (box.normalize.get axis).low ≤ (box.normalize.get axis).high := by
  intro box
  have hvalues (axis : Axis) : ∀ v ∈ valuesAlong axis points, v.isFinite := by
    intro v hv
    obtain ⟨values, hmem, hv⟩ := mem_valuesAlong hv
    exact hfinite values hmem v hv
  have hexact (axis : Axis) (hne : valuesAlong axis points ≠ []) :
      IsLeast {v | v ∈ valuesAlong axis points} (box.get axis).low ∧
        IsGreatest {v | v ∈ valuesAlong axis points} (box.get axis).high := by
    rw [get_ofPoints]
    exact Span.isLeast_foldl_widen (hvalues axis) hne
  have hempty (axis : Axis) (hnone : valuesAlong axis points = []) :
      box.get axis = ⟨Number.infinity, -Number.infinity⟩ := by
    rw [get_ofPoints, hnone]
    rfl
  have hperm (others : List (List Float)) (h : others.Perm points) (axis : Axis) :
      ((ofPoints others).get axis).low == (box.get axis).low ∧
        ((ofPoints others).get axis).high == (box.get axis).high := by
    rw [get_ofPoints, get_ofPoints]
    exact Span.beq_foldl_widen_of_perm (hvalues axis) (perm_valuesAlong h axis)
  have hnormalize (axis : Axis) : box.normalize.get axis =
      if valuesAlong axis points = [] then ⟨0.0, 0.0⟩ else box.get axis := by
    rw [get_normalize]
    split
    · rename_i hnone
      rw [hempty axis hnone]
      exact Span.normalize_empty
    · rename_i hne
      exact Span.normalize_of_isFinite (hvalues axis _ (hexact axis hne).1.1)
  refine ⟨hexact, hempty, fun others h => ⟨hperm others h, fun hlinear => ?_⟩,
    normalize_normalize box, hnormalize, fun axis => ?_⟩
  · refine PerAxis.ext_get fun axis => ?_
    rw [get_ofPoints, get_ofPoints]
    exact Span.foldl_widen_of_perm (hvalues axis) (perm_valuesAlong h axis) (hlinear axis)
  · rw [hnormalize]
    split
    · exact Number.le_refl (by decide +kernel)
    · rename_i hne
      obtain ⟨hleast, hgreatest⟩ := hexact axis hne
      exact hgreatest.2 hleast.1

/-- Points of different lengths, none of which has a value along the last three axes. -/
def unevenPoints : List (List Float) :=
  [[1.0, 5.0], [], [-3.0, 7.0, 2.0]]

theorem extents_ofPoints_unevenPoints :
    (∀ values ∈ unevenPoints, ∀ v ∈ values, v.isFinite) ∧
      let box := ofPoints unevenPoints
      IsLeast {v | v ∈ ([1.0, -3.0] : List Float)} (box.get .x).low ∧
        box.get .c = ⟨Number.infinity, -Number.infinity⟩ ∧
        ofPoints unevenPoints.reverse = box ∧
        box.normalize.get .x = box.get .x ∧ box.normalize.get .c = ⟨0.0, 0.0⟩ := by
  have hfinite : ∀ values ∈ unevenPoints, ∀ v ∈ values, v.isFinite := by decide +kernel
  obtain ⟨hexact, hempty, hperm, -, hnormalize, -⟩ := extents_ofPoints unevenPoints hfinite
  have hlinear : ∀ axis, ∀ u ∈ valuesAlong axis unevenPoints,
      ∀ v ∈ valuesAlong axis unevenPoints, u == v → u = v := by
    intro axis
    cases axis <;> decide +kernel
  exact ⟨hfinite, (hexact .x (by decide +kernel)).1, hempty .c rfl,
    (hperm _ (List.reverse_perm _)).2 hlinear, hnormalize .x, hnormalize .c⟩

end Box

end NumericControl
