import Mathlib.Data.Prod.Lex
import NumericControl.Number.Binary

/-!
# The order of doubles

The doubles that are numbers are ordered by sign, exponent and mantissa, with the infinities at
the ends and one place for both zeros.  A double that is no number has no place in the order, and
every comparison with it fails.

## Main definitions

* `Number.rank` : the place of a double in the order.

## Main results

* `Number.lt_iff`, `Number.le_iff`, `Number.beq_iff` : comparisons are those of the ranks.
* `Number.le_trans`, `Number.beq_of_le_of_le`, `Number.le_of_not_lt`, `Number.lt_of_not_le` : the
  laws of the order.
* `Number.le_infinity`, `Number.neg_infinity_le` : its ends.
-/

namespace NumericControl.Number

open Float.Model

/-- A place in the order of doubles: sign and kind, then exponent and mantissa. -/
abbrev Rank := ℤ ×ₗ ℤ ×ₗ ℤ

/-- The place of an unpacked double. -/
def unpackedRank : UnpackedFloat → Option Rank
  | .notANumber => none
  | .infinity .negative => some (toLex (-2, toLex (0, 0)))
  | .finite .negative mantissa exponent _ => some (toLex (-1, toLex (-exponent, -mantissa)))
  | .zero _ => some (toLex (0, toLex (0, 0)))
  | .finite .positive mantissa exponent _ => some (toLex (1, toLex (exponent, mantissa)))
  | .infinity .positive => some (toLex (2, toLex (0, 0)))

/-- The place of a double in the order, if it is a number. -/
def rank (x : Float) : Option Rank :=
  unpackedRank x.toModel.unpack

private theorem compare_natCast (m n : ℕ) : compare (m : ℤ) (n : ℤ) = compare m n := by
  rcases lt_trichotomy m n with h | rfl | h
  · rw [compare_lt_iff_lt.mpr h, compare_lt_iff_lt.mpr (Int.ofNat_lt.mpr h)]
  · rw [compare_eq_iff_eq.mpr rfl, compare_eq_iff_eq.mpr rfl]
  · rw [compare_gt_iff_gt.mpr h, compare_gt_iff_gt.mpr (Int.ofNat_lt.mpr h)]

private theorem compare_neg (m n : ℤ) : compare (-m) (-n) = (compare m n).swap := by
  rcases lt_trichotomy m n with h | rfl | h
  · rw [compare_lt_iff_lt.mpr h, compare_gt_iff_gt.mpr (Int.neg_lt_neg h)]
    rfl
  · rw [compare_eq_iff_eq.mpr rfl, compare_eq_iff_eq.mpr rfl]
    rfl
  · rw [compare_gt_iff_gt.mpr h, compare_lt_iff_lt.mpr (Int.neg_lt_neg h)]
    rfl

/-- Comparing doubles is comparing their places.  Only two finite numbers of the same sign are
compared by more than their kinds. -/
theorem compare_eq (a b : UnpackedFloat) :
    a.compare b = (unpackedRank a).bind fun i => (unpackedRank b).map (compare i) := by
  cases a with
  | notANumber => rfl
  | infinity s =>
    cases b with
    | finite t => cases s <;> cases t <;> rfl
    | infinity t => cases s <;> cases t <;> rfl
    | _ => cases s <;> rfl
  | zero s =>
    cases b with
    | finite t | infinity t => cases t <;> rfl
    | _ => rfl
  | finite s m e _ =>
    cases b with
    | infinity t => cases s <;> cases t <;> rfl
    | finite t n f _ =>
      cases s <;> cases t
      · show some _ = some ((compare (-e) (-f)).then (compare (-(m : ℤ)) (-(n : ℤ))))
        rw [compare_neg, compare_neg, compare_natCast, Ordering.swap_then]
      · rfl
      · rfl
      · show some _ = some ((compare e f).then (compare (m : ℤ) (n : ℤ)))
        rw [compare_natCast]
    | _ => cases s <;> rfl

private theorem compare_eq_some_iff {x y : Float} {o : Ordering} :
    x.toModel.unpack.compare y.toModel.unpack = some o ↔
      ∃ i ∈ rank x, ∃ j ∈ rank y, compare i j = o := by
  simp only [compare_eq, Option.bind_eq_some_iff, Option.map_eq_some_iff, rank, Option.mem_def]

variable {x y z : Float}

theorem lt_iff : x < y ↔ ∃ i ∈ rank x, ∃ j ∈ rank y, i < j := by
  have h : x < y ↔ (x.toModel.unpack.compare y.toModel.unpack == some .lt) = true :=
    decide_eq_true_iff
  simp only [h, beq_iff_eq, compare_eq_some_iff, compare_lt_iff_lt]

theorem beq_iff : (x == y) = true ↔ ∃ i ∈ rank x, i ∈ rank y := by
  have h : (x == y) = (x.toModel.unpack.compare y.toModel.unpack == some .eq) := rfl
  simp only [h, beq_iff_eq, compare_eq_some_iff, compare_eq_iff_eq, exists_eq_right']

theorem le_iff : x ≤ y ↔ ∃ i ∈ rank x, ∃ j ∈ rank y, i ≤ j := by
  have h : x ≤ y ↔ (x.toModel.unpack.compare y.toModel.unpack).any (·.isLE) = true :=
    decide_eq_true_iff
  rw [h, Option.any_eq_true]
  constructor
  · rintro ⟨o, ho, hle⟩
    obtain ⟨i, hi, j, hj, rfl⟩ := compare_eq_some_iff.mp ho
    exact ⟨i, hi, j, hj, compare_le_iff_le.mp (Ordering.isLE_iff_ne_gt.mp hle)⟩
  · rintro ⟨i, hi, j, hj, hij⟩
    exact ⟨_, compare_eq_some_iff.mpr ⟨i, hi, j, hj, rfl⟩,
      Ordering.isLE_iff_ne_gt.mpr (compare_le_iff_le.mpr hij)⟩

theorem isNaN_iff : x.isNaN = true ↔ rank x = none := by
  have h : x.isNaN = x.toModel.unpack.isNaN := rfl
  rw [h, rank]
  cases x.toModel.unpack with
  | notANumber => exact ⟨fun _ => rfl, fun _ => rfl⟩
  | finite s | infinity s => cases s <;> exact ⟨nofun, nofun⟩
  | zero s => exact ⟨nofun, nofun⟩

/-- A double that is a number has a place in the order. -/
theorem exists_rank (h : ¬ x.isNaN) : ∃ i, i ∈ rank x :=
  Option.ne_none_iff_exists'.mp (mt isNaN_iff.mpr h)

theorem not_isNaN_of_mem_rank {i : Rank} (h : i ∈ rank x) : ¬ x.isNaN := by
  rw [isNaN_iff, h]
  exact Option.some_ne_none i

/-! ### Laws of the order -/

theorem le_refl (h : ¬ x.isNaN) : x ≤ x := by
  obtain ⟨i, hi⟩ := exists_rank h
  exact le_iff.mpr ⟨i, hi, i, hi, le_rfl⟩

theorem le_trans (hxy : x ≤ y) (hyz : y ≤ z) : x ≤ z := by
  obtain ⟨i, hi, j, hj, hij⟩ := le_iff.mp hxy
  obtain ⟨j', hj', k, hk, hjk⟩ := le_iff.mp hyz
  obtain rfl : j = j' := Option.mem_unique hj hj'
  exact le_iff.mpr ⟨i, hi, k, hk, hij.trans hjk⟩

theorem beq_of_le_of_le (hxy : x ≤ y) (hyx : y ≤ x) : (x == y) = true := by
  obtain ⟨i, hi, j, hj, hij⟩ := le_iff.mp hxy
  obtain ⟨j', hj', i', hi', hji⟩ := le_iff.mp hyx
  obtain rfl : j = j' := Option.mem_unique hj hj'
  obtain rfl : i = i' := Option.mem_unique hi hi'
  obtain rfl : i = j := le_antisymm hij hji
  exact beq_iff.mpr ⟨i, hi, hj⟩

theorem le_of_beq (h : (x == y) = true) : x ≤ y := by
  obtain ⟨i, hi, hj⟩ := beq_iff.mp h
  exact le_iff.mpr ⟨i, hi, i, hj, le_rfl⟩

theorem ge_of_beq (h : (x == y) = true) : y ≤ x := by
  obtain ⟨i, hi, hj⟩ := beq_iff.mp h
  exact le_iff.mpr ⟨i, hj, i, hi, le_rfl⟩

theorem le_of_lt (h : x < y) : x ≤ y := by
  obtain ⟨i, hi, j, hj, hij⟩ := lt_iff.mp h
  exact le_iff.mpr ⟨i, hi, j, hj, hij.le⟩

/-- Of two numbers that are not in one order, the other holds. -/
theorem le_of_not_lt (hx : ¬ x.isNaN) (hy : ¬ y.isNaN) (h : ¬ x < y) : y ≤ x := by
  obtain ⟨i, hi⟩ := exists_rank hx
  obtain ⟨j, hj⟩ := exists_rank hy
  refine le_iff.mpr ⟨j, hj, i, hi, ?_⟩
  by_contra hji
  exact h (lt_iff.mpr ⟨i, hi, j, hj, not_le.mp hji⟩)

theorem lt_of_not_le (hx : ¬ x.isNaN) (hy : ¬ y.isNaN) (h : ¬ x ≤ y) : y < x := by
  obtain ⟨i, hi⟩ := exists_rank hx
  obtain ⟨j, hj⟩ := exists_rank hy
  refine lt_iff.mpr ⟨j, hj, i, hi, ?_⟩
  by_contra hji
  exact h (le_iff.mpr ⟨i, hi, j, hj, not_lt.mp hji⟩)

theorem lt_irrefl (x : Float) : ¬ x < x := by
  intro h
  obtain ⟨i, hi, j, hj, hij⟩ := lt_iff.mp h
  cases hi.symm.trans hj
  exact hij.false

theorem not_isNaN_of_le_left (h : x ≤ y) : ¬ x.isNaN := by
  obtain ⟨i, hi, -⟩ := le_iff.mp h
  exact not_isNaN_of_mem_rank hi

theorem not_isNaN_of_le_right (h : x ≤ y) : ¬ y.isNaN := by
  obtain ⟨-, -, j, hj, -⟩ := le_iff.mp h
  exact not_isNaN_of_mem_rank hj

/-! ### The ends of the order -/

theorem rank_infinity : rank infinity = some (toLex (2, toLex (0, 0))) :=
  rfl

theorem rank_neg_infinity : rank (-infinity) = some (toLex (-2, toLex (0, 0))) :=
  rfl

private theorem between_of_mem_unpackedRank {a : UnpackedFloat} {i : Rank}
    (h : i ∈ unpackedRank a) : toLex (-2, toLex (0, 0)) ≤ i ∧ i ≤ toLex (2, toLex (0, 0)) := by
  cases a with
  | notANumber => cases h
  | finite s | infinity s => cases s <;> cases h <;> simp [Prod.Lex.toLex_le_toLex]
  | zero s =>
    cases h
    simp [Prod.Lex.toLex_le_toLex]

/-- A finite double has a place in the order between the infinities. -/
theorem exists_rank_of_isFinite (h : x.isFinite) :
    ∃ i ∈ rank x, toLex (-2, toLex (0, 0)) < i ∧ i < toLex (2, toLex (0, 0)) := by
  have hfinite : x.isFinite = x.toModel.unpack.isFinite := rfl
  rw [hfinite] at h
  unfold rank
  revert h
  cases x.toModel.unpack with
  | notANumber | infinity s => nofun
  | zero s => exact fun _ => ⟨_, rfl, by simp [Prod.Lex.toLex_lt_toLex]⟩
  | finite s => cases s <;> exact fun _ => ⟨_, rfl, by simp [Prod.Lex.toLex_lt_toLex]⟩

theorem not_isNaN_of_isFinite (h : x.isFinite) : ¬ x.isNaN := by
  obtain ⟨i, hi, -⟩ := exists_rank_of_isFinite h
  exact not_isNaN_of_mem_rank hi

theorem lt_infinity (h : x.isFinite) : x < infinity := by
  obtain ⟨i, hi, -, hlt⟩ := exists_rank_of_isFinite h
  exact lt_iff.mpr ⟨i, hi, _, rank_infinity, hlt⟩

theorem neg_infinity_lt (h : x.isFinite) : -infinity < x := by
  obtain ⟨i, hi, hlt, -⟩ := exists_rank_of_isFinite h
  exact lt_iff.mpr ⟨_, rank_neg_infinity, i, hi, hlt⟩

/-- Doubles in one order are not in the other one as well. -/
theorem not_le_of_lt (h : x < y) : ¬ y ≤ x := by
  intro hle
  obtain ⟨i, hi, j, hj, hij⟩ := lt_iff.mp h
  obtain ⟨j', hj', i', hi', hji⟩ := le_iff.mp hle
  obtain rfl : j = j' := Option.mem_unique hj hj'
  obtain rfl : i = i' := Option.mem_unique hi hi'
  exact hij.not_ge hji

theorem le_infinity (h : ¬ x.isNaN) : x ≤ infinity := by
  obtain ⟨i, hi⟩ := exists_rank h
  exact le_iff.mpr ⟨i, hi, _, rank_infinity, (between_of_mem_unpackedRank hi).2⟩

theorem neg_infinity_le (h : ¬ x.isNaN) : -infinity ≤ x := by
  obtain ⟨i, hi⟩ := exists_rank h
  exact le_iff.mpr ⟨_, rank_neg_infinity, i, hi, (between_of_mem_unpackedRank hi).1⟩

/-- A double that equals a finite one is not negative infinity. -/
theorem beq_neg_infinity_eq_false (hx : x.isFinite) (h : (x == y) = true) :
    (y == -infinity) = false := by
  obtain ⟨i, hi, hlt, -⟩ := exists_rank_of_isFinite hx
  obtain ⟨j, hj, hjy⟩ := beq_iff.mp h
  obtain rfl : i = j := Option.mem_unique hi hj
  refine Bool.eq_false_iff.mpr fun heq => ?_
  obtain ⟨k, hk, hinfinity⟩ := beq_iff.mp heq
  obtain rfl : i = k := Option.mem_unique hjy hk
  rw [rank_neg_infinity, Option.mem_some_iff] at hinfinity
  exact hlt.ne hinfinity

end NumericControl.Number
