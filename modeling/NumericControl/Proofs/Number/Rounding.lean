import Mathlib
import NumericControl.Number.Numeral
import NumericControl.Proofs.Number.Order

/-!
# Rounding

A double is computed by rounding the exact result to a mantissa of 53 bits and an exponent from
-1074 on, and packing both into its bits.  Of what happens on the way only two things are needed:
a number stays a number, and what is not too small stays positive.

## Main definitions

* `Number.IsPositive` : an unpacked double is above zero.
* `Number.places` : by how many places a mantissa is shifted.

## Main results

* `Number.exists_roundWithAccuracy_eq` : what is not too small is not rounded to zero.
* `Number.isNaN_unpack_pack`, `Number.isPositive_unpack_pack` : packing keeps numbers, and positive
  ones.
* `Number.zero_lt_mul` : a positive double times one that is at least one is positive.
* `Number.not_isNaN_nearest` : the double nearest to a decimal is a number.
-/

namespace NumericControl.Number

open Float.Model Float.Model.UnpackedFloat

/-! ### Positive doubles -/

/-- An unpacked double that is above zero. -/
def IsPositive : UnpackedFloat → Prop
  | .finite .positive .. | .infinity .positive => True
  | _ => False

theorem zero_lt_iff {x : Float} : 0.0 < x ↔ IsPositive x.toModel.unpack := by
  have hzero : rank 0.0 = some (toLex (0, toLex (0, 0))) := rfl
  rw [lt_iff, hzero, rank]
  cases x.toModel.unpack with
  | notANumber => simp [unpackedRank, IsPositive]
  | zero s => simp [unpackedRank, IsPositive]
  | finite s | infinity s =>
    cases s <;> simp [unpackedRank, IsPositive, Prod.Lex.toLex_lt_toLex]

/-! ### Rounding -/

theorem mantissa_shiftRight (em : ExtendedMantissa) (n : Nat) :
    (em >>> n).mantissa = em.mantissa / 2 ^ n := by
  induction n with
  | zero => simp [HShiftRight.hShiftRight, Nat.repeat]
  | succ n ih =>
    change (em >>> n).mantissa / 2 = _
    rw [ih, Nat.div_div_eq_div_mul, Nat.pow_succ]

theorem le_roundedMantissa (em : ExtendedMantissa) : em.mantissa ≤ em.roundedMantissa := by
  obtain ⟨mantissa, round, sticky⟩ := em
  cases round <;> cases sticky <;>
    simp [ExtendedMantissa.roundedMantissa, ExtendedMantissa.accuracy, Accuracy.roundToNearestEven]

theorem mantissa_ofMantissaAndAccuracy (m : Nat) (accuracy : Accuracy) :
    (ExtendedMantissa.ofMantissaAndAccuracy m accuracy).mantissa = m := by
  cases accuracy with
  | exact => rfl
  | inexact o => cases o <;> rfl

/-- By how many places a mantissa is shifted. -/
def places (m : Nat) (e : Int) : Nat :=
  max (m.log2 - 52) (-1074 - e).toNat

theorem shiftToTargetExponent_eq (m : Nat) (e : Int) (accuracy : Accuracy) :
    shiftToTargetExponent .binary64 m e accuracy =
      (ExtendedMantissa.ofMantissaAndAccuracy m accuracy >>> places m e, e + places m e) := by
  have htarget (t : Int) : Format.binary64.targetExponent t = max (t - 53) (-1074) := rfl
  have hplaces : (Format.binary64.targetExponent (totalExponent m e) - e).toNat = places m e := by
    rw [htarget, totalExponent, places]
    omega
  rw [shiftToTargetExponent, shiftToExponent, hplaces]

/-- A shift leaves a mantissa that fits, and something of one that is not too small. -/
theorem shifted_bounds (m : Nat) (e : Int) :
    m / 2 ^ places m e < 2 ^ 53 ∧ -1074 ≤ e + places m e ∧
      (0 < m → 2 ^ (-1074 - e).toNat ≤ m → 0 < m / 2 ^ places m e) := by
  refine ⟨?_, by rw [places]; omega, fun hm hfits => ?_⟩
  · have hlog : m < 2 ^ (m.log2 + 1) := Nat.lt_log2_self
    have hle : m.log2 + 1 ≤ 53 + places m e := by rw [places]; omega
    rw [Nat.div_lt_iff_lt_mul (Nat.two_pow_pos _), ← Nat.pow_add]
    exact hlog.trans_le (Nat.pow_le_pow_right Nat.two_pos hle)
  · refine Nat.div_pos ?_ (Nat.two_pow_pos _)
    rcases Nat.le_total (m.log2 - 52) (-1074 - e).toNat with h | h
    · rwa [places, Nat.max_eq_right h]
    · rw [places, Nat.max_eq_left h]
      exact (Nat.pow_le_pow_right Nat.two_pos (Nat.sub_le _ _)).trans
        (Nat.log2_self_le (Nat.pos_iff_ne_zero.mp hm))

/-- What is not too small is rounded to a double that is not zero. -/
theorem exists_roundWithAccuracy_eq {m : Nat} {e : Int} (hm : 0 < m)
    (hfits : 2 ^ (-1074 - e).toNat ≤ m) (sign : Sign) (accuracy : Accuracy) :
    ∃ m' e' hm', roundWithAccuracy .binary64 sign m e accuracy = .finite sign m' e' hm' ∧
      m' < 2 ^ 53 ∧ -1074 ≤ e' := by
  let em := ExtendedMantissa.ofMantissaAndAccuracy m accuracy >>> places m e
  have hem : 0 < em.roundedMantissa := by
    refine lt_of_lt_of_le ?_ (le_roundedMantissa em)
    rw [mantissa_shiftRight, mantissa_ofMantissaAndAccuracy]
    exact (shifted_bounds m e).2.2 hm hfits
  have he : (-1074 - (e + places m e)).toNat = 0 := by
    have hbound := (shifted_bounds m e).2.1
    omega
  obtain ⟨hlt, hexponent, hpos⟩ := shifted_bounds em.roundedMantissa (e + places m e)
  have hpos := hpos hem (by rw [he]; exact hem)
  refine ⟨_, _, hpos, ?_, hlt, hexponent⟩
  unfold roundWithAccuracy
  simp only [shiftToTargetExponent_eq, mantissa_shiftRight, mantissa_ofMantissaAndAccuracy]
  rw [dif_neg (Nat.pos_iff_ne_zero.mp hpos)]

theorem isNaN_roundWithAccuracy (spec : Format) (sign : Sign) (m : Nat) (e : Int)
    (accuracy : Accuracy) : (roundWithAccuracy spec sign m e accuracy).isNaN = false := by
  unfold roundWithAccuracy
  dsimp only
  split <;> rfl

/-! ### Packing -/

/-- A packed double that is positive, finite and not zero. -/
theorem isPositive_unpack_packComponents {exponent : BitVec 11} {mantissa : BitVec 52}
    (hfinite : exponent ≠ -1#_) (hne : exponent ≠ 0#_ ∨ mantissa ≠ 0#_) :
    IsPositive (UnpackedFloat.unpack .binary64
      (packComponents .binary64 .positive exponent mantissa)) := by
  unfold UnpackedFloat.unpack
  simp only [unpackMantissa_packComponents, unpackExponent_packComponents,
    unpackSign_packComponents, Sign.ofBitVec_toBitVec]
  rw [if_neg hfinite]
  split
  · split
    · rename_i hexponent hmantissa
      rcases hne with h | h
      · exact absurd hexponent h
      · exact absurd hmantissa h
    · trivial
  · trivial

/-- Packing what fits gives a double of the same sign that is not zero. -/
theorem isPositive_unpack_pack {m : Nat} {e : Int} (hm : 0 < m) (hlt : m < 2 ^ 53)
    (he : -1074 ≤ e) :
    IsPositive (Float.Model.pack (.finite .positive m e hm)).unpack := by
  change IsPositive (UnpackedFloat.unpack _ (UnpackedFloat.pack .binary64 _))
  rw [UnpackedFloat.pack]
  split
  · trivial
  · rename_i hsmall
    have hbiased : (e + Format.binary64.exponentBias +
        Format.binary64.mantissaBitsWithoutImplicit).toNat = (e + 1075).toNat := by
      change (e + 1023 + 52).toNat = _
      omega
    have hlarge : (2 : Nat) ^ Format.binary64.exponentBits = 2048 := rfl
    rw [hbiased, hlarge] at hsmall
    have htoNat : (BitVec.ofNat 11 (e + 1075).toNat).toNat = (e + 1075).toNat :=
      Nat.mod_eq_of_lt (by omega)
    split
    · rw [hbiased]
      refine isPositive_unpack_packComponents (fun h => ?_) (.inl fun h => ?_)
      · have hones : (BitVec.ofNat 11 (e + 1075).toNat).toNat = 2047 := congrArg BitVec.toNat h
        omega
      · have hzero : (BitVec.ofNat 11 (e + 1075).toNat).toNat = 0 := congrArg BitVec.toNat h
        omega
    · rename_i hsubnormal
      have hbits : m.log2 + 1 ≠ 53 := hsubnormal
      have hlog : m.log2 < 53 := (Nat.log2_lt (Nat.pos_iff_ne_zero.mp hm)).mpr hlt
      have hmantissa : m < 2 ^ 52 :=
        (Nat.log2_lt (Nat.pos_iff_ne_zero.mp hm)).mp (by omega)
      refine isPositive_unpack_packComponents (by decide) (.inr fun h => ?_)
      have hzero : (BitVec.ofNat 52 m).toNat = 0 := congrArg BitVec.toNat h
      rw [BitVec.toNat_ofNat, Nat.mod_eq_of_lt hmantissa] at hzero
      exact hm.ne' hzero

theorem isNaN_unpack_packComponents {sign : Sign} {exponent : BitVec 11} {mantissa : BitVec 52}
    (h : exponent = -1#_ → mantissa = 0#_) :
    (UnpackedFloat.unpack .binary64 (packComponents .binary64 sign exponent mantissa)).isNaN =
      false := by
  unfold UnpackedFloat.unpack
  simp only [unpackMantissa_packComponents, unpackExponent_packComponents]
  split
  · rename_i hones
    rw [if_pos (h hones)]
    rfl
  · split
    · split <;> rfl
    · rfl

/-- Packing a number gives a number. -/
theorem isNaN_unpack_pack {a : UnpackedFloat} (h : a.isNaN = false) :
    (Float.Model.pack a).unpack.isNaN = false := by
  change (UnpackedFloat.unpack _ (UnpackedFloat.pack .binary64 a)).isNaN = _
  cases a with
  | notANumber => cases h
  | infinity s | zero s => exact isNaN_unpack_packComponents fun _ => rfl
  | finite s m e hm =>
    rw [UnpackedFloat.pack]
    split
    · exact isNaN_unpack_packComponents fun _ => rfl
    · rename_i hsmall
      have hlarge : (2 : Nat) ^ Format.binary64.exponentBits = 2048 := rfl
      rw [hlarge] at hsmall
      split
      · refine isNaN_unpack_packComponents fun h => ?_
        have hones := congrArg BitVec.toNat h
        change _ % 2048 = 2047 at hones
        omega
      · exact isNaN_unpack_packComponents fun h => absurd h (by decide)

/-! ### Positive products -/

/-- No double has a smaller exponent than the smallest positive one. -/
theorem le_exponent_of_unpack {x : Float} {sign : Sign} {m : Nat} {e : Int} {hm : 0 < m}
    (h : x.toModel.unpack = .finite sign m e hm) : -1074 ≤ e := by
  change UnpackedFloat.unpack .binary64 _ = _ at h
  unfold UnpackedFloat.unpack at h
  dsimp only at h
  split at h
  · split at h <;> cases h
  · split at h
    · split at h
      · cases h
      · cases h
        change (-1074 : Int) ≤ (BitVec.toNat _ : Int) - (1023 + 52) + 1
        omega
    · rename_i hzero
      cases h
      change (-1074 : Int) ≤ (BitVec.toNat _ : Int) - (1023 + 52)
      have hpos := Nat.pos_of_ne_zero fun h => hzero (BitVec.eq_of_toNat_eq h)
      omega

/-- A positive double stays positive when it is multiplied by one that is at least one. -/
theorem zero_lt_mul {x y : Float} {m : Nat} {e : Int} {hm : 0 < m} (hx : 0.0 < x)
    (hy : y.toModel.unpack = .finite .positive m e hm) (hone : 2 ^ (-e).toNat ≤ m) :
    0.0 < x * y := by
  rw [zero_lt_iff] at hx ⊢
  change IsPositive (Float.Model.pack
    (UnpackedFloat.mul .binary64 x.toModel.unpack y.toModel.unpack)).unpack
  cases hunpack : x.toModel.unpack with
  | notANumber | zero s =>
    rw [hunpack] at hx
    exact hx.elim
  | infinity s =>
    rw [hunpack] at hx
    cases s with
    | negative => exact hx.elim
    | positive =>
      rw [hy]
      have hinfinity : (Float.Model.pack (.infinity .positive)).unpack = .infinity .positive := rfl
      change IsPositive (Float.Model.pack (.infinity .positive)).unpack
      rw [hinfinity]
      trivial
  | finite s n f hn =>
    rw [hunpack] at hx
    cases s with
    | negative => exact hx.elim
    | positive =>
      rw [hy, UnpackedFloat.mul]
      have hf := le_exponent_of_unpack hunpack
      have hfits : 2 ^ (-1074 - (f + e)).toNat ≤ n * m := by
        calc 2 ^ (-1074 - (f + e)).toNat ≤ 2 ^ (-e).toNat :=
              Nat.pow_le_pow_right Nat.two_pos (by omega)
          _ ≤ m := hone
          _ ≤ n * m := Nat.le_mul_of_pos_left m hn
      obtain ⟨m', e', hm', heq, hlt, he'⟩ :=
        exists_roundWithAccuracy_eq (Nat.mul_pos hn hm) hfits (Sign.positive * Sign.positive) .exact
      rw [heq]
      exact isPositive_unpack_pack hm' hlt he'

/-! ### Written numbers -/

section Decimals

variable {spec : Format} {a : UnpackedFloat} {sign : Sign} {m : Nat} {e : Int} {hm : 0 < m}

theorem isNaN_mul (ha : a.isNaN = false) :
    (UnpackedFloat.mul spec a (.finite sign m e hm)).isNaN = false := by
  cases a with
  | notANumber => cases ha
  | infinity | zero => rfl
  | finite => exact isNaN_roundWithAccuracy ..

theorem isNaN_div (ha : a.isNaN = false) :
    (UnpackedFloat.div spec a (.finite sign m e hm)).isNaN = false := by
  cases a with
  | notANumber => cases ha
  | infinity | zero => rfl
  | finite => exact isNaN_roundWithAccuracy ..

theorem isNaN_ofNat (spec : Format) (n : Nat) :
    (UnpackedFloat.ofNat spec n).isNaN = false := by
  unfold UnpackedFloat.ofNat UnpackedFloat.ofInt UnpackedFloat.normalize
  split
  · exact isNaN_roundWithAccuracy ..
  · rfl
  · exact isNaN_roundWithAccuracy ..

theorem isNaN_ofScientific (spec : Format) (m : Nat) (e : Int) :
    (UnpackedFloat.ofScientific spec m e).isNaN = false := by
  unfold UnpackedFloat.ofScientific
  split
  · rfl
  · split
    · rfl
    · split
      · rfl
      · split
        · exact isNaN_mul rfl
        · exact isNaN_div rfl

end Decimals

/-- The powers of ten that are doubles. -/
theorem exists_unpack_power (e : Nat) (h : e < Float.exactlyRepresentablePowersOfTen.size) :
    ∃ m f hm, Float.exactlyRepresentablePowersOfTen[e].toModel.unpack =
      .finite .positive m f hm := by
  have hall : ∀ i : Fin 23,
      (Float.exactlyRepresentablePowersOfTen[i].toModel.unpack matches .finite .positive ..) := by
    decide +kernel
  have hmatches := hall ⟨e, h⟩
  simp only [Fin.getElem_fin] at hmatches
  cases hunpack : Float.exactlyRepresentablePowersOfTen[e].toModel.unpack with
  | finite s m f hm =>
    cases s with
    | positive => exact ⟨m, f, hm, rfl⟩
    | negative => simp [hunpack] at hmatches
  | notANumber | infinity | zero => simp [hunpack] at hmatches

theorem isNaN_unpack_ofScientific (m : Nat) (negative : Bool) (e : Nat) :
    (Float.ofScientific m negative e).toModel.unpack.isNaN = false := by
  unfold Float.ofScientific
  split
  · rename_i hfast
    have hmantissa : m.toUInt64.toFloat.toModel.unpack.isNaN = false :=
      isNaN_unpack_pack (isNaN_ofNat _ _)
    have hsize : e < Float.exactlyRepresentablePowersOfTen.size :=
      Nat.lt_succ_of_le hfast.2
    obtain ⟨n, f, hn, hpower⟩ := exists_unpack_power e hsize
    dsimp only
    split
    · refine isNaN_unpack_pack ?_
      rw [hpower]
      exact isNaN_div hmantissa
    · refine isNaN_unpack_pack ?_
      rw [hpower]
      exact isNaN_mul hmantissa
  · exact isNaN_unpack_pack (isNaN_ofScientific _ _ _)

theorem isNaN_unpack_neg {x : Float} (h : x.toModel.unpack.isNaN = false) :
    (-x).toModel.unpack.isNaN = false := by
  refine isNaN_unpack_pack ?_
  cases hunpack : x.toModel.unpack with
  | notANumber =>
    rw [hunpack] at h
    cases h
  | infinity | zero | finite => rfl

/-- The double nearest to a decimal is a number. -/
theorem not_isNaN_nearest (negative : Bool) (mantissa : Nat) (exponent : Int) :
    ¬ (nearest negative mantissa exponent).isNaN := by
  have hmagnitude :=
    isNaN_unpack_ofScientific mantissa (decide (exponent < 0)) exponent.natAbs
  refine Bool.eq_false_iff.mp ?_
  cases negative with
  | false => exact hmagnitude
  | true => exact isNaN_unpack_neg hmagnitude

end NumericControl.Number
