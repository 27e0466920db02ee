import Mathlib.Data.List.TakeWhile
import NumericControl.Number.Numeral

/-!
# Which texts are plain decimals

A plain decimal is an optional sign, and digits with at most one point among them, of which there
is at least one.

## Main definitions

* `IsNumeral` : the texts of plain decimals.

## Main results

* `plain?_isSome_iff` : exactly these texts are read.
-/

namespace NumericControl.Number

/-- What may stand in front of the digits of a number. -/
def signs : List (List Char) := [[], ['+'], ['-']]

/-- A plain decimal: an optional sign, digits and at most one point, with at least one digit. -/
inductive IsNumeral : List Char → Prop
  | whole {sign digits : List Char} (hsign : sign ∈ signs) (hdigits : ∀ c ∈ digits, isDigit c)
      (hne : digits ≠ []) : IsNumeral (sign ++ digits)
  | pointed {sign whole fraction : List Char} (hsign : sign ∈ signs)
      (hdigits : ∀ c ∈ whole ++ fraction, isDigit c) (hne : whole ++ fraction ≠ []) :
      IsNumeral (sign ++ (whole ++ '.' :: fraction))

variable {cs : List Char}

theorem exists_sign_splitSign (cs : List Char) : ∃ sign ∈ signs, cs = sign ++ (splitSign cs).2 := by
  unfold splitSign
  split
  · exact ⟨['-'], by decide, rfl⟩
  · exact ⟨['+'], by decide, rfl⟩
  · exact ⟨[], by decide, rfl⟩

/-- A sign is split off what starts with neither sign. -/
theorem splitSign_append {sign : List Char} (hsign : sign ∈ signs)
    (hhead : ∀ c ∈ cs.head?, c ≠ '+' ∧ c ≠ '-') : (splitSign (sign ++ cs)).2 = cs := by
  simp only [signs, List.mem_cons, List.not_mem_nil, or_false] at hsign
  rcases hsign with rfl | rfl | rfl
  · cases cs with
    | nil => rfl
    | cons c cs =>
      obtain ⟨hplus, hminus⟩ := hhead c rfl
      rw [List.nil_append, splitSign.eq_3 _ (by simp [hminus]) (by simp [hplus])]
  · rfl
  · rfl

private theorem ne_sign_of_isDigit {c : Char} (hc : isDigit c) : c ≠ '+' ∧ c ≠ '-' := by
  constructor <;>
  · rintro rfl
    revert hc
    decide

/-- What is read is a plain decimal. -/
theorem isNumeral_of_plain? (h : (plain? cs).isSome) : IsNumeral cs := by
  obtain ⟨sign, hsign, hcs⟩ := exists_sign_splitSign cs
  have hrest := List.takeWhile_append_dropWhile (p := isDigit) (l := (splitSign cs).2)
  have hwhole : ∀ c ∈ (splitSign cs).2.takeWhile isDigit, isDigit c :=
    fun c hc => List.mem_takeWhile_imp hc
  unfold plain? at h
  dsimp only at h
  split at h
  · rename_i hdrop
    rw [hdrop, List.append_nil] at hrest
    rw [hcs, ← hrest]
    refine .whole hsign hwhole fun hnil => ?_
    rw [hnil] at h
    cases h
  · rename_i c fraction hdrop
    split at h
    · rename_i hpoint
      rw [Bool.and_eq_true, Bool.and_eq_true, beq_iff_eq, List.all_eq_true, Bool.not_eq_true']
        at hpoint
      obtain ⟨⟨rfl, hfraction⟩, hne⟩ := hpoint
      rw [hdrop] at hrest
      rw [hcs, ← hrest]
      refine .pointed hsign (fun d hd => ?_) fun hnil => ?_
      · rcases List.mem_append.mp hd with hd | hd
        · exact hwhole d hd
        · exact hfraction d hd
      · obtain ⟨hwholeNil, hfractionNil⟩ := List.append_eq_nil_iff.mp hnil
        rw [hwholeNil, hfractionNil] at hne
        cases hne
    · cases h

/-- Digits behind a sign are read. -/
theorem isSome_plain?_whole {sign digits : List Char} (hsign : sign ∈ signs)
    (hdigits : ∀ c ∈ digits, isDigit c) (hne : digits ≠ []) : (plain? (sign ++ digits)).isSome := by
  have hsplit : (splitSign (sign ++ digits)).2 = digits :=
    splitSign_append hsign fun c hc => ne_sign_of_isDigit (hdigits c (List.mem_of_mem_head? hc))
  have htake : digits.takeWhile isDigit = digits := List.takeWhile_eq_self_iff.mpr hdigits
  have hdrop : digits.dropWhile isDigit = [] := List.dropWhile_eq_nil_iff.mpr hdigits
  unfold plain?
  simp only [hsplit, htake, hdrop, List.isEmpty_eq_false_iff.mpr hne]
  rfl

/-- Digits with a point behind a sign are read. -/
theorem isSome_plain?_pointed {sign whole fraction : List Char} (hsign : sign ∈ signs)
    (hdigits : ∀ c ∈ whole ++ fraction, isDigit c) (hne : whole ++ fraction ≠ []) :
    (plain? (sign ++ (whole ++ '.' :: fraction))).isSome := by
  have hwhole : ∀ c ∈ whole, isDigit c := fun c hc => hdigits c (List.mem_append_left _ hc)
  have hfraction : ∀ c ∈ fraction, isDigit c := fun c hc => hdigits c (List.mem_append_right _ hc)
  have hsplit : (splitSign (sign ++ (whole ++ '.' :: fraction))).2 = whole ++ '.' :: fraction := by
    refine splitSign_append hsign fun c hc => ?_
    cases whole with
    | nil =>
      cases hc
      decide
    | cons d whole =>
      cases hc
      exact ne_sign_of_isDigit (hwhole c List.mem_cons_self)
  have htake : (whole ++ '.' :: fraction).takeWhile isDigit = whole := by
    rw [List.takeWhile_append_of_pos hwhole, List.takeWhile_cons_of_neg (by decide),
      List.append_nil]
  have hdrop : (whole ++ '.' :: fraction).dropWhile isDigit = '.' :: fraction := by
    rw [List.dropWhile_append_of_pos hwhole, List.dropWhile_cons_of_neg (by decide)]
  have hempty : (whole.isEmpty && fraction.isEmpty) = false := by
    rw [← Bool.not_eq_true, Bool.and_eq_true, List.isEmpty_iff, List.isEmpty_iff]
    exact fun h => hne (by rw [h.1, h.2]; rfl)
  unfold plain?
  simp only [hsplit, htake, hdrop, hempty, List.all_eq_true.mpr hfraction]
  rfl

/-- Exactly the plain decimals are read. -/
theorem plain?_isSome_iff : (plain? cs).isSome ↔ IsNumeral cs := by
  refine ⟨isNumeral_of_plain?, ?_⟩
  rintro (⟨hsign, hdigits, hne⟩ | ⟨hsign, hdigits, hne⟩)
  · exact isSome_plain?_whole hsign hdigits hne
  · exact isSome_plain?_pointed hsign hdigits hne

/-- A plain decimal has no other characters than digits, a point and a sign. -/
theorem IsNumeral.forall_mem (h : IsNumeral cs) :
    ∀ c ∈ cs, isDigit c ∨ c = '.' ∨ c = '+' ∨ c = '-' := by
  have hmark {sign : List Char} (hsign : sign ∈ signs) : ∀ c ∈ sign, c = '+' ∨ c = '-' := by
    simp only [signs, List.mem_cons, List.not_mem_nil, or_false] at hsign
    rcases hsign with rfl | rfl | rfl <;> simp
  intro c hc
  cases h with
  | whole hsign hdigits _ =>
    rcases List.mem_append.mp hc with hc | hc
    · exact .inr (.inr (hmark hsign c hc))
    · exact .inl (hdigits c hc)
  | pointed hsign hdigits _ =>
    rcases List.mem_append.mp hc with hc | hc
    · exact .inr (.inr (hmark hsign c hc))
    · rcases List.mem_append.mp hc with hc | hc
      · exact .inl (hdigits c (List.mem_append_left _ hc))
      · rcases List.mem_cons.mp hc with rfl | hc
        · exact .inr (.inl rfl)
        · exact .inl (hdigits c (List.mem_append_right _ hc))

end NumericControl.Number
