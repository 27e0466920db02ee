import NumericControl.Extent
import NumericControl.Proofs.Number.Order

/-!
# Exact extents

A span is the exact extent of values if it encloses them and both of its ends are among them.
Taking in values one by one leads to their exact extent, and a span that is the exact extent of
some values is that of others if and only if either values enclose the others.

## Main definitions

* `Span.IsExtentOf` : the exact extent of a list of doubles.
* `Encloses` : a list of doubles reaches down and up to a value.

## Main results

* `Span.isExtentOf_foldl_widen` : taking in values leads to their exact extent.
* `Span.IsExtentOf.iff_encloses` : when two lists of doubles have the same exact extent.
-/

namespace NumericControl

/-- A span that encloses the values and has both ends among them.  Values that are no numbers do
not count, and the extent of no number is the empty span. -/
structure Span.IsExtentOf (s : Span Float) (values : List Float) : Prop where
  encloses : ∀ v ∈ values, ¬ v.isNaN → s.low ≤ v ∧ v ≤ s.high
  attained : ∀ v ∈ values, ¬ v.isNaN → (∃ u ∈ values, u == s.low) ∧ ∃ u ∈ values, u == s.high
  eq_empty : (∀ v ∈ values, v.isNaN) → s = .empty

/-- Values that reach down and up to another one, unless that is no number. -/
def Encloses (values : List Float) (x : Float) : Prop :=
  ¬ x.isNaN → (∃ v ∈ values, v ≤ x) ∧ ∃ v ∈ values, x ≤ v

theorem encloses_of_mem {values : List Float} {x : Float} (h : x ∈ values) : Encloses values x :=
  fun hx => ⟨⟨x, h, Number.le_refl hx⟩, ⟨x, h, Number.le_refl hx⟩⟩

namespace Span

variable {s : Span Float} {values others : List Float}

/-! ### Taking in values -/

theorem isExtentOf_empty : (empty : Span Float).IsExtentOf [] where
  encloses := by simp
  attained := by simp
  eq_empty _ := rfl

/-- The ends of an exact extent are numbers. -/
theorem IsExtentOf.not_isNaN (h : s.IsExtentOf values) : ¬ s.low.isNaN ∧ ¬ s.high.isNaN := by
  by_cases hall : ∀ v ∈ values, v.isNaN
  · rw [h.eq_empty hall]
    exact ⟨Number.not_isNaN_of_mem_rank Number.rank_infinity,
      Number.not_isNaN_of_mem_rank Number.rank_neg_infinity⟩
  · obtain ⟨v, hv, hnumber⟩ : ∃ v ∈ values, ¬ v.isNaN := by simpa using hall
    obtain ⟨hlow, hhigh⟩ := h.encloses v hv hnumber
    exact ⟨Number.not_isNaN_of_le_left hlow, Number.not_isNaN_of_le_right hhigh⟩

theorem widen_of_isNaN {v : Float} (h : v.isNaN) : s.widen v = s := by
  have hlow : ¬ v < s.low := fun hlt => Number.not_isNaN_of_le_left (Number.le_of_lt hlt) h
  have hhigh : ¬ s.high < v := fun hlt => Number.not_isNaN_of_le_right (Number.le_of_lt hlt) h
  rw [widen, if_neg hlow, if_neg hhigh]

/-- The ends of a span that takes in a number are between the old ends and the number, and each
is one of the two. -/
theorem ends_widen {v : Float} (hlow : ¬ s.low.isNaN) (hhigh : ¬ s.high.isNaN) (hv : ¬ v.isNaN) :
    ((s.widen v).low ≤ v ∧ v ≤ (s.widen v).high) ∧
      ((s.widen v).low ≤ s.low ∧ s.high ≤ (s.widen v).high) := by
  simp only [widen]
  refine ⟨⟨?_, ?_⟩, ?_, ?_⟩
  · split
    · exact Number.le_refl hv
    · exact Number.le_of_not_lt hv hlow ‹_›
  · split
    · exact Number.le_refl hv
    · exact Number.le_of_not_lt hhigh hv ‹_›
  · split
    · exact Number.le_of_lt ‹_›
    · exact Number.le_refl hlow
  · split
    · exact Number.le_of_lt ‹_›
    · exact Number.le_refl hhigh

/-- An empty span that takes in a number has both ends there. -/
theorem widen_empty {v : Float} (hv : ¬ v.isNaN) :
    (v == ((empty : Span Float).widen v).low) = true ∧
      (v == ((empty : Span Float).widen v).high) = true := by
  have hlow : ¬ (empty : Span Float).low.isNaN := isExtentOf_empty.not_isNaN.1
  have hhigh : ¬ (empty : Span Float).high.isNaN := isExtentOf_empty.not_isNaN.2
  obtain ⟨⟨hle, hge⟩, -, -⟩ := ends_widen hlow hhigh hv
  constructor
  · refine Number.beq_of_le_of_le ?_ hle
    simp only [widen]
    split
    · exact Number.le_refl hv
    · exact Number.le_infinity hv
  · refine Number.beq_of_le_of_le hge ?_
    simp only [widen]
    split
    · exact Number.le_refl hv
    · exact Number.neg_infinity_le hv

/-- Each end of a span that takes in a number is among the values and the number. -/
theorem IsExtentOf.attained_widen (h : s.IsExtentOf values) {v : Float} (hv : ¬ v.isNaN) :
    (∃ u ∈ values ++ [v], u == (s.widen v).low) ∧ ∃ u ∈ values ++ [v], u == (s.widen v).high := by
  have hmem : v ∈ values ++ [v] := by simp
  have hself : (v == v) = true := Number.beq_of_le_of_le (Number.le_refl hv) (Number.le_refl hv)
  by_cases hall : ∀ u ∈ values, u.isNaN
  · rw [h.eq_empty hall]
    exact ⟨⟨v, hmem, (widen_empty hv).1⟩, ⟨v, hmem, (widen_empty hv).2⟩⟩
  · obtain ⟨u, hu, hnumber⟩ : ∃ u ∈ values, ¬ u.isNaN := by simpa using hall
    obtain ⟨⟨a, ha, hlow⟩, b, hb, hhigh⟩ := h.attained u hu hnumber
    simp only [widen]
    constructor
    · split
      · exact ⟨v, hmem, hself⟩
      · exact ⟨a, List.mem_append_left [v] ha, hlow⟩
    · split
      · exact ⟨v, hmem, hself⟩
      · exact ⟨b, List.mem_append_left [v] hb, hhigh⟩

/-- Taking in one more value leads from the extent of the others to that of all. -/
theorem IsExtentOf.widen (h : s.IsExtentOf values) (v : Float) :
    (s.widen v).IsExtentOf (values ++ [v]) := by
  by_cases hv : v.isNaN
  · rw [widen_of_isNaN hv]
    refine ⟨?_, ?_, fun hall => h.eq_empty fun u hu => hall u (List.mem_append_left [v] hu)⟩
    · intro u hu hnumber
      rcases List.mem_append.mp hu with hu | hu
      · exact h.encloses u hu hnumber
      · rw [List.mem_singleton.mp hu] at hnumber
        exact absurd hv hnumber
    · intro u hu hnumber
      rcases List.mem_append.mp hu with hu | hu
      · obtain ⟨⟨a, ha, hlow⟩, b, hb, hhigh⟩ := h.attained u hu hnumber
        exact ⟨⟨a, List.mem_append_left [v] ha, hlow⟩, ⟨b, List.mem_append_left [v] hb, hhigh⟩⟩
      · rw [List.mem_singleton.mp hu] at hnumber
        exact absurd hv hnumber
  · obtain ⟨hbetween, hlow, hhigh⟩ := ends_widen h.not_isNaN.1 h.not_isNaN.2 hv
    refine ⟨?_, fun _ _ _ => h.attained_widen hv, fun hall => absurd (hall v (by simp)) hv⟩
    intro u hu hnumber
    rcases List.mem_append.mp hu with hu | hu
    · obtain ⟨hu₁, hu₂⟩ := h.encloses u hu hnumber
      exact ⟨Number.le_trans hlow hu₁, Number.le_trans hu₂ hhigh⟩
    · rw [List.mem_singleton.mp hu]
      exact hbetween

theorem IsExtentOf.foldl_widen (h : s.IsExtentOf values) :
    (others.foldl Span.widen s).IsExtentOf (values ++ others) := by
  induction others generalizing s values with
  | nil => simpa using h
  | cons v others ih =>
    rw [List.foldl_cons, ← List.singleton_append, ← List.append_assoc]
    exact ih (h.widen v)

theorem isExtentOf_single {v : Float} (h : ¬ v.isNaN) : (single v).IsExtentOf [v] where
  encloses := by
    rintro u hu hnumber
    rw [List.mem_singleton.mp hu]
    exact ⟨Number.le_refl h, Number.le_refl h⟩
  attained _ _ _ :=
    have hself := Number.beq_of_le_of_le (Number.le_refl h) (Number.le_refl h)
    ⟨⟨v, List.mem_singleton_self v, hself⟩, v, List.mem_singleton_self v, hself⟩
  eq_empty hall := absurd (hall v (List.mem_singleton_self v)) h

/-- Each end of a span that takes in values is its old end or one of the values. -/
theorem ends_mem_foldl_widen (s : Span Float) (values : List Float) :
    (values.foldl widen s).low ∈ s.low :: values ∧
      (values.foldl widen s).high ∈ s.high :: values := by
  induction values generalizing s with
  | nil => exact ⟨List.mem_cons_self, List.mem_cons_self⟩
  | cons v values ih =>
    obtain ⟨hlow, hhigh⟩ := ih (s.widen v)
    have hends : (s.widen v).low ∈ [s.low, v] ∧ (s.widen v).high ∈ [s.high, v] := by
      unfold widen
      constructor <;> dsimp only <;> split <;> simp
    simp only [List.mem_cons, List.not_mem_nil, or_false] at hlow hhigh hends ⊢
    rw [List.foldl_cons]
    constructor
    · rcases hlow with hlow | hlow
      · rw [hlow]
        exact hends.1.imp_right .inl
      · exact .inr (.inr hlow)
    · rcases hhigh with hhigh | hhigh
      · rw [hhigh]
        exact hends.2.imp_right .inl
      · exact .inr (.inr hhigh)

/-- An extent depends only on which values there are. -/
theorem IsExtentOf.of_mem_iff (h : s.IsExtentOf values) (hmem : ∀ v, v ∈ others ↔ v ∈ values) :
    s.IsExtentOf others where
  encloses v hv := h.encloses v ((hmem v).mp hv)
  attained v hv hnumber := by
    simpa only [hmem] using h.attained v ((hmem v).mp hv) hnumber
  eq_empty hall := h.eq_empty fun v hv => hall v ((hmem v).mpr hv)

/-- Taking in values one by one leads to their extent. -/
theorem isExtentOf_foldl_widen (values : List Float) :
    (values.foldl Span.widen (empty : Span Float)).IsExtentOf values :=
  isExtentOf_empty.foldl_widen

/-! ### The extent of other values -/

/-- Two lists of doubles with the same extent enclose each other. -/
private theorem IsExtentOf.encloses_of (h : s.IsExtentOf values) (h' : s.IsExtentOf others)
    {v : Float} (hv : v ∈ values) : Encloses others v := by
  intro hnumber
  obtain ⟨hlow, hhigh⟩ := h.encloses v hv hnumber
  obtain ⟨⟨a, ha, hlowa⟩, b, hb, hhighb⟩ := h.attained v hv hnumber
  by_cases hall : ∀ u ∈ others, u.isNaN
  · -- an empty span encloses nothing, since its low end is above its high end
    rw [h'.eq_empty hall] at hlow hhigh
    have hends : (Number.infinity : Float) ≤ -Number.infinity := Number.le_trans hlow hhigh
    exact absurd hends (by decide +kernel)
  · obtain ⟨u, hu, hnumber'⟩ : ∃ u ∈ others, ¬ u.isNaN := by simpa using hall
    obtain ⟨⟨c, hc, hlowc⟩, d, hd, hhighd⟩ := h'.attained u hu hnumber'
    exact ⟨⟨c, hc, Number.le_trans (Number.le_of_beq hlowc) hlow⟩,
      ⟨d, hd, Number.le_trans hhigh (Number.ge_of_beq hhighd)⟩⟩

/-- The extent of some values is that of others if and only if either enclose the others. -/
theorem IsExtentOf.iff_encloses (h : s.IsExtentOf values) :
    s.IsExtentOf others ↔
      (∀ v ∈ values, Encloses others v) ∧ ∀ v ∈ others, Encloses values v := by
  constructor
  · intro h'
    exact ⟨fun v hv => h.encloses_of h' hv, fun v hv => h'.encloses_of h hv⟩
  · rintro ⟨hvalues, hothers⟩
    have hencloses : ∀ v ∈ others, ¬ v.isNaN → s.low ≤ v ∧ v ≤ s.high := by
      intro v hv hnumber
      obtain ⟨⟨a, ha, hav⟩, b, hb, hvb⟩ := hothers v hv hnumber
      exact ⟨Number.le_trans (h.encloses a ha (Number.not_isNaN_of_le_left hav)).1 hav,
        Number.le_trans hvb (h.encloses b hb (Number.not_isNaN_of_le_right hvb)).2⟩
    refine ⟨hencloses, ?_, ?_⟩
    · intro v hv hnumber
      obtain ⟨⟨a, ha, hav⟩, -⟩ := hothers v hv hnumber
      obtain ⟨⟨c, hc, hlow⟩, d, hd, hhigh⟩ := h.attained a ha (Number.not_isNaN_of_le_left hav)
      have hc' := Number.le_of_beq hlow
      have hd' := Number.ge_of_beq hhigh
      obtain ⟨⟨e, he, hec⟩, -⟩ := hvalues c hc (Number.not_isNaN_of_le_left hc')
      obtain ⟨-, f, hf, hdf⟩ := hvalues d hd (Number.not_isNaN_of_le_right hd')
      refine ⟨⟨e, he, ?_⟩, ⟨f, hf, ?_⟩⟩
      · exact Number.beq_of_le_of_le (Number.le_trans hec hc')
          (hencloses e he (Number.not_isNaN_of_le_left hec)).1
      · exact Number.beq_of_le_of_le (hencloses f hf (Number.not_isNaN_of_le_right hdf)).2
          (Number.le_trans hd' hdf)
    · intro hall
      refine h.eq_empty fun v hv => ?_
      by_contra hnumber
      obtain ⟨⟨a, ha, hav⟩, -⟩ := hvalues v hv hnumber
      exact Number.not_isNaN_of_le_left hav (hall a ha)

/-- The extent of all values is that of some of them if and only if these enclose the others. -/
theorem IsExtentOf.append_iff (h : s.IsExtentOf (values ++ others)) :
    s.IsExtentOf others ↔ ∀ v ∈ values, Encloses others v := by
  rw [h.iff_encloses, List.forall_mem_append]
  constructor
  · rintro ⟨⟨hvalues, -⟩, -⟩
    exact hvalues
  · intro hvalues
    exact ⟨⟨hvalues, fun v hv => encloses_of_mem hv⟩,
      fun v hv => encloses_of_mem (List.mem_append_right _ hv)⟩

end Span

end NumericControl
