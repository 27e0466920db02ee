import Mathlib.Data.List.DropRight
import NumericControl.Text.Blank

/-!
# Respaced texts

A text is respaced from left to right: white space is held back until another character comes, and
one space is written before that.  So the respaced form of two texts one after another is known
from the respaced forms of both, and whether the first one ends with white space.

## Main definitions

* `Text.squeeze` : a text with one space for every run of white space but the last.
* `Text.endsBlank` : whether white space is held back after a text.
* `Text.respaced` : a text without white space but for single spaces between its fields.

## Main results

* `Text.squeeze_append` : texts are respaced one after another.
* `Text.respace_eq_dropWhile` : a respaced text is a squeezed one without a space in front.
* `Text.trimChars_squeeze_append` : white space around a squeezed text is trimmed.
-/

namespace NumericControl.Text

/-- The text with one space for every run of white space that something follows; `gap` tells that
white space came before. -/
def squeeze (gap : Bool) : List Char → List Char
  | [] => []
  | c :: cs =>
    if isBlank c then squeeze true cs
    else (if gap then [' ', c] else [c]) ++ squeeze false cs

/-- Whether a text ends with white space; `gap` tells that white space came before. -/
def endsBlank (gap : Bool) : List Char → Bool
  | [] => gap
  | c :: cs => endsBlank (isBlank c) cs

variable {gap : Bool} {c d : Char} {cs us : List Char}

theorem dropTailWhile_eq_rdropWhile (p : Char → Bool) (cs : List Char) :
    dropTailWhile p cs = cs.rdropWhile p :=
  rfl

theorem endsBlank_cons (gap : Bool) (c : Char) (cs : List Char) :
    endsBlank gap (c :: cs) = endsBlank (isBlank c) cs :=
  rfl

theorem squeeze_cons_of_isBlank (h : isBlank c = true) : squeeze gap (c :: cs) = squeeze true cs :=
  if_pos h

theorem squeeze_cons_of_not_isBlank (h : isBlank c = false) :
    squeeze gap (c :: cs) = (if gap then [' ', c] else [c]) ++ squeeze false cs := by
  simp [squeeze, h]

/-- Texts are respaced one after another. -/
theorem squeeze_append (gap : Bool) (us cs : List Char) :
    squeeze gap (us ++ cs) = squeeze gap us ++ squeeze (endsBlank gap us) cs := by
  induction us generalizing gap with
  | nil => rfl
  | cons c us ih => by_cases h : isBlank c <;> simp [squeeze, endsBlank_cons, h, ih]

/-- A squeezed text has no white space but spaces. -/
theorem mem_squeeze (h : c ∈ squeeze gap cs) : c = ' ' ∨ c ∈ cs ∧ isBlank c = false := by
  induction cs generalizing gap with
  | nil => cases h
  | cons d cs ih =>
    by_cases hblank : isBlank d
    · rw [squeeze_cons_of_isBlank hblank] at h
      exact (ih h).imp_right fun hc => ⟨List.mem_cons_of_mem d hc.1, hc.2⟩
    · rw [Bool.not_eq_true] at hblank
      rw [squeeze_cons_of_not_isBlank hblank] at h
      rcases List.mem_append.mp h with h | h
      · have hc : c = ' ' ∨ c = d := by cases gap <;> simp_all
        rcases hc with rfl | rfl
        · exact .inl rfl
        · exact .inr ⟨List.mem_cons_self, hblank⟩
      · exact (ih h).imp_right fun hc => ⟨List.mem_cons_of_mem d hc.1, hc.2⟩

/-- Only the space in front tells whether white space came before a squeezed text. -/
theorem dropWhile_squeeze (gap : Bool) (cs : List Char) :
    (squeeze gap cs).dropWhile isBlank = squeeze false (cs.dropWhile isBlank) := by
  have hspace : isBlank ' ' = true := rfl
  induction cs generalizing gap with
  | nil => rfl
  | cons c cs ih =>
    by_cases h : isBlank c
    · rw [squeeze_cons_of_isBlank h, ih, List.dropWhile_cons_of_pos h]
    · cases gap <;> simp [squeeze, h, hspace]

/-! ### Respaced texts are squeezed -/

theorem fields_cons_of_isBlank (h : isBlank c = true) : fields (c :: cs) = fields cs := by
  cases cs <;> exact if_pos h

theorem fields_singleton (h : isBlank c = false) : fields [c] = [[c]] :=
  if_neg (by simp [h])

theorem fields_cons_blank (hc : isBlank c = false) (hd : isBlank d = true) :
    fields (c :: d :: cs) = [c] :: fields cs := by
  have hfield : fields (c :: d :: cs) = [c] :: fields (d :: cs) :=
    (if_neg (by simp [hc])).trans (if_pos hd)
  rw [hfield, fields_cons_of_isBlank hd]

theorem fields_cons_cons (hc : isBlank c = false) (hd : isBlank d = false) {f : List Char}
    {fs : List (List Char)} (h : fields (d :: cs) = f :: fs) :
    fields (c :: d :: cs) = (c :: f) :: fs := by
  refine (if_neg (by simp [hc])).trans ((if_neg (by simp [hd])).trans ?_)
  rw [h]

/-- The fields of a text with white space in front, and of a text that starts with a field. -/
private theorem squeeze_eq_fields (cs : List Char) :
    (squeeze true cs = if fields cs = [] then [] else ' ' :: respace cs) ∧
      ∀ c, isBlank c = false → respace (c :: cs) = c :: squeeze false cs := by
  induction cs with
  | nil =>
    refine ⟨rfl, fun c hc => ?_⟩
    rw [respace, fields_singleton hc]
    rfl
  | cons d ds ih =>
    obtain ⟨hgap, hfield⟩ := ih
    by_cases hd : isBlank d
    · refine ⟨?_, fun c hc => ?_⟩
      · rw [squeeze_cons_of_isBlank hd, hgap, respace, respace, fields_cons_of_isBlank hd]
      · rw [squeeze_cons_of_isBlank hd, hgap, respace, respace, fields_cons_blank hc hd]
        cases fields ds <;> simp
    · rw [Bool.not_eq_true] at hd
      have hrest := hfield d hd
      have hnonempty : fields (d :: ds) ≠ [] := by
        intro hnil
        rw [respace, hnil] at hrest
        cases hrest
      refine ⟨?_, fun c hc => ?_⟩
      · rw [if_neg hnonempty, hrest, squeeze_cons_of_not_isBlank hd]
        rfl
      · obtain ⟨f, fs, hfields⟩ := List.exists_cons_of_ne_nil hnonempty
        have hcons : respace (c :: d :: ds) = c :: respace (d :: ds) := by
          rw [respace, respace, fields_cons_cons hc hd hfields, hfields]
          cases fs <;> rfl
        rw [squeeze_cons_of_not_isBlank hd, hcons, hrest]
        rfl

theorem respace_eq_squeeze (cs : List Char) :
    respace cs = squeeze false (cs.dropWhile isBlank) := by
  induction cs with
  | nil => rfl
  | cons c cs ih =>
    by_cases h : isBlank c
    · rw [List.dropWhile_cons_of_pos h, ← ih]
      rw [respace, respace, fields_cons_of_isBlank h]
    · rw [Bool.not_eq_true] at h
      rw [List.dropWhile_cons_of_neg (by simp [h]), squeeze_cons_of_not_isBlank h]
      exact (squeeze_eq_fields cs).2 c h

/-- A respaced text is a squeezed one without a space in front. -/
theorem respace_eq_dropWhile (gap : Bool) (cs : List Char) :
    respace cs = (squeeze gap cs).dropWhile isBlank := by
  rw [respace_eq_squeeze, dropWhile_squeeze]

/-- A respaced text has no white space but spaces. -/
theorem mem_respace (h : c ∈ respace cs) : c = ' ' ∨ c ∈ cs ∧ isBlank c = false := by
  rw [respace_eq_dropWhile false] at h
  exact mem_squeeze ((List.dropWhile_sublist _).mem h)

/-- A respaced text does not start with white space. -/
theorem isBlank_head_respace (h : respace cs = c :: us) : isBlank c = false := by
  have hhead := List.head?_dropWhile_not isBlank (squeeze false cs)
  rw [← respace_eq_dropWhile, h] at hhead
  simpa using hhead

/-- The text with every run of white space between two fields written as one space. -/
def respaced (s : String) : String :=
  String.ofList (respace s.toList)

theorem respaced_ofList (cs : List Char) :
    respaced (String.ofList cs) = String.ofList (respace cs) := by
  rw [respaced, String.toList_ofList]

/-! ### White space at the ends -/

theorem squeeze_dropTailWhile (gap : Bool) (cs : List Char) :
    squeeze gap (dropTailWhile isBlank cs) = squeeze gap cs := by
  rw [dropTailWhile_eq_rdropWhile]
  induction cs using List.reverseRecOn with
  | nil => rfl
  | append_singleton us c ih =>
    by_cases h : isBlank c
    · rw [List.rdropWhile_concat_pos _ _ _ h, ih, squeeze_append]
      simp [squeeze, h]
    · rw [List.rdropWhile_concat_neg _ _ _ h]

/-- A squeezed text ends without white space. -/
theorem dropTailWhile_squeeze (gap : Bool) (cs : List Char) :
    dropTailWhile isBlank (squeeze gap cs) = squeeze gap cs := by
  induction cs using List.reverseRecOn with
  | nil => rfl
  | append_singleton us c ih =>
    rw [squeeze_append]
    by_cases h : isBlank c
    · simpa [squeeze, h] using ih
    · have hlast : ∃ vs, squeeze gap us ++ squeeze (endsBlank gap us) [c] = vs ++ [c] := by
        cases endsBlank gap us with
        | false => exact ⟨squeeze gap us, by simp [squeeze, h]⟩
        | true => exact ⟨squeeze gap us ++ [' '], by simp [squeeze, h]⟩
      obtain ⟨vs, hvs⟩ := hlast
      rw [hvs, dropTailWhile_eq_rdropWhile, List.rdropWhile_concat_neg _ _ _ h]

/-- White space around a text does not count when it is respaced. -/
theorem respace_trimChars (cs : List Char) : respace (trimChars cs) = respace cs := by
  rw [trimChars, respace_eq_dropWhile false, squeeze_dropTailWhile, ← respace_eq_squeeze,
    respace_eq_dropWhile false, List.dropWhile_idempotent]

/-- A trimmed text that has characters keeps some when it is respaced. -/
theorem trimChars_eq_nil_of_respace (h : respace (trimChars cs) = []) : trimChars cs = [] := by
  rw [respace_trimChars, respace_eq_squeeze] at h
  rw [trimChars]
  cases hdrop : cs.dropWhile isBlank with
  | nil => rfl
  | cons c us =>
    have hc := List.head?_dropWhile_not isBlank cs
    rw [hdrop] at h hc
    rw [squeeze_cons_of_not_isBlank (by simpa using hc)] at h
    cases h

/-- White space around a squeezed text is trimmed. -/
theorem trimChars_squeeze_append (gap : Bool) (cs : List Char) {bs : List Char}
    (hbs : ∀ b ∈ bs, isBlank b = true) : trimChars (squeeze gap cs ++ bs) = respace cs := by
  have hblank : bs.dropWhile isBlank = [] := List.dropWhile_eq_nil_iff.mpr hbs
  have htail (us : List Char) : dropTailWhile isBlank (us ++ bs) = dropTailWhile isBlank us := by
    rw [dropTailWhile, List.reverse_append, List.dropWhile_append, if_pos]
    · rfl
    · simpa using hbs
  rw [trimChars, List.dropWhile_append, hblank]
  by_cases hempty : ((squeeze gap cs).dropWhile isBlank).isEmpty
  · rw [if_pos hempty, respace_eq_dropWhile gap]
    exact (List.isEmpty_iff.mp hempty).symm
  · rw [if_neg hempty, htail, dropWhile_squeeze, dropTailWhile_squeeze, respace_eq_squeeze]

/-- A character other than white space in front of a squeezed text stands in front of the text. -/
theorem exists_of_squeeze_append {bs : List Char} (hbs : ∀ b ∈ bs, isBlank b = true)
    (hc : isBlank c = false) (h : squeeze false cs ++ bs = c :: us) :
    ∃ rest, cs = c :: rest ∧ us = squeeze false rest ++ bs := by
  have hblank {vs : List Char} (hvs : ∀ v, vs.head? = some v → isBlank v = true) :
      vs ≠ c :: us := by
    rintro rfl
    rw [hvs c rfl] at hc
    cases hc
  have hgap (ds : List Char) (v : Char) (hv : (squeeze true ds ++ bs).head? = some v) :
      isBlank v = true := by
    induction ds with
    | nil => exact hbs v (List.mem_of_mem_head? hv)
    | cons d ds ih =>
      by_cases hd : isBlank d
      · rw [squeeze_cons_of_isBlank hd] at hv
        exact ih hv
      · rw [Bool.not_eq_true] at hd
        rw [squeeze_cons_of_not_isBlank hd] at hv
        cases hv
        rfl
  cases cs with
  | nil => exact absurd h (hblank fun v hv => hbs v (List.mem_of_mem_head? hv))
  | cons d rest =>
    by_cases hd : isBlank d
    · rw [squeeze_cons_of_isBlank hd] at h
      exact absurd h (hblank (hgap rest))
    · rw [Bool.not_eq_true] at hd
      rw [squeeze_cons_of_not_isBlank hd] at h
      cases h
      exact ⟨rest, rfl, rfl⟩

end NumericControl.Text
