import Mathlib.Data.List.Nodup
import NumericControl.Json.Writer

/-!
# Plain document values

The values that token documents are made of: objects whose keys are distinct, arrays, texts, whole
numbers, finite doubles and the empty value.  There are no truth values among them.

## Main definitions

* `Json.IsPlain` : the plain values.
* `Json.coincide` : whether two values are the same, with doubles compared as they are held; so
  equality of values is decidable.

## Main results

* `Json.IsPlain.firstNotFinite?_eq_none` : strict documents admit plain values.
* `Members.get?_of_mem` : of distinct keys each one has its own value.
* `Json.toList_writeText` : a written text, character by character.
-/

namespace NumericControl

/-- A value of a member is found by its key if the keys are distinct. -/
theorem Members.get?_of_mem {members : Members} (hkeys : (members.map Prod.fst).Nodup) {key : Key}
    {value : Json} (h : (key, value) ∈ members) : get? key members = some value := by
  induction members with
  | nil => simp at h
  | cons p rest ih =>
    obtain ⟨hfirst, hrest⟩ := List.nodup_cons.mp hkeys
    rcases List.mem_cons.mp h with rfl | h
    · simp [get?]
    · have hne : p.1 ≠ key := by
        rintro rfl
        exact hfirst (List.mem_map.mpr ⟨_, h, rfl⟩)
      rw [get?, if_neg hne, ih hrest h]

namespace Json

/-- A value of objects with distinct keys, arrays, texts, whole numbers, finite doubles and empty
values. -/
inductive IsPlain : Json → Prop
  | null : IsPlain .null
  | int (n : Int) : IsPlain (.int n)
  | float {x : Float} (hfinite : x.isFinite) : IsPlain (.float x)
  | text (s : String) : IsPlain (.text s)
  | brokenText (points : List Nat) : IsPlain (.brokenText points)
  | array {items : List Json} (hitems : ∀ item ∈ items, IsPlain item) : IsPlain (.array items)
  | object {members : Members} (hkeys : (members.map Prod.fst).Nodup)
      (hvalues : ∀ p ∈ members, IsPlain p.2) : IsPlain (.object members)

theorem firstNotFiniteItem?_eq_none {items : List Json} :
    firstNotFiniteItem? items = none ↔ ∀ item ∈ items, item.firstNotFinite? = none := by
  induction items with
  | nil => simp [firstNotFiniteItem?]
  | cons item items ih => simp [firstNotFiniteItem?, ih]

theorem firstNotFiniteMember?_eq_none {members : Members} :
    firstNotFiniteMember? members = none ↔ ∀ p ∈ members, p.2.firstNotFinite? = none := by
  induction members with
  | nil => simp [firstNotFiniteMember?]
  | cons p members ih => simp [firstNotFiniteMember?, ih]

theorem IsPlain.firstNotFinite?_eq_none {value : Json} (h : value.IsPlain) :
    value.firstNotFinite? = none := by
  induction h with
  | null | int | text | brokenText => rfl
  | float hfinite => simp [firstNotFinite?, hfinite]
  | array _ ih => exact firstNotFiniteItem?_eq_none.mpr ih
  | object _ _ ih => exact firstNotFiniteMember?_eq_none.mpr ih

theorem isPlain_ofRaw (s : RawText) : (ofRaw s).IsPlain := by
  cases s with
  | text s => exact .text s
  | broken points => exact .brokenText points

/-! ### Written texts -/

theorem toList_foldl_append (f : Char → String) (cs : List Char) (out : String) :
    (cs.foldl (fun out c => out ++ f c) out).toList =
      out.toList ++ cs.flatMap fun c => (f c).toList := by
  induction cs generalizing out with
  | nil => simp
  | cons c cs ih =>
    rw [List.foldl_cons, ih, String.toList_append, List.flatMap_cons, List.append_assoc]

theorem toList_writeText (s : String) :
    (writeText s).toList = '"' :: s.toList.flatMap (fun c => (escapeChar c).toList) ++ ['"'] := by
  rw [writeText, String.foldl_eq_foldl_toList, String.toList_push, toList_foldl_append]
  rfl

/-! ### Deciding equality -/

mutual

/-- Whether two values are the same. -/
def coincide : Json → Json → Bool
  | .null, .null => true
  | .bool a, .bool b => decide (a = b)
  | .int a, .int b => decide (a = b)
  | .float a, .float b => decide (a = b)
  | .text a, .text b => decide (a = b)
  | .brokenText a, .brokenText b => decide (a = b)
  | .array a, .array b => coincideItems a b
  | .object a, .object b => coincideMembers a b
  | _, _ => false

/-- Whether two sequences of values are the same. -/
def coincideItems : List Json → List Json → Bool
  | [], [] => true
  | a :: as, b :: bs => coincide a b && coincideItems as bs
  | _, _ => false

/-- Whether two sequences of members are the same. -/
def coincideMembers : List (Key × Json) → List (Key × Json) → Bool
  | [], [] => true
  | (k, a) :: as, (l, b) :: bs => decide (k = l) && coincide a b && coincideMembers as bs
  | _, _ => false

end

mutual

theorem coincide_iff : ∀ a b : Json, coincide a b = true ↔ a = b
  | .array a, b => by cases b <;> simp [coincide, coincideItems_iff a]
  | .object a, b => by cases b <;> simp [coincide, coincideMembers_iff a]
  | .null, b | .bool _, b | .int _, b | .float _, b | .text _, b | .brokenText _, b => by
    cases b <;> simp [coincide]

theorem coincideItems_iff : ∀ as bs : List Json, coincideItems as bs = true ↔ as = bs
  | [], bs => by cases bs <;> simp [coincideItems]
  | a :: as, bs => by cases bs <;> simp [coincideItems, coincide_iff a, coincideItems_iff as]

theorem coincideMembers_iff : ∀ as bs : List (Key × Json), coincideMembers as bs = true ↔ as = bs
  | [], bs => by cases bs <;> simp [coincideMembers]
  | (k, a) :: as, bs => by
    cases bs <;>
      simp [coincideMembers, coincide_iff a, coincideMembers_iff as, Prod.ext_iff, and_assoc]

end

instance : DecidableEq Json :=
  fun a b => decidable_of_iff _ (coincide_iff a b)

end Json

end NumericControl
