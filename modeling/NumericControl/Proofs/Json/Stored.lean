import NumericControl.Proofs.Json.Keys

/-!
# Stored values

Documents are made of values with distinct keys and finite numbers, and they are written with the
members of every object in the order of their keys.  Sorting the members changes no value: each key
has the value that it had, sorted in turn.

## Main definitions

* `Json.Same` : values that differ at most in the order of the members of objects, at any depth.
* `Json.IsStorable` : the values that documents are made of.

## Main results

* `Members.get?_perm` : members with distinct keys are known in any order.
* `Json.pairwise_sortedMembers`, `Json.sortedMembers_eq` : sorted members are in order, and no other
  arrangement is.
* `Json.WellKeyed.same_sortKeys` : a value with sorted keys is the same value.
* `Json.isStorable_object_iff` : an object is storable if the values of its keys are.
-/

namespace NumericControl

namespace Members

variable {key : Key} {value : Json} {m m' : Members}

theorem get?_eq_some_iff (hkeys : (m.map Prod.fst).Nodup) :
    get? key m = some value ↔ (key, value) ∈ m :=
  ⟨mem_of_get?, get?_of_mem hkeys⟩

/-- The order of members with distinct keys does not matter to their values. -/
theorem get?_perm (h : m.Perm m') (hkeys : (m.map Prod.fst).Nodup) (key : Key) :
    get? key m = get? key m' := by
  have hkeys' : (m'.map Prod.fst).Nodup := (h.map Prod.fst).nodup_iff.mp hkeys
  refine Option.ext fun value => ?_
  rw [get?_eq_some_iff hkeys, get?_eq_some_iff hkeys', h.mem_iff]

theorem get?_map_values (f : Json → Json) (key : Key) (m : Members) :
    get? key (m.map fun p => (p.1, f p.2)) = (get? key m).map f := by
  induction m with
  | nil => rfl
  | cons p rest ih =>
    rw [List.map_cons, get?_cons, get?_cons, ih]
    split <;> rfl

end Members

namespace RawText

theorem notAfter_total (a b : List Nat) : (notAfter a b || notAfter b a) = true := by
  induction a generalizing b with
  | nil => rfl
  | cons n a ih =>
    cases b with
    | nil => rfl
    | cons k b =>
      have htail := ih b
      simp only [notAfter, Bool.or_eq_true, Bool.and_eq_true, decide_eq_true_eq, beq_iff_eq]
        at htail ⊢
      grind

theorem notAfter_trans {a b c : List Nat} (hab : notAfter a b = true)
    (hbc : notAfter b c = true) : notAfter a c = true := by
  induction a generalizing b c with
  | nil => rfl
  | cons n a ih =>
    cases b with
    | nil => cases hab
    | cons k b =>
      cases c with
      | nil => cases hbc
      | cons l c =>
        have htail := @ih b c
        simp only [notAfter, Bool.or_eq_true, Bool.and_eq_true, decide_eq_true_eq, beq_iff_eq]
          at hab hbc htail ⊢
        grind

end RawText

namespace Json

/-- Values that differ at most in the order of the members of objects, at any depth. -/
inductive Same : Json → Json → Prop
  | null : Same .null .null
  | bool (b : Bool) : Same (.bool b) (.bool b)
  | int (n : Int) : Same (.int n) (.int n)
  | float (x : Float) : Same (.float x) (.float x)
  | text (s : String) : Same (.text s) (.text s)
  | brokenText (points : List Nat) : Same (.brokenText points) (.brokenText points)
  | array {items items' : List Json} (hitems : List.Forall₂ Same items items') :
      Same (.array items) (.array items')
  | object {m m' : Members} (hkeys : ∀ key, key ∈ m.map Prod.fst ↔ key ∈ m'.map Prod.fst)
      (hvalues : ∀ key v v', Members.get? key m = some v → Members.get? key m' = some v' →
        Same v v') :
      Same (.object m) (.object m')

theorem sortItems_eq_map (items : List Json) : sortItems items = items.map sortKeys := by
  induction items with
  | nil => rfl
  | cons item items ih => rw [sortItems, ih, List.map_cons]

theorem sortMembers_eq_map (members : Members) :
    sortMembers members = members.map fun p => (p.1, sortKeys p.2) := by
  induction members with
  | nil => rfl
  | cons p members ih =>
    obtain ⟨key, value⟩ := p
    rw [sortMembers, ih, List.map_cons]

/-- The members of an object in the order of their keys, each one with its members in order. -/
def sortedMembers (members : Members) : Members :=
  (sortMembers members).mergeSort fun a b => RawText.notAfter a.1.points b.1.points

theorem sortKeys_object (members : Members) :
    (object members).sortKeys = .object (sortedMembers members) := by
  rw [sortKeys, sortedMembers]

theorem sortedMembers_perm (members : Members) :
    (sortedMembers members).Perm (members.map fun p => (p.1, sortKeys p.2)) :=
  (List.mergeSort_perm _ _).trans (.of_eq (sortMembers_eq_map members))

theorem keys_sortedMembers_perm (members : Members) :
    ((sortedMembers members).map Prod.fst).Perm (members.map Prod.fst) := by
  refine ((sortedMembers_perm members).map Prod.fst).trans (.of_eq ?_)
  rw [List.map_map]
  rfl

/-- Each key has the value that it had, in order. -/
theorem get?_sortedMembers {members : Members} (hkeys : (members.map Prod.fst).Nodup) (key : Key) :
    Members.get? key (sortedMembers members) = (Members.get? key members).map sortKeys := by
  have hsorted := (keys_sortedMembers_perm members).nodup_iff.mpr hkeys
  rw [Members.get?_perm (sortedMembers_perm members) hsorted, Members.get?_map_values]

/-- The members are in the order of their keys. -/
theorem pairwise_sortedMembers (members : Members) :
    (sortedMembers members).Pairwise fun a b =>
      RawText.notAfter a.1.points b.1.points = true := by
  rw [sortedMembers]
  refine List.pairwise_mergeSort (fun a b c => ?_) (fun a b => ?_) (sortMembers members)
  · exact RawText.notAfter_trans
  · exact RawText.notAfter_total _ _

/-- Only one arrangement has every key before those that come after it. -/
theorem sortedMembers_eq {members sorted : Members}
    (hperm : sorted.Perm (members.map fun p => (p.1, sortKeys p.2)))
    (hsorted : sorted.Pairwise fun a b => RawText.notAfter b.1.points a.1.points = false) :
    sortedMembers members = sorted := by
  have hsame := (sortedMembers_perm members).trans hperm.symm
  refine List.Perm.eq_of_pairwise ?_ (pairwise_sortedMembers members) ?_ hsame
  · have hone : ∀ a ∈ sorted, ∀ b ∈ sorted, RawText.notAfter a.1.points b.1.points = true →
        RawText.notAfter b.1.points a.1.points = true → a = b :=
      List.Pairwise.forall_of_forall_of_flip (fun _ _ _ _ => rfl)
        (hsorted.imp fun hafter _ h => absurd h (by simp [hafter]))
        (hsorted.imp fun hafter h _ => absurd h (by simp [hafter]))
    exact fun a b ha hb => hone a (hsame.mem_iff.mp ha) b hb
  · refine hsorted.imp fun {a b} hafter => ?_
    simpa [hafter] using RawText.notAfter_total a.1.points b.1.points

/-- A value with sorted keys is the same value. -/
theorem WellKeyed.same_sortKeys {value : Json} (h : value.WellKeyed) :
    value.sortKeys.Same value := by
  induction h with
  | null => exact .null
  | bool b => exact .bool b
  | int n => exact .int n
  | float x => exact .float x
  | text s => exact .text s
  | brokenText points => exact .brokenText points
  | @array items _ ih =>
    rw [sortKeys, sortItems_eq_map]
    exact .array (List.forall₂_map_left_iff.mpr (List.forall₂_same.mpr ih))
  | @object members hkeys _ ih =>
    rw [sortKeys_object]
    refine .object (fun key => (keys_sortedMembers_perm members).mem_iff) ?_
    intro key v v' hv hv'
    rw [get?_sortedMembers hkeys, hv', Option.map_some] at hv
    cases hv
    exact ih _ (Members.mem_of_get? hv')

/-! ### Storable values -/

/-- A value all of whose objects have distinct keys and all of whose numbers are finite. -/
structure IsStorable (value : Json) : Prop where
  wellKeyed : value.WellKeyed
  finite : value.firstNotFinite? = none

theorem isStorable_ofRaw (s : RawText) : (ofRaw s).IsStorable where
  wellKeyed := by cases s <;> constructor
  finite := (isPlain_ofRaw s).firstNotFinite?_eq_none

theorem isStorable_array_iff {items : List Json} :
    (array items).IsStorable ↔ ∀ item ∈ items, item.IsStorable := by
  constructor
  · rintro ⟨hkeyed, hfinite⟩ item hitem
    cases hkeyed with
    | array hitems => exact ⟨hitems item hitem, firstNotFiniteItem?_eq_none.mp hfinite item hitem⟩
  · intro h
    exact ⟨.array fun item hitem => (h item hitem).wellKeyed,
      firstNotFiniteItem?_eq_none.mpr fun item hitem => (h item hitem).finite⟩

theorem isStorable_object_iff {m : Members} :
    (object m).IsStorable ↔
      (m.map Prod.fst).Nodup ∧ ∀ key value, Members.get? key m = some value → value.IsStorable := by
  constructor
  · rintro ⟨hkeyed, hfinite⟩
    refine ⟨hkeyed.nodup_keys, fun key value hget => ⟨hkeyed.of_get? hget, ?_⟩⟩
    exact firstNotFiniteMember?_eq_none.mp hfinite _ (Members.mem_of_get? hget)
  · rintro ⟨hkeys, hvalues⟩
    have hmembers (p : Key × Json) (hp : p ∈ m) : p.2.IsStorable :=
      hvalues p.1 p.2 (Members.get?_of_mem hkeys hp)
    exact ⟨.object hkeys fun p hp => (hmembers p hp).wellKeyed,
      firstNotFiniteMember?_eq_none.mpr fun p hp => (hmembers p hp).finite⟩

theorem isStorable_empty : (object []).IsStorable :=
  isStorable_object_iff.mpr ⟨List.nodup_nil, nofun⟩

namespace IsStorable

variable {m : Members} {value : Json}

theorem of_get? (h : (object m).IsStorable) {key : Key} (hget : Members.get? key m = some value) :
    value.IsStorable :=
  (isStorable_object_iff.mp h).2 key value hget

theorem insert (h : (object m).IsStorable) (key : Key) (hvalue : value.IsStorable) :
    (object (Members.insert key value m)).IsStorable := by
  obtain ⟨hkeys, hvalues⟩ := isStorable_object_iff.mp h
  refine isStorable_object_iff.mpr ⟨Members.nodup_keys_insert key value hkeys, ?_⟩
  intro other found hget
  rw [Members.get?_insert] at hget
  split at hget
  · cases hget
    exact hvalue
  · exact hvalues other found hget

end IsStorable

end Json

end NumericControl
