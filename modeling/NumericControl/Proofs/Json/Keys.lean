import NumericControl.Proofs.Json.Plain

/-!
# Objects with distinct keys

Members are kept in the order in which their keys first came, and an object has no key twice.  With
distinct keys the members are known by the order of their keys and by the value of each key.

## Main definitions

* `Json.WellKeyed` : all objects in a value have distinct keys.

## Main results

* `Members.get?_insert`, `Members.keys_insert` : what an insertion does to the values and the keys.
* `Members.ext_get?` : members with the same keys in the same order and the same values are the
  same.
* `Json.WellKeyed.ofPairs` : an object made of pairs has distinct keys, whatever those of the pairs.
-/

namespace NumericControl

namespace Members

variable {key other : Key} {value : Json} {m m' : Members}

theorem get?_insert (key other : Key) (value : Json) (m : Members) :
    get? other (insert key value m) = if other = key then some value else get? other m := by
  split
  · next h => rw [h, get?_insert_self]
  · next h => exact get?_insert_of_ne h value m

theorem get?_cons (p : Key × Json) (m : Members) :
    get? key (p :: m) = if p.1 = key then some p.2 else get? key m :=
  rfl

theorem get?_eq_none_iff : get? key m = none ↔ key ∉ m.map Prod.fst := by
  induction m with
  | nil => simp [get?]
  | cons p rest ih =>
    rw [get?_cons, List.map_cons, List.mem_cons, not_or, ← ih]
    split
    · next h => simp [h]
    · next h => simp [Ne.symm h]

theorem mem_of_get? (h : get? key m = some value) : (key, value) ∈ m := by
  induction m with
  | nil => simp [get?] at h
  | cons p rest ih =>
    rw [get?_cons] at h
    split at h
    · next hkey =>
      cases h
      exact hkey ▸ List.mem_cons_self
    · exact List.mem_cons_of_mem p (ih h)

/-- A new key comes last, and a key that is there stays where it is. -/
theorem keys_insert (key : Key) (value : Json) (m : Members) :
    (insert key value m).map Prod.fst =
      if key ∈ m.map Prod.fst then m.map Prod.fst else m.map Prod.fst ++ [key] := by
  induction m with
  | nil => rfl
  | cons p rest ih =>
    rw [insert, List.map_cons]
    by_cases hkey : p.1 = key
    · simp [hkey]
    · have hmem : key ∈ p.1 :: rest.map Prod.fst ↔ key ∈ rest.map Prod.fst := by
        simp [Ne.symm hkey]
      rw [if_neg hkey, List.map_cons, ih]
      simp only [hmem]
      split <;> rfl

theorem nodup_keys_insert (key : Key) (value : Json) (hkeys : (m.map Prod.fst).Nodup) :
    ((insert key value m).map Prod.fst).Nodup := by
  rw [keys_insert]
  split
  · exact hkeys
  · next h => exact List.nodup_append.mpr ⟨hkeys, List.nodup_singleton key, by grind⟩

/-- Members are known by the order of their keys and the value of each key. -/
theorem ext_get? (hkeys : m.map Prod.fst = m'.map Prod.fst) (hnodup : (m.map Prod.fst).Nodup)
    (hvalues : ∀ key, get? key m = get? key m') : m = m' := by
  induction m generalizing m' with
  | nil => exact (List.map_eq_nil_iff.mp hkeys.symm).symm
  | cons p rest ih =>
    cases m' with
    | nil => simp at hkeys
    | cons p' rest' =>
      obtain ⟨key, value⟩ := p
      obtain ⟨key', value'⟩ := p'
      rw [List.map_cons, List.map_cons, List.cons.injEq] at hkeys
      obtain ⟨rfl, hrest⟩ := hkeys
      obtain ⟨hfirst, hnodup⟩ := List.nodup_cons.mp hnodup
      have hvalue : value = value' := by simpa [get?] using hvalues key
      have hothers : rest = rest' := by
        refine ih hrest hnodup fun other => ?_
        by_cases h : key = other
        · subst h
          rw [get?_eq_none_iff.mpr hfirst, get?_eq_none_iff.mpr (hrest ▸ hfirst)]
        · simpa [get?, h] using hvalues other
      rw [hvalue, hothers]

end Members

namespace Json

/-- A value all of whose objects, at any depth, have distinct keys. -/
inductive WellKeyed : Json → Prop
  | null : WellKeyed .null
  | bool (b : Bool) : WellKeyed (.bool b)
  | int (n : Int) : WellKeyed (.int n)
  | float (x : Float) : WellKeyed (.float x)
  | text (s : String) : WellKeyed (.text s)
  | brokenText (points : List Nat) : WellKeyed (.brokenText points)
  | array {items : List Json} (hitems : ∀ item ∈ items, WellKeyed item) : WellKeyed (.array items)
  | object {members : Members} (hkeys : (members.map Prod.fst).Nodup)
      (hvalues : ∀ p ∈ members, WellKeyed p.2) : WellKeyed (.object members)

variable {members : Members}

theorem WellKeyed.nodup_keys (h : (Json.object members).WellKeyed) :
    (members.map Prod.fst).Nodup := by
  cases h with
  | object hkeys _ => exact hkeys

/-- The values in an object are like the object. -/
theorem WellKeyed.of_get? (h : (Json.object members).WellKeyed) {key : Key} {value : Json}
    (hget : Members.get? key members = some value) : value.WellKeyed := by
  cases h with
  | object _ hvalues => exact hvalues _ (Members.mem_of_get? hget)

/-- A member that is given a value of this kind leaves an object of this kind. -/
theorem WellKeyed.insert (h : (Json.object members).WellKeyed) (key : Key) {value : Json}
    (hvalue : value.WellKeyed) : (Json.object (Members.insert key value members)).WellKeyed := by
  have hkeys := Members.nodup_keys_insert key value h.nodup_keys
  refine .object hkeys fun p hp => ?_
  have hget := Members.get?_of_mem hkeys hp
  rw [Members.get?_insert] at hget
  split at hget
  · cases hget
    exact hvalue
  · exact h.of_get? hget

/-- An object made of values of this kind is of this kind, whatever its keys. -/
theorem WellKeyed.ofPairs {pairs : List (Key × Json)} (h : ∀ p ∈ pairs, p.2.WellKeyed) :
    (Json.object (Members.ofPairs pairs)).WellKeyed :=
  List.foldlRecOn (motive := fun members => (Json.object members).WellKeyed) pairs _
    (.object List.nodup_nil (List.forall_mem_nil _))
    fun _ hmembers p hp => hmembers.insert p.1 (h p hp)

end Json

end NumericControl
