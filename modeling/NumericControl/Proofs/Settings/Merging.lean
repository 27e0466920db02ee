import NumericControl.Proofs.Json.Keys
import NumericControl.Settings.Basic

/-!
# Values laid over others

Two objects are merged key by key, and where both have a section under a key the sections are merged
in turn.  So a merged object has the keys of both, the order of the first one in front; what it has
at a path is told by the given object wherever that reaches a value, and by the base wherever the
given object has nothing to say.  Merging again with either object changes nothing.

## Main results

* `Members.get?_merge`, `Members.keys_merge` : the values and the keys of a merged object.
* `Json.WellKeyed.mergeValue_self`, `mergeValue_over`, `mergeValue_again` : merging is stable at
  every depth.
* `Json.follow?_merge_given`, `Json.follow?_merge_base` : which of the two objects tells what a path
  leads to.
* `merge_lawful` : the laws of merging.
-/

namespace NumericControl

/-- A value that is no object takes the place of the one under it. -/
theorem mergeValue_of_ne {value : Json} (h : ∀ members, value ≠ .object members)
    (base : Option Json) : mergeValue base value = value := by
  cases value with
  | object members => exact absurd rfl (h members)
  | _ => simp [mergeValue]

/-- An object over an object is merged with it. -/
theorem mergeValue_objects (base given : Members) :
    mergeValue (some (.object base)) (.object given) = .object (merge base given) := by
  rw [mergeValue, merge]

/-- An object over anything else takes its place. -/
theorem mergeValue_object_of_ne {base : Option Json} (h : ∀ members, base ≠ some (.object members))
    (given : Members) : mergeValue base (.object given) = .object given := by
  rw [mergeValue]
  exact h

namespace Members

variable {base given : Members}

theorem merge_cons (base : Members) (p : Key × Json) (given : Members) :
    merge base (p :: given) = merge (insert p.1 (mergeValue (get? p.1 base) p.2) base) given := by
  obtain ⟨key, value⟩ := p
  rw [merge, mergeMembers, merge]

/-- The value of a key is that of the given object laid over that of the base. -/
theorem get?_merge (hgiven : (given.map Prod.fst).Nodup) (key : Key) :
    get? key (merge base given) =
      ((get? key given).map (mergeValue (get? key base))).or (get? key base) := by
  induction given generalizing base with
  | nil => simp [merge, mergeMembers, get?]
  | cons p rest ih =>
    obtain ⟨hfirst, hrest⟩ := List.nodup_cons.mp hgiven
    rw [merge_cons, ih hrest, get?_insert, get?_cons]
    by_cases hkey : key = p.1
    · subst hkey
      simp [get?_eq_none_iff.mpr hfirst]
    · simp [hkey, Ne.symm hkey]

/-- The keys of the base come first, and then the other keys of the given object. -/
theorem keys_merge (hgiven : (given.map Prod.fst).Nodup) :
    (merge base given).map Prod.fst =
      base.map Prod.fst ++ (given.map Prod.fst).filter (· ∉ base.map Prod.fst) := by
  induction given generalizing base with
  | nil => simp [merge, mergeMembers]
  | cons p rest ih =>
    obtain ⟨hfirst, hrest⟩ := List.nodup_cons.mp hgiven
    rw [merge_cons, ih hrest, keys_insert, List.map_cons]
    by_cases hkey : p.1 ∈ base.map Prod.fst
    · rw [if_pos hkey, List.filter_cons_of_neg (by simpa using hkey)]
    · have hothers : (rest.map Prod.fst).filter (· ∉ base.map Prod.fst ++ [p.1]) =
          (rest.map Prod.fst).filter (· ∉ base.map Prod.fst) := by
        refine List.filter_congr fun other hother => ?_
        have hne : other ≠ p.1 := fun h => hfirst (h ▸ hother)
        simp [hne]
      rw [if_neg hkey, hothers, List.filter_cons_of_pos (by simpa using hkey), List.append_assoc]
      rfl

theorem mem_keys_merge (hgiven : (given.map Prod.fst).Nodup) (key : Key) :
    key ∈ (merge base given).map Prod.fst ↔
      key ∈ base.map Prod.fst ∨ key ∈ given.map Prod.fst := by
  rw [keys_merge hgiven]
  by_cases h : key ∈ base.map Prod.fst <;> simp [h]

theorem nodup_keys_merge (hbase : (base.map Prod.fst).Nodup)
    (hgiven : (given.map Prod.fst).Nodup) : ((merge base given).map Prod.fst).Nodup := by
  rw [keys_merge hgiven]
  refine List.nodup_append.mpr ⟨hbase, hgiven.filter _, ?_⟩
  rintro key hkey _ hother rfl
  exact (by simpa using (List.mem_filter.mp hother).2 : key ∉ base.map Prod.fst) hkey

/-- Members that are given what they have stay the same. -/
theorem merge_eq_self (hbase : (base.map Prod.fst).Nodup) (hgiven : (given.map Prod.fst).Nodup)
    (hkeys : ∀ key ∈ given.map Prod.fst, key ∈ base.map Prod.fst)
    (hvalues : ∀ key value, get? key given = some value →
      get? key base = some (mergeValue (get? key base) value)) : merge base given = base := by
  have hnone : (given.map Prod.fst).filter (· ∉ base.map Prod.fst) = [] := by
    simpa [List.filter_eq_nil_iff] using hkeys
  have hsame : (merge base given).map Prod.fst = base.map Prod.fst := by
    rw [keys_merge hgiven, hnone, List.append_nil]
  refine ext_get? hsame (hsame ▸ hbase) fun key => ?_
  rw [get?_merge hgiven]
  cases hvalue : get? key given with
  | none => rfl
  | some value => exact (hvalues key value hvalue).symm

end Members

namespace Json

variable {base given : Members}

/-! ### Stability -/

/-- Nothing changes when a value is laid over itself. -/
theorem WellKeyed.mergeValue_self {value : Json} (h : value.WellKeyed) :
    mergeValue (some value) value = value := by
  induction h with
  | @object members hkeys _ ih =>
    have hself : merge members members = members := by
      refine Members.merge_eq_self hkeys hkeys (fun _ => id) fun key value hvalue => ?_
      rw [hvalue, ih _ (Members.mem_of_get? hvalue)]
    rw [mergeValue_objects, hself]
  | _ => simp [mergeValue]

/-- Nothing changes when the outcome of a merge is laid over the base once more. -/
theorem WellKeyed.mergeValue_over {value : Json} (h : value.WellKeyed) {base : Option Json}
    (hbase : ∀ under ∈ base, under.WellKeyed) :
    mergeValue base (mergeValue base value) = mergeValue base value := by
  induction h generalizing base with
  | @object given hgiven _ ih =>
    by_cases hobject : ∃ members, base = some (.object members)
    · obtain ⟨members, rfl⟩ := hobject
      have hunder : (Json.object members).WellKeyed := hbase _ rfl
      have hmerged := Members.nodup_keys_merge hunder.nodup_keys hgiven
      have hover : merge members (merge members given) = merge members given := by
        refine Members.ext_get? ?_ (Members.nodup_keys_merge hunder.nodup_keys hmerged) ?_
        · rw [Members.keys_merge hmerged, Members.keys_merge hgiven, List.filter_append]
          simp
        · intro key
          rw [Members.get?_merge hmerged, Members.get?_merge hgiven]
          cases hvalue : Members.get? key given with
          | some value =>
            have hinner : ∀ under ∈ Members.get? key members, under.WellKeyed :=
              fun under hget => hunder.of_get? hget
            simp [ih _ (Members.mem_of_get? hvalue) hinner]
          | none =>
            cases hkept : Members.get? key members with
            | none => rfl
            | some under => simp [(hunder.of_get? hkept).mergeValue_self]
      rw [mergeValue_objects, mergeValue_objects, hover]
    · have hne : ∀ members, base ≠ some (.object members) := not_exists.mp hobject
      rw [mergeValue_object_of_ne hne, mergeValue_object_of_ne hne]
  | _ => simp [mergeValue]

/-- Nothing changes when a value is laid over the outcome of a merge with it. -/
theorem WellKeyed.mergeValue_again {value : Json} (h : value.WellKeyed) {base : Option Json}
    (hbase : ∀ under ∈ base, under.WellKeyed) :
    mergeValue (some (mergeValue base value)) value = mergeValue base value := by
  induction h generalizing base with
  | @object given hgiven hvalues ih =>
    by_cases hobject : ∃ members, base = some (.object members)
    · obtain ⟨members, rfl⟩ := hobject
      have hunder : (Json.object members).WellKeyed := hbase _ rfl
      have hagain : merge (merge members given) given = merge members given := by
        have hkeys := Members.nodup_keys_merge hunder.nodup_keys hgiven
        refine Members.merge_eq_self hkeys hgiven ?_ ?_
        · exact fun key hkey => (Members.mem_keys_merge hgiven key).mpr (.inr hkey)
        · intro key value hvalue
          have hinner : ∀ under ∈ Members.get? key members, under.WellKeyed :=
            fun under hget => hunder.of_get? hget
          simp [Members.get?_merge hgiven, hvalue, ih _ (Members.mem_of_get? hvalue) hinner]
      rw [mergeValue_objects, mergeValue_objects, hagain]
    · rw [mergeValue_object_of_ne (not_exists.mp hobject)]
      exact (WellKeyed.object hgiven hvalues).mergeValue_self
  | _ => simp [mergeValue]

/-! ### Paths -/

/-- Where the given value leads to something that is no object, so does the merged one. -/
theorem WellKeyed.follow?_mergeValue {given : Json} (h : given.WellKeyed) (base : Option Json)
    {path : List Key} {value : Json} (hpath : given.follow? path = some value)
    (hvalue : ∀ members, value ≠ .object members) :
    (mergeValue base given).follow? path = some value := by
  induction path generalizing given base with
  | nil =>
    obtain rfl : given = value := Option.some.inj hpath
    rw [mergeValue_of_ne hvalue]
    rfl
  | cons part parts ih =>
    cases given with
    | object members =>
      by_cases hobject : ∃ under, base = some (.object under)
      · obtain ⟨under, rfl⟩ := hobject
        cases hget : Members.get? part members with
        | none => simp [follow?, member?, hget] at hpath
        | some inner =>
          have hinner : inner.follow? parts = some value := by
            simpa [follow?, member?, hget] using hpath
          have hmerged := ih (h.of_get? hget) (Members.get? part under) hinner
          rw [mergeValue_objects]
          simpa [follow?, member?, Members.get?_merge h.nodup_keys, hget] using hmerged
      · rw [mergeValue_object_of_ne (not_exists.mp hobject)]
        exact hpath
    | _ => simp [follow?, member?] at hpath

theorem follow?_merge_given (hgiven : (Json.object given).WellKeyed) {path : List Key}
    {value : Json} (hpath : (Json.object given).follow? path = some value)
    (hvalue : ∀ members, value ≠ .object members) :
    (Json.object (merge base given)).follow? path = some value := by
  rw [← mergeValue_objects]
  exact hgiven.follow?_mergeValue _ hpath hvalue

/-- Where the given object has a section without the next part of a path, the base tells what the
path leads to. -/
theorem follow?_merge_base (hgiven : (Json.object given).WellKeyed) {before after : List Key}
    {part : Key} {members : Members}
    (hbefore : (Json.object given).follow? before = some (.object members))
    (hpart : Members.get? part members = none) {value : Json}
    (hbase : (Json.object base).follow? (before ++ part :: after) = some value) :
    (Json.object (merge base given)).follow? (before ++ part :: after) = some value := by
  induction before generalizing base given with
  | nil =>
    obtain rfl : given = members := by simpa [follow?] using hbefore
    simpa [follow?, member?, Members.get?_merge hgiven.nodup_keys, hpart] using hbase
  | cons first rest ih =>
    cases hlower : Members.get? first base with
    | none => simp [follow?, member?, hlower] at hbase
    | some lower =>
      cases hupper : Members.get? first given with
      | none => simp [follow?, member?, hupper] at hbefore
      | some upper =>
        have hupper' : upper.follow? rest = some (.object members) := by
          simpa [follow?, member?, hupper] using hbefore
        have hlower' : lower.follow? (rest ++ part :: after) = some value := by
          simpa [follow?, member?, hlower] using hbase
        -- both lead on, so both are sections and are merged
        obtain ⟨upperMembers, rfl⟩ : ∃ upperMembers, upper = .object upperMembers := by
          cases upper with
          | object upperMembers => exact ⟨upperMembers, rfl⟩
          | _ => cases rest <;> simp [follow?, member?] at hupper'
        obtain ⟨lowerMembers, rfl⟩ : ∃ lowerMembers, lower = .object lowerMembers := by
          cases lower with
          | object lowerMembers => exact ⟨lowerMembers, rfl⟩
          | _ => cases rest <;> simp [follow?, member?] at hlower'
        have hmerged := ih (hgiven.of_get? hupper) hupper' hlower'
        simpa [follow?, member?, Members.get?_merge hgiven.nodup_keys, hlower, hupper,
          mergeValue_objects] using hmerged

end Json

/-! ### The laws -/

variable {base given : Members}

/-- **Laying settings over others.** At every path at which the given object has a value that is no
section, so has the merged one; where a section of the given object lacks the next part of a path,
what the base has there is kept; the keys are those of both; and merging once more with the base,
with the given object, or of an object with itself, changes nothing. -/
theorem merge_lawful (hbase : (Json.object base).WellKeyed)
    (hgiven : (Json.object given).WellKeyed) :
    (∀ path value, (Json.object given).follow? path = some value →
      (∀ members, value ≠ .object members) →
        (Json.object (merge base given)).follow? path = some value) ∧
    (∀ before part after members value,
      (Json.object given).follow? before = some (.object members) →
      Members.get? part members = none →
      (Json.object base).follow? (before ++ part :: after) = some value →
        (Json.object (merge base given)).follow? (before ++ part :: after) = some value) ∧
    (∀ key, key ∈ (merge base given).map Prod.fst ↔
      key ∈ base.map Prod.fst ∨ key ∈ given.map Prod.fst) ∧
    merge base (merge base given) = merge base given ∧
    merge (merge base given) given = merge base given ∧
    merge base base = base := by
  have hunder : ∀ under ∈ some (Json.object base), under.WellKeyed := by simpa using hbase
  have hover := hgiven.mergeValue_over hunder
  have hagain := hgiven.mergeValue_again hunder
  have hself := hbase.mergeValue_self
  simp only [mergeValue_objects, Json.object.injEq] at hover hagain hself
  refine ⟨fun path value hpath hvalue => Json.follow?_merge_given hgiven hpath hvalue, ?_,
    Members.mem_keys_merge hgiven.nodup_keys, hover, hagain, hself⟩
  intro before part after members value hbefore hpart hvalue
  exact Json.follow?_merge_base hgiven hbefore hpart hvalue

/-- Sections on both sides, a value in the place of a section and a section in that of a value. -/
def nestedBase : Members :=
  [("ui", .object [("theme", .text "light"), ("size", .int 2)]), ("axis_count", .int 3),
    ("view", .object [("grid", .bool true)])]

/-- The settings that are laid over `nestedBase`. -/
def nestedGiven : Members :=
  [("view", .null), ("ui", .object [("theme", .text "dark"), ("zoom", .float 1.5)]),
    ("axis_count", .object [("mill", .int 4)]), ("custom", .array [.int 1])]

theorem merge_lawful_nested :
    (Json.object nestedBase).WellKeyed ∧ (Json.object nestedGiven).WellKeyed ∧
      (Json.object nestedGiven).follow? ["ui", "theme"] = some (.text "dark") ∧
      (Json.object (merge nestedBase nestedGiven)).follow? ["ui", "theme"] = some (.text "dark") ∧
      (Json.object (merge nestedBase nestedGiven)).follow? ["ui", "size"] = some (.int 2) ∧
      merge nestedBase (merge nestedBase nestedGiven) = merge nestedBase nestedGiven := by
  have hbase : (Json.object nestedBase).WellKeyed := by
    refine .object (by decide) ?_
    simp only [nestedBase, List.forall_mem_cons, List.not_mem_nil]
    refine ⟨.object (by decide) ?_, .int 3, .object (by decide) ?_, nofun⟩
    · simpa using ⟨.text _, .int _⟩
    · simpa using .bool _
  have hgiven : (Json.object nestedGiven).WellKeyed := by
    refine .object (by decide) ?_
    simp only [nestedGiven, List.forall_mem_cons, List.not_mem_nil]
    refine ⟨.null, .object (by decide) ?_, .object (by decide) ?_, .array ?_, nofun⟩
    · simpa using ⟨.text _, .float _⟩
    · simpa using .int _
    · simpa using .int _
  obtain ⟨hover, hkept, -, hstable, -⟩ := merge_lawful hbase hgiven
  have htheme : (Json.object nestedGiven).follow? ["ui", "theme"] = some (.text "dark") := rfl
  exact ⟨hbase, hgiven, htheme, hover _ _ htheme nofun,
    hkept ["ui"] "size" [] _ _ rfl rfl rfl, hstable⟩

end NumericControl
