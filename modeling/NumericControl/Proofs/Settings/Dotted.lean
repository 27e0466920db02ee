import NumericControl.Proofs.Json.Keys
import NumericControl.Proofs.Text.Splitting
import NumericControl.Settings.Basic

/-!
# Values by dotted keys

A dotted key leads through sections to a value, and setting one makes the sections that it needs.
Two keys lead apart if neither sequence of parts starts with the other one; then what is set for one
is not seen by the other, also where a section took the place of a plain value on the way.

## Main definitions

* `Key.LeadsApart` : keys that part ways.

## Main results

* `Members.follow?_setAt` : the value that was set is found.
* `Members.follow?_setAt_of_apart` : what is found on a path that leads elsewhere stays the same.
* `Members.setAt_setAt` : only the last value that is set counts.
* `Settings.set_lawful` : the laws of dotted keys.
-/

namespace NumericControl

theorem RawText.partsBetween_ne_nil (mark : Nat) (points : List Nat) :
    partsBetween mark points ≠ [] := by
  cases points with
  | nil => exact List.cons_ne_nil _ _
  | cons n rest =>
    rw [partsBetween]
    split
    · split <;> exact List.cons_ne_nil _ _
    · exact List.cons_ne_nil _ _

/-- Every key has a part, the empty one too. -/
theorem RawText.dottedParts_ne_nil (key : Key) : key.dottedParts ≠ [] := by
  cases key with
  | text s =>
    have h : s.splitOn "." ≠ [] := Text.splitOn_ne_nil s '.'
    simpa [dottedParts] using h
  | broken points => simpa [dottedParts] using partsBetween_ne_nil _ points

theorem RawText.dottedParts_text (s : String) :
    (text s).dottedParts = (s.toList.splitOn '.').map fun cs => text (String.ofList cs) := by
  have h : s.splitOn "." = (s.toList.splitOn '.').map String.ofList := Text.splitOn_eq s '.'
  rw [dottedParts, h, List.map_map]
  rfl

/-- Neither of two keys leads on from the value of the other one. -/
def Key.LeadsApart (key other : Key) : Prop :=
  ¬key.dottedParts <+: other.dottedParts ∧ ¬other.dottedParts <+: key.dottedParts

/-! ### Paths in objects -/

namespace Json

@[simp]
theorem follow?_nil (value : Json) : value.follow? [] = some value :=
  rfl

theorem follow?_object_cons (part : Key) (parts : List Key) (members : Members) :
    (object members).follow? (part :: parts) =
      (Members.get? part members).bind fun inner => inner.follow? parts := by
  rw [follow?, member?]
  cases Members.get? part members <;> rfl

/-- No path leads into an object without members. -/
theorem follow?_empty {parts : List Key} (h : parts ≠ []) : (object []).follow? parts = none := by
  cases parts with
  | nil => contradiction
  | cons part parts => rw [follow?_object_cons, Members.get?, Option.bind_none]

/-- A path that leads on from a value leads on in its section, if it is one. -/
theorem follow?_sectionMembers (found : Option Json) {parts : List Key} (h : parts ≠ []) :
    (object (sectionMembers found)).follow? parts =
      found.bind fun value => value.follow? parts := by
  cases parts with
  | nil => contradiction
  | cons part parts =>
    cases found with
    | none => exact follow?_empty h
    | some value =>
      cases value with
      | object members => rfl
      | _ => exact follow?_empty h

end Json

namespace Members

variable {members : Members} {value : Json} {path other : List Key}

theorem insert_insert (key : Key) (value next : Json) (m : Members) :
    insert key next (insert key value m) = insert key next m := by
  induction m with
  | nil => simp [insert]
  | cons p rest ih =>
    obtain ⟨k, v⟩ := p
    by_cases h : k = key <;> simp [insert, h, ih]

theorem setAt_cons (value : Json) (part : Key) {parts : List Key} (h : parts ≠ [])
    (members : Members) :
    setAt value (part :: parts) members =
      insert part (.object (setAt value parts (Json.sectionMembers (get? part members))))
        members := by
  cases parts with
  | nil => contradiction
  | cons next parts => rfl

/-- A path leads to the value that was set for it. -/
theorem follow?_setAt (h : path ≠ []) (value : Json) (members : Members) :
    (Json.object (setAt value path members)).follow? path = some value := by
  induction path generalizing members with
  | nil => contradiction
  | cons part parts ih =>
    rw [Json.follow?_object_cons]
    by_cases hlast : parts = []
    · subst hlast
      rw [setAt, get?_insert_self, Option.bind_some, Json.follow?_nil]
    · rw [setAt_cons value part hlast, get?_insert_self, Option.bind_some, ih hlast]

/-- A path that leads apart leads where it led before.  On a common part both go on in one section,
which is new and empty if something else stood there; the other path led nowhere then. -/
theorem follow?_setAt_of_apart (hpath : ¬path <+: other) (hother : ¬other <+: path)
    (value : Json) (members : Members) :
    (Json.object (setAt value path members)).follow? other =
      (Json.object members).follow? other := by
  induction path generalizing other members with
  | nil => exact absurd List.nil_prefix hpath
  | cons part parts ih =>
    cases other with
    | nil => exact absurd List.nil_prefix hother
    | cons first rest =>
      rw [Json.follow?_object_cons, Json.follow?_object_cons]
      by_cases hlast : parts = []
      · subst hlast
        have hne : first ≠ part := by
          rintro rfl
          exact hpath (List.prefix_append [first] rest)
        rw [setAt, get?_insert_of_ne hne]
      · rw [setAt_cons value part hlast, get?_insert]
        split
        · next hfirst =>
          subst hfirst
          rw [List.cons_prefix_cons] at hpath hother
          have hparts : ¬parts <+: rest := fun h => hpath ⟨rfl, h⟩
          have hrest : ¬rest <+: parts := fun h => hother ⟨rfl, h⟩
          have hne : rest ≠ [] := by
            rintro rfl
            exact hrest List.nil_prefix
          rw [Option.bind_some, ih hparts hrest, Json.follow?_sectionMembers _ hne]
        · rfl

/-- Of two values that are set for one path the last one counts. -/
theorem setAt_setAt (path : List Key) (value next : Json) (members : Members) :
    setAt next path (setAt value path members) = setAt next path members := by
  induction path generalizing members with
  | nil => rfl
  | cons part parts ih =>
    by_cases hlast : parts = []
    · subst hlast
      exact insert_insert part value next members
    · rw [setAt_cons value part hlast, setAt_cons next part hlast, setAt_cons next part hlast,
        get?_insert_self, Json.sectionMembers, ih, insert_insert]

end Members

/-! ### The laws -/

namespace Settings

/-- **Dotted keys.** The value that is set for a key is found by it; a key that leads apart finds
what it found before, whatever stands in for a missing value; and of two values that are set for one
key only the last one leaves a trace. -/
theorem set_lawful (s : Settings) (key : Key) (value : Json) :
    (s.set key value).get? key = some value ∧
      (∀ other default, key.LeadsApart other →
        ((s.set key value).get? other).getD default = (s.get? other).getD default) ∧
      ∀ next, (s.set key value).set key next = s.set key next := by
  refine ⟨Members.follow?_setAt key.dottedParts_ne_nil value s.data, ?_, fun next => ?_⟩
  · rintro other default ⟨hkey, hother⟩
    exact congrArg (·.getD default) (Members.follow?_setAt_of_apart hkey hother value s.data)
  · exact congrArg (Settings.mk s.path) (Members.setAt_setAt key.dottedParts value next s.data)

/-- Settings with a plain value where the keys of a section lead. -/
def plainTheme : Settings :=
  ⟨"settings.json", [("ui", .text "plain"), ("axis_count", .int 4)]⟩

theorem set_lawful_throughPlainValue :
    Key.LeadsApart "ui.theme.name" "ui.theme.size" ∧
      ((plainTheme.set "ui.theme.name" (.text "dark")).get? "ui.theme.size").getD (.int 7) =
        .int 7 ∧
      (plainTheme.set "ui.theme.name" (.text "dark")).get? "ui.theme.name" =
        some (.text "dark") := by
  have hapart : Key.LeadsApart "ui.theme.name" "ui.theme.size" := by
    simp only [Key.LeadsApart, RawText.dottedParts_text]
    decide
  have hmissing : plainTheme.get? "ui.theme.size" = none := by
    simp only [get?, RawText.dottedParts_text]
    decide
  obtain ⟨hfound, hkept, -⟩ := set_lawful plainTheme "ui.theme.name" (.text "dark")
  refine ⟨hapart, ?_, hfound⟩
  rw [hkept _ _ hapart, hmissing, Option.getD_none]

end Settings

end NumericControl
