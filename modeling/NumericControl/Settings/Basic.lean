import NumericControl.Json.Basic

/-!
# Settings

Settings are a document object with nested sections.  A dotted key names a value in a section.
Values from a file are laid over the defaults section by section, and keys without a default are
kept.

## Main definitions

* `Settings` : where the settings are kept, and their values.
* `Settings.defaults` : the values that hold without a file.
* `merge` : values laid over others; `merged?` lays them over a copy.
* `Settings.get?`, `Settings.set` : a value by its dotted key.
-/

namespace NumericControl

/-- Settings and the path of the file they are kept in. -/
structure Settings where
  path : String
  data : Members

/-- The values that hold where a file gives none. -/
def Settings.defaults : Members :=
  [("dialect", .text "extended"),
    ("axis_count", .int 3),
    ("ignore_m6", .text "execute"),
    ("ignore_m7", .text "execute"),
    ("ignore_m8", .text "execute"),
    ("arc_resolution", .int 32),
    ("continue_on_error", .bool false),
    ("last_gcode_dir", .text ""),
    ("max_recent_files", .int 10),
    ("recent_files", .array [])]

mutual

/-- A value laid over another one: only two sections are merged. -/
def mergeValue (base : Option Json) : Json → Json
  | .object given =>
    match base with
    | some (.object members) => .object (mergeMembers members given)
    | _ => .object given
  | value => value

/-- Members laid over others, key by key. -/
def mergeMembers (base : Members) : List (Key × Json) → Members
  | [] => base
  | (key, value) :: rest =>
    mergeMembers (Members.insert key (mergeValue (Members.get? key base) value) base) rest

end

/-- Settings laid over others. -/
def merge (base given : Members) : Members :=
  mergeMembers base given

/-- Values are copied if they are nested at most so deep. -/
def copyLimit : Nat := 496

/-- Whether a value can be copied. -/
def Json.isCopyable (value : Json) : Bool :=
  decide (value.depth ≤ copyLimit)

/-- Settings laid over a copy of others, unless those are nested too deeply to be copied. -/
def merged? (base given : Members) : Option Members :=
  if (Json.object base).isCopyable then some (merge base given) else none

/-- The value that parts of a key lead to. -/
def Json.follow? : List Key → Json → Option Json
  | [], value => some value
  | part :: parts, value =>
    match value.member? part with
    | some inner => inner.follow? parts
    | none => none

/-- The members of a section; a value that is no section has none. -/
def Json.sectionMembers : Option Json → Members
  | some (.object members) => members
  | _ => []

/-- Members with a value for the parts of a key.  What stands in the way of a section gives way
to it. -/
def Members.setAt (value : Json) : List Key → Members → Members
  | [], members => members
  | [leaf], members => insert leaf value members
  | part :: parts, members =>
    insert part (.object (setAt value parts (Json.sectionMembers (get? part members)))) members

namespace Settings

/-- New settings for a path. -/
def new (path : String) : Settings := ⟨path, defaults⟩

/-- The value of a dotted key. -/
def get? (s : Settings) (key : Key) : Option Json :=
  (Json.object s.data).follow? key.dottedParts

/-- The settings with a value for a dotted key. -/
def set (s : Settings) (key : Key) (value : Json) : Settings :=
  { s with data := s.data.setAt value key.dottedParts }

/-- The value of a key that is taken as it stands, points included. -/
def item? (s : Settings) (key : Key) : Option Json :=
  s.data.get? key

/-- The settings with a value for a key that is taken as it stands. -/
def setItem (s : Settings) (key : Key) (value : Json) : Settings :=
  { s with data := s.data.insert key value }

/-- The value of a key that is taken as it stands, or the empty value. -/
def value (s : Settings) (key : Key) : Json :=
  (s.item? key).getD .null

/-- The settings with the values that hold without a file. -/
def reset (s : Settings) : Settings :=
  { s with data := defaults }

end Settings

end NumericControl
