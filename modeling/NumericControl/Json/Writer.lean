import NumericControl.Json.Basic
import NumericControl.Number.Shortest
import NumericControl.Text.Quoted

/-!
# Writing documents

The text of a document value in ASCII.  Without an indent a value is written on one line; with
one, every item stands on a line of its own.  Doubles are written with the shortest decimal that
reads back.

## Main definitions

* `Json.write` : the text of a value.
* `Json.sortKeys` : the value with the members of every object in the order of their keys.
* `Json.firstNotFinite?` : the first double in a value that strict documents do not admit.
-/

namespace NumericControl.Json

/-- A code unit as an escape. -/
def unitEscape (n : Nat) : String :=
  "\\u" ++ Text.hexDigits 4 n

/-- One character of a written text: printable ASCII stands for itself, the rest is escaped, and
characters beyond the first plane are written as two surrogates. -/
def escapeChar (c : Char) : String :=
  let n := c.toNat
  if c == Text.doubleQuote || c == '\\' then String.ofList ['\\', c]
  else if c == '\n' then "\\n"
  else if c == '\r' then "\\r"
  else if c == '\t' then "\\t"
  else if n == 8 then "\\b"
  else if n == 12 then "\\f"
  else if 0x20 ≤ n && n ≤ 0x7E then String.ofList [c]
  else if n < 0x10000 then unitEscape n
  else unitEscape (0xD800 + (n - 0x10000) / 0x400) ++ unitEscape (0xDC00 + (n - 0x10000) % 0x400)

/-- A written text with its quotes. -/
def writeText (s : String) : String :=
  (s.foldl (fun out c => out ++ escapeChar c) "\"").push Text.doubleQuote

/-- A written text with code points that are no characters; those are escaped like all others. -/
def writePoints (points : List Nat) : String :=
  let written (n : Nat) : String :=
    if n.isValidChar then escapeChar (Char.ofNat n) else unitEscape n
  (String.join ("\"" :: points.map written)).push Text.doubleQuote

/-- A written key. -/
def writeKey : Key → String
  | .text s => writeText s
  | .broken points => writePoints points

/-- So many spaces. -/
def spaces (count : Nat) : String :=
  String.ofList (List.replicate count ' ')

/-- The indent of a level that a value asks for: none, a text as it stands, or so many spaces.
Other values ask for nothing that can be done. -/
def indentOf? : Json → Option (Option String)
  | .null => some none
  | .text s => some (some s)
  | .int n => some (some (spaces n.toNat))
  | .bool b => some (some (spaces (if b then 1 else 0)))
  | _ => none

/-- A line break and the indent that starts a line, if the document is indented. -/
def lineBreak (indent : Option String) (level : Nat) : String :=
  match indent with
  | none => ""
  | some unit => String.join ("\n" :: List.replicate level unit)

/-- What separates two items. -/
def separator (indent : Option String) (level : Nat) : String :=
  match indent with
  | none => ", "
  | some _ => "," ++ lineBreak indent level

mutual

/-- A text followed by the text of a value. -/
def writeOnto (indent : Option String) (level : Nat) (out : String) : Json → String
  | .null => out ++ "null"
  | .bool true => out ++ "true"
  | .bool false => out ++ "false"
  | .int n => out ++ toString n
  | .float x => out ++ Number.shortestText Number.documentNames x
  | .text s => out ++ writeText s
  | .brokenText points => out ++ writePoints points
  | .array [] => out ++ "[]"
  | .array (item :: items) =>
    writeItems indent (level + 1)
      (writeOnto indent (level + 1) (out ++ "[" ++ lineBreak indent (level + 1)) item) items
      ++ lineBreak indent level ++ "]"
  | .object [] => out ++ "\x7b\x7d"
  | .object ((key, value) :: members) =>
    writeMembers indent (level + 1)
      (writeOnto indent (level + 1)
        (out ++ "\x7b" ++ lineBreak indent (level + 1) ++ writeKey key ++ ": ") value) members
      ++ lineBreak indent level ++ "\x7d"

/-- A text followed by further items of an array. -/
def writeItems (indent : Option String) (level : Nat) (out : String) : List Json → String
  | [] => out
  | item :: items =>
    writeItems indent level (writeOnto indent level (out ++ separator indent level) item) items

/-- A text followed by further members of an object. -/
def writeMembers (indent : Option String) (level : Nat) (out : String) :
    List (Key × Json) → String
  | [] => out
  | (key, value) :: members =>
    writeMembers indent level
      (writeOnto indent level (out ++ separator indent level ++ writeKey key ++ ": ") value)
      members

end

/-- The text of a value, indented level by level or on one line. -/
def write (indent : Option String) (value : Json) : String :=
  writeOnto indent 0 "" value

mutual

/-- The value with the members of every object in the order of their keys. -/
def sortKeys : Json → Json
  | .array items => .array (sortItems items)
  | .object members =>
    .object ((sortMembers members).mergeSort fun a b => RawText.notAfter a.1.points b.1.points)
  | value => value

/-- Every item of an array with sorted objects. -/
def sortItems : List Json → List Json
  | [] => []
  | item :: items => sortKeys item :: sortItems items

/-- Every member of an object with sorted objects. -/
def sortMembers : List (Key × Json) → List (Key × Json)
  | [] => []
  | (key, value) :: members => (key, sortKeys value) :: sortMembers members

end

mutual

/-- The first double in a value that is no finite number. -/
def firstNotFinite? : Json → Option Float
  | .float x => if x.isFinite then none else some x
  | .array items => firstNotFiniteItem? items
  | .object members => firstNotFiniteMember? members
  | _ => none

/-- The first double in an array that is no finite number. -/
def firstNotFiniteItem? : List Json → Option Float
  | [] => none
  | item :: items => (firstNotFinite? item).or (firstNotFiniteItem? items)

/-- The first double in an object that is no finite number. -/
def firstNotFiniteMember? : List (Key × Json) → Option Float
  | [] => none
  | (_, value) :: members => (firstNotFinite? value).or (firstNotFiniteMember? members)

end

end NumericControl.Json
