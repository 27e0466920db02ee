import NumericControl.Json.Basic
import NumericControl.Number.Shortest
import NumericControl.Text.Quoted

/-!
# Showing values in messages

A document value as a message shows it: truth values and the empty value by name, texts between
quotes, arrays and objects on one line.

## Main definitions

* `RawText.printable` : a text in characters.
* `Json.display` : a value as messages show it.
* `Json.displayBare` : the same, except that a text on its own stands without quotes.
-/

namespace NumericControl

/-- A text as messages show it. -/
def RawText.display : RawText → String
  | .text s => Text.quoted s
  | .broken points => Text.quotedPoints points

/-- A text in characters, with an escape for half of a surrogate pair. -/
def RawText.printable : RawText → String
  | .text s => s
  | .broken points => String.join <| points.map fun n =>
      if n.isValidChar then String.singleton (Char.ofNat n) else "\\u" ++ Text.hexDigits 4 n

namespace Json

mutual

/-- A text followed by a value as messages show it. -/
def displayOnto (out : String) : Json → String
  | .null => out ++ "None"
  | .bool true => out ++ "True"
  | .bool false => out ++ "False"
  | .int n => out ++ toString n
  | .float x => out ++ Number.shortestText Number.messageNames x
  | .text s => out ++ Text.quoted s
  | .brokenText points => out ++ Text.quotedPoints points
  | .array [] => out ++ "[]"
  | .array (item :: items) => displayItems (displayOnto (out ++ "[") item) items ++ "]"
  | .object [] => out ++ "\x7b\x7d"
  | .object ((key, value) :: members) =>
    displayMembers (displayOnto (out ++ "\x7b" ++ key.display ++ ": ") value) members
      ++ "\x7d"

/-- A text followed by further items. -/
def displayItems (out : String) : List Json → String
  | [] => out
  | item :: items => displayItems (displayOnto (out ++ ", ") item) items

/-- A text followed by further members. -/
def displayMembers (out : String) : List (Key × Json) → String
  | [] => out
  | (key, value) :: members =>
    displayMembers (displayOnto (out ++ ", " ++ key.display ++ ": ") value) members

end

/-- A value as messages show it. -/
def display (value : Json) : String :=
  displayOnto "" value

/-- A value as messages show it, with a text standing bare. -/
def displayBare (value : Json) : RawText :=
  value.raw?.getD value.display

end Json

end NumericControl
