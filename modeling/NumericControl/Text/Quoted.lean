import NumericControl.Text.Printable

/-!
# Quoted text

A text as messages show it: between quotes, with the characters that cannot be seen written as
escapes.  The quotes are single unless the text holds a single quote and no double one.

## Main definitions

* `Text.quoted`, `Text.quotedPoints` : the quoted form of a text, and of code points.
* `Text.hexDigits` : a number in base sixteen with a fixed width.
-/

namespace NumericControl.Text

/-- A number in base sixteen, with zeros in front up to `width`. -/
def hexDigits (width n : Nat) : String :=
  let digits := Nat.toDigits 16 n
  String.ofList (List.replicate (width - digits.length) '0' ++ digits)

/-- The single quote. -/
def singleQuote : Char := Char.ofNat 39

/-- The double quote. -/
def doubleQuote : Char := Char.ofNat 34

/-- A code point by its number, in the shortest of three forms. -/
def numberedPoint (n : Nat) : String :=
  if n < 0x100 then "\\x" ++ hexDigits 2 n
  else if n < 0x10000 then "\\u" ++ hexDigits 4 n
  else "\\U" ++ hexDigits 8 n

/-- One character inside quotes: the quote and the backslash are escaped, line ends and tabs have
names, and what is not printable is written by its number. -/
def quotedChar (quote c : Char) : String :=
  if c == quote || c == '\\' then String.ofList ['\\', c]
  else if c == '\n' then "\\n"
  else if c == '\r' then "\\r"
  else if c == '\t' then "\\t"
  else if isPrintable c then String.ofList [c]
  else numberedPoint c.toNat

/-- The quote that surrounds a text. -/
def quoteFor (s : String) : Char :=
  if s.contains singleQuote && !s.contains doubleQuote then doubleQuote else singleQuote

/-- A text between quotes. -/
def quoted (s : String) : String :=
  let quote := quoteFor s
  s.foldl (fun text c => text ++ quotedChar quote c) (String.singleton quote)
    ++ String.singleton quote

/-- A text with code points that are no characters between quotes; those are written by their
numbers. -/
def quotedPoints (points : List Nat) : String :=
  let quote := quoteFor (String.ofList (points.map Char.ofNat))
  let written (n : Nat) : String :=
    if n.isValidChar then quotedChar quote (Char.ofNat n) else numberedPoint n
  String.join (String.singleton quote :: points.map written ++ [String.singleton quote])

end NumericControl.Text
