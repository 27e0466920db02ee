/-!
# White space

The white space of program text is the Unicode white space together with the four information
separators U+001C to U+001F.  Every place that skips, trims or splits at white space uses the
one test of this file.

## Main definitions

* `Text.isBlank` : the white space test.
* `Text.trim`, `Text.fields` : a text without its outer white space, and its maximal runs of
  other characters.
* `Text.trimLineEnd` : a line without the carriage returns and line feeds that end it.
-/

namespace NumericControl.Text

/-- White space: tabs and line ends, the information separators, and the Unicode spaces. -/
def isBlank (c : Char) : Bool :=
  let n := c.toNat
  (9 ≤ n && n ≤ 13) || (28 ≤ n && n ≤ 32) || n == 0x85 || n == 0xA0 || n == 0x1680 ||
    (0x2000 ≤ n && n ≤ 0x200A) || n == 0x2028 || n == 0x2029 || n == 0x202F || n == 0x205F ||
    n == 0x3000

/-- The list without the longest tail all of whose members satisfy `p`. -/
def dropTailWhile {α : Type} (p : α → Bool) (xs : List α) : List α :=
  (xs.reverse.dropWhile p).reverse

/-- A text without the white space at its two ends. -/
def trimChars (cs : List Char) : List Char :=
  dropTailWhile isBlank (cs.dropWhile isBlank)

/-- A text without the white space at its two ends. -/
def trim (s : String) : String :=
  String.ofList (trimChars s.toList)

/-- A text without the white space at its right end. -/
def trimRight (s : String) : String :=
  String.ofList (dropTailWhile isBlank s.toList)

/-- The maximal runs of characters other than white space, in order. -/
def fields : List Char → List (List Char)
  | [] => []
  | c :: cs =>
    if isBlank c then fields cs
    else
      match cs with
      | [] => [[c]]
      | d :: ds =>
        if isBlank d then [c] :: fields (d :: ds)
        else
          match fields (d :: ds) with
          | [] => [[c]]
          | f :: fs => (c :: f) :: fs

/-- The text with every run of white space between two fields written as one space, and none
at the ends. -/
def respace (cs : List Char) : List Char :=
  (fields cs).intersperse [' '] |>.flatten

/-- The two characters that end a line. -/
def isLineEnd (c : Char) : Bool :=
  c == '\r' || c == '\n'

/-- A line without the carriage returns and line feeds that end it. -/
def trimLineEnd (s : String) : String :=
  String.ofList (dropTailWhile isLineEnd s.toList)

end NumericControl.Text
