import NumericControl.Line.Basic

/-!
# Removing words from a line

Words are cut out of a line by their spans.  What stays is respaced, and a line on which nothing
but an end-of-line comment stays is replaced by a comment that says so.

## Main definitions

* `cut` : the characters of a line outside of the spans of some words.
* `removeWords` : the line without some words.
-/

namespace NumericControl

/-- Whether a place in a line belongs to a word. -/
def Word.covers (w : Word) (pos : Nat) : Bool :=
  w.start ≤ pos && pos < w.stop

/-- The characters of a line outside of the spans of the given words, the first character having
the number `pos`. -/
def cut (words : List Word) (pos : Nat) : List Char → List Char
  | [] => []
  | c :: cs =>
    if words.any (·.covers pos) then cut words (pos + 1) cs
    else c :: cut words (pos + 1) cs

/-- What stands for a line from which all words were removed. -/
def removedLine : List Char := "(line removed)".toList

/-- A line without some of its words. -/
def removeWords (source : List Char) (words : List Word) : List Char :=
  match Text.respace (cut words 0 source) with
  | [] => removedLine
  | ';' :: _ => removedLine
  | rest => rest

end NumericControl
