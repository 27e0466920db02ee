import NumericControl.Json.Basic
import NumericControl.Text.Quoted

/-!
# Text that has no bytes

Half of a surrogate pair is no character, so a text with one cannot be written in bytes.  Where
halves may stand for bytes that are no characters, as in paths, those are exempt.

## Main definitions

* `EncodingFault` : halves of surrogate pairs in a text.
* `encodingFault?` : the first of them.
-/

namespace NumericControl

/-- What keeps a text from being written in bytes: from one place to another it has halves of
surrogate pairs, of which the first one is `point`. -/
structure EncodingFault where
  point : Nat
  first : Nat
  last : Nat
deriving DecidableEq, Repr

/-- The wording of the fault. -/
def EncodingFault.text (fault : EncodingFault) : String :=
  "'utf-8' codec can't encode character" ++
    (if fault.first = fault.last then
      " '\\u" ++ Text.hexDigits 4 fault.point ++ "' in position " ++ toString fault.first
    else "s in position " ++ toString fault.first ++ "-" ++ toString fault.last) ++
    ": surrogates not allowed"

/-- What keeps a text from being written in bytes, given its code points from a place on: the first
half of a surrogate pair that is not exempt, with all that follow it without a gap. -/
def encodingFault? (isExempt : Nat → Bool) (place : Nat) : List Nat → Option EncodingFault
  | [] => none
  | point :: points =>
    if isSurrogate point && !isExempt point then
      some ⟨point, place, place + (points.takeWhile isSurrogate).length⟩
    else encodingFault? isExempt (place + 1) points

end NumericControl
