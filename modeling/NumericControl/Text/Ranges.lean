/-!
# Sets of characters

A set of characters is given by the ranges of its code points.

## Main definitions

* `Text.inRanges` : whether a character lies in one of some ranges.
-/

namespace NumericControl.Text

/-- Whether a character lies in one of some ranges, both ends of which belong to them. -/
def inRanges (ranges : Array (Nat × Nat)) (c : Char) : Bool :=
  ranges.any fun (first, last) => first ≤ c.toNat && c.toNat ≤ last

end NumericControl.Text
