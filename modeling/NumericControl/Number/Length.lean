import NumericControl.Number.Binary

/-!
# Lengths of vectors

The length of a vector of doubles, rounded only once.  The squares of the components are added as
whole numbers over a common power of two, the root is taken in whole numbers with more places than
a double has, and what is left of it only decides how the result is rounded.

## Main definitions

* `wholeRoot` : the square root of a whole number, cut to a whole number.
* `nearestBinary` : the double nearest to a whole number times a power of two.
* `nearestWhole?` : the double nearest to a whole number that is not too large.
* `vectorLength` : the double nearest to the length of a vector.
-/

namespace NumericControl.Number

/-- The square root of a whole number, cut to a whole number: twice the root of a quarter of the
number, or one more. -/
def wholeRoot (n : Nat) : Nat :=
  if h : n = 0 then 0
  else
    let root := 2 * wholeRoot (n / 4)
    if (root + 1) * (root + 1) ≤ n then root + 1 else root
termination_by n
decreasing_by omega

/-- The bits of a double: the exponent shows how often the significand was halved, and the bit in
front of a full significand is left out. -/
def bitsOf (significand : Nat) (place : Int) : Nat :=
  if significand < Nat.pow 2 52 then significand
  else (place + 1075).toNat * Nat.pow 2 52 + (significand - Nat.pow 2 52)

/-- The double nearest to `n * 2^exponent`; halves go to the even neighbour, and what is too large
is infinite. -/
def nearestBinary (n : Nat) (exponent : Int) : Float :=
  if n = 0 then 0.0
  else
    let last := exponent + (Nat.log2 n : Int) - 52
    let place := if last < -1074 then -1074 else last
    let rounded :=
      divHalfEven (n * Nat.pow 2 (exponent - place).toNat) (Nat.pow 2 (place - exponent).toNat)
    let (significand, place) :=
      if rounded = Nat.pow 2 53 then (Nat.pow 2 52, place + 1) else (rounded, place)
    if 971 < place then infinity
    else Float.ofBits (UInt64.ofNat (bitsOf significand place))

/-- The least whole number that is too large for a double: it lies half way between the largest
double and the next power of two, and halves go to the even neighbour. -/
@[irreducible]
def wholeLimit : Nat :=
  Nat.pow 2 1024 - Nat.pow 2 970

/-- The double nearest to a whole number, unless the number is too large for one. -/
def nearestWhole? (n : Nat) : Option Float :=
  if n < wholeLimit then some (nearestBinary n 0) else none

/-- The finite number of a reading. -/
def Reading.finite? : Reading → Option Binary
  | .finite b => some b
  | _ => none

/-- Whether a reading is that of an infinity. -/
def Reading.isInfinite : Reading → Bool
  | .infinite _ => true
  | _ => false

/-- The least exponent of some numbers, at most `bound`. -/
def leastExponent (bound : Int) : List Binary → Int
  | [] => bound
  | b :: rest => leastExponent (if b.exponent < bound then b.exponent else bound) rest

/-- The sum of the squares of some numbers, in units of the square of `2^place`. -/
def squareSum (place : Int) : List Binary → Nat
  | [] => 0
  | b :: rest =>
    let scaled := b.significand * Nat.pow 2 (b.exponent - place).toNat
    scaled * scaled + squareSum place rest

/-- The double nearest to the length of a vector with finite components.  The root is computed to
64 binary places behind the last one of the components; one more bit tells whether it is exact. -/
def finiteLength (components : List Binary) : Float :=
  let components := components.filter fun b => b.significand != 0
  let place := leastExponent 971 components
  let square := squareSum place components * Nat.pow 2 128
  let root := wholeRoot square
  nearestBinary (2 * root + if root * root = square then 0 else 1) (place - 65)

/-- The double nearest to the length of a vector.  It is infinite if a component is, and no number
if a component is none. -/
def vectorLength (components : List Float) : Float :=
  let readings := components.map Reading.of
  if readings.any Reading.isInfinite then infinity
  else
    let finite := readings.filterMap Reading.finite?
    if finite.length < readings.length then notANumber else finiteLength finite

end NumericControl.Number
