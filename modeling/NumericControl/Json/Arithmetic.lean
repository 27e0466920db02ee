import NumericControl.Json.Basic
import NumericControl.Number.Length
import NumericControl.Number.Numeral

/-!
# Arithmetic with document values

Where a document should hold numbers it may hold anything.  Whole numbers are computed with
exactly and become doubles only where they meet one; truth values count as one and zero.  Texts
and arrays can be joined and compared.  Anything else is a fault, but not before it is used.

## Main definitions

* `ValueFault` : why a computation has no result.
* `Quantity` : a whole number or a double; `Quantity.less` compares them exactly.
* `Json.plus`, `Json.minus`, `Json.square`, `Json.toDouble` : the arithmetic.
* `Json.same`, `Json.less` : the comparisons.
* `Json.item` : an item of a value.
-/

namespace NumericControl

/-- Why a computation with document values has no result. -/
inductive ValueFault where
  /-- A value of another type is needed. -/
  | otherType
  /-- A value of the right type has no meaning where it stands. -/
  | otherValue
  /-- A sequence ends before the item that is needed. -/
  | missingItem
  /-- An object lacks the key that is needed. -/
  | missingKey
  /-- A whole number is larger than all doubles. -/
  | tooLarge
deriving DecidableEq, Repr

/-- A whole number or a double. -/
inductive Quantity where
  | whole (n : Int)
  | double (x : Float)

namespace Quantity

/-- The nearest double. -/
def toDouble : Quantity → Except ValueFault Float
  | double x => .ok x
  | whole n =>
    match Number.nearestWhole? n.natAbs with
    | some x => .ok (if n < 0 then -x else x)
    | none => .error .tooLarge

/-- The product of two numbers. -/
def times : Quantity → Quantity → Except ValueFault Quantity
  | whole m, whole n => .ok (whole (m * n))
  | a, b => do return double ((← a.toDouble) * (← b.toDouble))

/-- The sum of two numbers. -/
def plus : Quantity → Quantity → Except ValueFault Quantity
  | whole m, whole n => .ok (whole (m + n))
  | a, b => do return double ((← a.toDouble) + (← b.toDouble))

/-- The difference of two numbers. -/
def minus : Quantity → Quantity → Except ValueFault Quantity
  | whole m, whole n => .ok (whole (m - n))
  | a, b => do return double ((← a.toDouble) - (← b.toDouble))

/-- A finite double in units of its last binary place or of one, whichever is smaller, with the
number of such units in one. -/
def ratio (b : Number.Binary) : Int × Nat :=
  let n : Int := (b.significand * b.scaleUp : Nat)
  (if b.negative then -n else n, b.scaleDown)

/-- Whether one number is less than another one.  No rounding takes part in it. -/
def less : Quantity → Quantity → Bool
  | whole m, whole n => decide (m < n)
  | double x, double y => decide (x < y)
  | whole m, double y =>
    match Number.Reading.of y with
    | .notANumber => false
    | .infinite negative => !negative
    | .finite b => decide (m * ((ratio b).2 : Int) < (ratio b).1)
  | double x, whole n =>
    match Number.Reading.of x with
    | .notANumber => false
    | .infinite negative => negative
    | .finite b => decide ((ratio b).1 < n * ((ratio b).2 : Int))

/-- Whether two numbers are equal.  No rounding takes part in it. -/
def same : Quantity → Quantity → Bool
  | whole m, whole n => m == n
  | double x, double y => x == y
  | whole n, double x | double x, whole n =>
    match Number.Reading.of x with
    | .finite b => (ratio b).1 == n * ((ratio b).2 : Int)
    | _ => false

/-- Whether a number is zero. -/
def isZero : Quantity → Bool
  | whole n => n == 0
  | double x => x == 0.0

/-- A number as a document value. -/
def toJson : Quantity → Json
  | whole n => .int n
  | double x => .float x

end Quantity

namespace Json

/-- A value as a number. -/
def quantity : Json → Except ValueFault Quantity
  | .bool b => .ok (.whole (if b then 1 else 0))
  | .int n => .ok (.whole n)
  | .float x => .ok (.double x)
  | _ => .error .otherType

/-- The double nearest to a value. -/
def toDouble (value : Json) : Except ValueFault Float := do
  (← value.quantity).toDouble

/-- The double that is read from a value: a text may write one. -/
def readDouble (value : Json) : Except ValueFault Float :=
  match value with
  | .text s => (Number.decimal? s).elim (.error .otherValue) .ok
  | .brokenText _ => .error .otherValue
  | _ => value.toDouble

/-- The sum of two values; texts and arrays are joined. -/
def plus (a b : Json) : Except ValueFault Json :=
  match a, b with
  | .array xs, .array ys => .ok (.array (xs ++ ys))
  | _, _ =>
    match a.raw?, b.raw? with
    | some s, some t => .ok (ofRaw (s ++ t))
    | _, _ => do return (← (← a.quantity).plus (← b.quantity)).toJson

/-- The difference of two values. -/
def minus (a b : Json) : Except ValueFault Json := do
  return (← (← a.quantity).minus (← b.quantity)).toJson

/-- The double nearest to the square of a value. -/
def square (value : Json) : Except ValueFault Float := do
  let n ← value.quantity
  (← n.times n).toDouble

mutual

/-- Whether two values are equal: numbers by what they count, objects key by key. -/
def same : Json → Json → Bool
  | .null, .null => true
  | .array xs, .array ys => sameItems xs ys
  | .object m, .object n => m.length == n.length && sameMembers m n
  | a, b =>
    match a.raw?, b.raw?, a.quantity, b.quantity with
    | some s, some t, _, _ => s == t
    | _, _, .ok x, .ok y => x.same y
    | _, _, _, _ => false

/-- Whether two sequences have equal items. -/
def sameItems : List Json → List Json → Bool
  | [], [] => true
  | x :: xs, y :: ys => same x y && sameItems xs ys
  | _, _ => false

/-- Whether all members of an object have an equal one in another. -/
def sameMembers : List (Key × Json) → Members → Bool
  | [], _ => true
  | (key, x) :: rest, n =>
    (match n.get? key with
      | some y => same x y
      | none => false) && sameMembers rest n

end

mutual

/-- Whether one value is less than another one.  Texts are compared by their code points, and
arrays by their first items that differ. -/
def less : Json → Json → Except ValueFault Bool
  | .array xs, .array ys => lessItems xs ys
  | a, b =>
    match a.raw?, b.raw? with
    | some s, some t => .ok (!RawText.notAfter t.points s.points)
    | _, _ => do return (← a.quantity).less (← b.quantity)

/-- Whether one sequence of values is less than another one. -/
def lessItems : List Json → List Json → Except ValueFault Bool
  | [], ys => .ok (!ys.isEmpty)
  | _ :: _, [] => .ok false
  | x :: xs, y :: ys => if same x y then lessItems xs ys else less x y

end

/-- The item of a value with an index. -/
def item (value : Json) (index : Nat) : Except ValueFault Json :=
  match value, value.items? with
  | .object _, _ => .error .missingKey
  | _, none => .error .otherType
  | _, some items =>
    match items[index]? with
    | some item => .ok item
    | none => .error .missingItem

end Json

end NumericControl
