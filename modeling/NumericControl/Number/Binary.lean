/-!
# Doubles as exact binary numbers

A finite double is a whole number times a power of two.  This file reads that form off the bits
of a `Float` and computes from it, in exact integers, the whole numbers next to the double.

## Main definitions

* `Binary` : sign, significand and exponent of a finite double.
* `Reading.of` : a double as a finite number, an infinity or no number.
* `truncate`, `floor` : the whole number toward zero and the whole number below; both refuse
  what is not finite.
* `roundHalfEven` : the nearest whole number, halves going to the even neighbour.
-/

namespace NumericControl.Number

/-- The number `(-1)^negative * significand * 2^exponent`. -/
structure Binary where
  negative : Bool
  significand : Nat
  exponent : Int
deriving DecidableEq, Repr

/-- What a double stands for. -/
inductive Reading where
  | notANumber
  | infinite (negative : Bool)
  | finite (b : Binary)
deriving DecidableEq, Repr

/-- Read a double off its bits: one sign bit, eleven exponent bits, 52 fraction bits. -/
def Reading.of (x : Float) : Reading :=
  let bits : Nat := x.toBits.toNat
  let negative : Bool := decide (Nat.pow 2 63 ≤ bits)
  let exponent : Nat := bits / Nat.pow 2 52 % Nat.pow 2 11
  let fraction : Nat := bits % Nat.pow 2 52
  if exponent = 2047 then
    if fraction = 0 then .infinite negative else .notANumber
  else if exponent = 0 then .finite ⟨negative, fraction, -1074⟩
  else .finite ⟨negative, Nat.pow 2 52 + fraction, (exponent : Int) - 1075⟩

/-- A double that is a number and no infinity. -/
def IsFinite (x : Float) : Prop :=
  ∃ b, Reading.of x = .finite b

/-- Why a double has no whole part. -/
inductive NotFinite where
  | infinity
  | notANumber
deriving DecidableEq, Repr

namespace Binary

/-- The factor by which the significand is multiplied: one, or a power of two. -/
def scaleUp (b : Binary) : Nat :=
  Nat.pow 2 b.exponent.toNat

/-- The divisor of the significand: one, or a power of two. -/
def scaleDown (b : Binary) : Nat :=
  Nat.pow 2 (-b.exponent).toNat

/-- The number without its sign, cut to a whole number. -/
def magnitude (b : Binary) : Nat :=
  b.significand * b.scaleUp / b.scaleDown

/-- The whole number next to `b` in the direction of zero. -/
def truncate (b : Binary) : Int :=
  if b.negative then -(b.magnitude : Int) else b.magnitude

/-- The greatest whole number not above `b`. -/
def floor (b : Binary) : Int :=
  let n : Int := (b.significand * b.scaleUp : Nat)
  let signed := if b.negative then -n else n
  signed.fdiv (b.scaleDown : Nat)

end Binary

/-- A quotient rounded to the nearest whole number; halves go to the even neighbour. -/
def divHalfEven (num den : Nat) : Nat :=
  let q := num / den
  let twice := 2 * (num % den)
  if twice < den then q
  else if den < twice then q + 1
  else if q % 2 = 0 then q else q + 1

/-- The whole part of a double, cut toward zero. -/
def truncate (x : Float) : Except NotFinite Int :=
  match Reading.of x with
  | .finite b => .ok b.truncate
  | .infinite _ => .error .infinity
  | .notANumber => .error .notANumber

/-- The greatest whole number not above a double. -/
def floor (x : Float) : Except NotFinite Int :=
  match Reading.of x with
  | .finite b => .ok b.floor
  | .infinite _ => .error .infinity
  | .notANumber => .error .notANumber

/-- The nearest whole number, halves going to the even neighbour; zero for what is not a finite
number. -/
def roundHalfEven (x : Float) : Int :=
  match Reading.of x with
  | .finite b =>
    let n := divHalfEven (b.significand * b.scaleUp) b.scaleDown
    if b.negative then -(n : Int) else n
  | _ => 0

/-- Positive infinity. -/
def infinity : Float := 1.0 / 0.0

/-- The double that is no number. -/
def notANumber : Float := 0.0 / 0.0

end NumericControl.Number
