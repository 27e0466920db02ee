import NumericControl.Number.Binary

/-!
# The shortest decimal of a double

A double is written with the fewest significant digits that read back to the same double, and
among those with the digits nearest to it.  The numbers that read back form an interval around
the double, whose ends belong to it exactly when the significand is even.

## Main definitions

* `Decimal` : decimal digits with the place of the point.
* `shortest` : the shortest decimal of a positive finite double.
* `Layout` and `shortestText` : the written form, positional in a middle range of magnitudes and
  with an exponent outside of it.
-/

namespace NumericControl.Number

/-- The number `0.d₁d₂…dₙ * 10^point`, where `d₁d₂…dₙ` are the digits of `digits`. -/
structure Decimal where
  digits : List Char
  point : Int
deriving DecidableEq, Repr

/-- The decimal digits of a natural number, most significant first. -/
def natDigits (n : Nat) : List Char :=
  Nat.toDigits 10 n

/-- Whether `b < 10^k`, decided in natural numbers. -/
def belowPowerOfTen (b : Binary) (k : Int) : Bool :=
  b.significand * b.scaleUp * Nat.pow 10 (-k).toNat < b.scaleDown * Nat.pow 10 k.toNat

/-- The number of digits before the point: the least `k` with `b < 10^k`.  The search starts
just below an estimate from the binary length and needs at most four steps. -/
def decimalPoint (b : Binary) : Int :=
  let binaryLength : Int := (Nat.log2 b.significand : Int) + b.exponent
  let start := (binaryLength * 30103).fdiv 100000 - 1
  if belowPowerOfTen b start then start
  else if belowPowerOfTen b (start + 1) then start + 1
  else if belowPowerOfTen b (start + 2) then start + 2
  else start + 3

/-- The ends of the interval of numbers that read back as `b`, with `b` itself, in units of a
quarter of the last binary place.  Below a power of two the lower gap is half as wide. -/
def quarters (b : Binary) : Nat × Nat × Nat :=
  let m := 4 * b.significand
  let lower := if b.significand = Nat.pow 2 52 ∧ -1074 < b.exponent then m - 1 else m - 2
  (lower, m, m + 2)

/-- The whole multiple of `10^grid` that reads back as `b` and lies nearest to it, if there is
one: only the two neighbours of `b` on the grid can. -/
def nearestOnGrid (b : Binary) (grid : Int) : Option Nat :=
  let (lower, value, upper) := quarters b
  let exponent := b.exponent - 2
  let up := Nat.pow 2 exponent.toNat * Nat.pow 10 (-grid).toNat
  let down := Nat.pow 2 (-exponent).toNat * Nat.pow 10 grid.toNat
  let readsBack (n : Nat) : Bool :=
    if b.significand % 2 = 0 then lower * up ≤ n * down && n * down ≤ upper * up
    else lower * up < n * down && n * down < upper * up
  let below := value * up / down
  let above := below + 1
  let rest := value * up % down
  let takeBelow : Bool := 2 * rest < down || (2 * rest == down && below % 2 == 0)
  match readsBack below, readsBack above with
  | true, true => some (if takeBelow then below else above)
  | true, false => some below
  | false, true => some above
  | false, false => none

/-- A number without the zeros that end its digits, and how many there were. -/
def stripZeros (n : Nat) : List Char :=
  (natDigits n).reverse.dropWhile (· == '0') |>.reverse

/-- The first grid with a number that reads back, going from one digit to more. -/
def searchGrids (b : Binary) (point : Int) : Nat → Nat → Decimal
  | 0, count => ⟨natDigits (b.significand * b.scaleUp), point + count⟩
  | fuel + 1, count =>
    let grid := point - count
    match nearestOnGrid b grid with
    | some n =>
      if n = 0 then searchGrids b point fuel (count + 1)
      else ⟨stripZeros n, grid + (natDigits n).length⟩
    | none => searchGrids b point fuel (count + 1)

/-- The shortest decimal that reads back as the positive number `b`; seventeen digits always
suffice. -/
def shortest (b : Binary) : Decimal :=
  searchGrids b (decimalPoint b) 20 1

/-- An exponent with its sign and at least two digits. -/
def exponentText (e : Int) : String :=
  let digits := natDigits e.natAbs
  let padded := if digits.length < 2 then '0' :: digits else digits
  (if e < 0 then "-" else "+") ++ String.ofList padded

/-- How the digits of a number are laid out. -/
structure Layout where
  /-- The least decimal exponent that is written positionally. -/
  leastPositional : Int
  /-- The least decimal exponent above the positional range. -/
  leastScientific : Int
  /-- Whether a positional whole number keeps `.0`. -/
  keepsPoint : Bool

/-- Digits and the place of the point as positional text: zeros fill the gap on either side. -/
def positional (keepsPoint : Bool) (d : Decimal) : String :=
  let n : Int := d.digits.length
  if d.point ≤ 0 then
    "0." ++ String.ofList (List.replicate (-d.point).toNat '0' ++ d.digits)
  else if n ≤ d.point then
    String.ofList (d.digits ++ List.replicate (d.point - n).toNat '0')
      ++ (if keepsPoint then ".0" else "")
  else
    String.ofList (d.digits.take d.point.toNat) ++ "."
      ++ String.ofList (d.digits.drop d.point.toNat)

/-- Digits with the point after the first of them, and the decimal exponent. -/
def scientific (d : Decimal) : String :=
  let mantissa :=
    match d.digits with
    | [] => "0"
    | [c] => String.ofList [c]
    | c :: cs => String.ofList (c :: '.' :: cs)
  mantissa ++ "e" ++ exponentText (d.point - 1)

/-- The digits laid out as asked. -/
def Layout.write (style : Layout) (d : Decimal) : String :=
  let exponent := d.point - 1
  if style.leastPositional ≤ exponent ∧ exponent < style.leastScientific then
    positional style.keepsPoint d
  else scientific d

/-- The names of the doubles that are no finite number. -/
structure SpecialNames where
  infinite : String
  notANumber : String

/-- The sign of a number as text. -/
def signText (negative : Bool) : String :=
  if negative then "-" else ""

/-- Exact numbers: positional from `0.0001` up to `10^16`, always with a point or an
exponent. -/
def exactLayout : Layout := ⟨-4, 16, true⟩

/-- The shortest text of a double. -/
def shortestText (names : SpecialNames) (x : Float) : String :=
  match Reading.of x with
  | .notANumber => names.notANumber
  | .infinite negative => signText negative ++ names.infinite
  | .finite b =>
    signText b.negative ++
      (if b.significand = 0 then "0.0" else exactLayout.write (shortest b))

/-- The names that documents use. -/
def documentNames : SpecialNames := ⟨"Infinity", "NaN"⟩

/-- The names that messages use. -/
def messageNames : SpecialNames := ⟨"inf", "nan"⟩

end NumericControl.Number
