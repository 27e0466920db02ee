import NumericControl.Number.Shortest

/-!
# Rounded decimals

Numbers written with a fixed count of places or of significant digits.  The double is taken as
the exact binary number it is and rounded once; a half goes to the even neighbour.

## Main definitions

* `fixedText` : a number with a given count of places.
* `generalText` : six significant digits, trailing zeros dropped, positional for decimal
  exponents from `-4` to `5`.
* `scientificText` : a number with a given count of places and an exponent.
-/

namespace NumericControl.Number

/-- The digits of `n`, with zeros in front up to `width`. -/
def paddedDigits (width n : Nat) : List Char :=
  let digits := natDigits n
  List.replicate (width - digits.length) '0' ++ digits

/-- The number `b * 10^k` without its sign, rounded to a whole number. -/
def scaledHalfEven (b : Binary) (k : Int) : Nat :=
  divHalfEven (b.significand * b.scaleUp * Nat.pow 10 k.toNat)
    (b.scaleDown * Nat.pow 10 (-k).toNat)

/-- A number of units in the last of `places` places, written with its point. -/
def placesText (places n : Nat) : String :=
  let digits := paddedDigits (places + 1) n
  let whole := digits.take (digits.length - places)
  let fraction := digits.drop (digits.length - places)
  if places = 0 then String.ofList whole
  else String.ofList whole ++ "." ++ String.ofList fraction

/-- A double with a fixed count of places. -/
def fixedText (places : Nat) (x : Float) : String :=
  match Reading.of x with
  | .notANumber => messageNames.notANumber
  | .infinite negative => signText negative ++ messageNames.infinite
  | .finite b => signText b.negative ++ placesText places (scaledHalfEven b places)

/-- The positive number `b` rounded to `count` significant digits: the digits as a number, and
the place of the point. -/
def significant (count : Nat) (b : Binary) : Nat × Int :=
  let point := decimalPoint b
  let n := scaledHalfEven b (count - point)
  if n = Nat.pow 10 count then (Nat.pow 10 (count - 1), point + 1) else (n, point)

/-- Six significant digits without trailing zeros; a zero keeps its sign. -/
def generalText (x : Float) : String :=
  match Reading.of x with
  | .notANumber => messageNames.notANumber
  | .infinite negative => signText negative ++ messageNames.infinite
  | .finite b =>
    let style : Layout := ⟨-4, 6, false⟩
    let magnitude :=
      if b.significand = 0 then "0"
      else
        let (n, point) := significant 6 b
        style.write ⟨stripZeros n, point⟩
    signText b.negative ++ magnitude

/-- A double with one digit before the point, `places` digits after it, and an exponent. -/
def scientificText (places : Nat) (x : Float) : String :=
  match Reading.of x with
  | .notANumber => messageNames.notANumber
  | .infinite negative => signText negative ++ messageNames.infinite
  | .finite b =>
    let (n, point) := if b.significand = 0 then (0, 1) else significant (places + 1) b
    signText b.negative ++ placesText places n ++ "e" ++ exponentText (point - 1)

end NumericControl.Number
