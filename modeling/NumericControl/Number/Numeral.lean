import NumericControl.Number.Binary
import NumericControl.Text.Blank
import NumericControl.Text.DecimalDigit

/-!
# Numerals

Written numbers and their values.  A word value is a plain decimal: an optional sign, digits and
at most one point, with at least one digit.  A whole number in a setting may also have white
space around it, underscores between its digits, and digits of any script.

## Main definitions

* `Plain` : the parts of a plain decimal; `plain?` reads them and `Plain.value` is the double
  nearest to the number.
* `wholeNumber?` : the value of a whole number as settings write it.
* `decimal?` : the double that a text writes.
-/

namespace NumericControl.Number

/-- A plain decimal: sign, digits before the point and digits after it. -/
structure Plain where
  negative : Bool
  whole : List Char
  fraction : List Char
deriving DecidableEq, Repr

/-- A digit of the decimal system. -/
def isDigit (c : Char) : Bool :=
  '0' ≤ c && c ≤ '9'

/-- The value of a digit. -/
def digitValue (c : Char) : Nat :=
  c.toNat - '0'.toNat

/-- The number that a sequence of digits writes. -/
def digitsValue (cs : List Char) : Nat :=
  cs.foldl (fun n c => 10 * n + digitValue c) 0

/-- Split off an optional sign. -/
def splitSign : List Char → Bool × List Char
  | '-' :: cs => (true, cs)
  | '+' :: cs => (false, cs)
  | cs => (false, cs)

/-- Read a plain decimal; all of the text has to belong to it. -/
def plain? (cs : List Char) : Option Plain :=
  let (negative, rest) := splitSign cs
  let whole := rest.takeWhile isDigit
  match rest.dropWhile isDigit with
  | [] => if whole.isEmpty then none else some ⟨negative, whole, []⟩
  | c :: fraction =>
    if c == '.' && fraction.all isDigit && !(whole.isEmpty && fraction.isEmpty) then
      some ⟨negative, whole, fraction⟩
    else none

/-- The double nearest to `(-1)^negative * mantissa * 10^exponent`. -/
def nearest (negative : Bool) (mantissa : Nat) (exponent : Int) : Float :=
  let magnitude := Float.ofScientific mantissa (decide (exponent < 0)) exponent.natAbs
  if negative then -magnitude else magnitude

/-- The double nearest to a plain decimal. -/
def Plain.value (p : Plain) : Float :=
  nearest p.negative (digitsValue (p.whole ++ p.fraction)) (-(p.fraction.length : Int))

/-- Whole numbers with more digits than this are not read. -/
def digitLimit : Nat := 4300

/-- The values of decimal digits, of any script, with at most one underscore between two of
them. -/
def digitRun? (afterDigit : Bool) : List Char → Option (List Nat)
  | [] => if afterDigit then some [] else none
  | c :: cs =>
    match Text.decimalDigit? c with
    | some d => (digitRun? true cs).map (d :: ·)
    | none => if c == '_' && afterDigit then digitRun? false cs else none

/-- White space that may stand around a whole number: no information separator may. -/
def isNumberGap (c : Char) : Bool :=
  Text.isBlank c && !(28 ≤ c.toNat && c.toNat ≤ 31)

/-- The value of a whole number as settings write it. -/
def wholeNumber? (s : String) : Option Int :=
  let (negative, rest) :=
    splitSign (Text.dropTailWhile isNumberGap (s.toList.dropWhile isNumberGap))
  match digitRun? false rest with
  | none => none
  | some digits =>
    if digitLimit < digits.length then none
    else
      let n : Int := (digits.foldl (fun n d => 10 * n + d) 0 : Nat)
      some (if negative then -n else n)

/-- A text without the underscores between two digits, if it has no other ones. -/
def withoutUnderscores? (afterDigit : Bool) : List Char → Option (List Char)
  | [] => some []
  | c :: cs =>
    if c == '_' then
      if afterDigit && (cs.head?.any isDigit) then withoutUnderscores? false cs else none
    else (withoutUnderscores? (isDigit c) cs).map (c :: ·)

/-- The exponent that a text writes after its letter; without any text it is zero. -/
def exponent? : List Char → Option Int
  | [] => some 0
  | _ :: rest =>
    let (negative, digits) := splitSign rest
    if !digits.isEmpty && digits.all isDigit then
      let n : Int := digitsValue digits
      some (if negative then -n else n)
    else none

/-- The double that a text without sign writes: in the plain form, with an exponent, or by the
name of what is not finite. -/
def magnitude? (cs : List Char) : Option Float :=
  let isMark (c : Char) : Bool := c == 'e' || c == 'E'
  let mantissa := cs.takeWhile fun c => !isMark c
  let isSigned : Bool := mantissa.head?.any fun c => c == '+' || c == '-'
  let name := String.ofList (cs.map Char.toLower)
  if name == "inf" || name == "infinity" then some infinity
  else if name == "nan" then some notANumber
  else if isSigned then none
  else
    match plain? mantissa, exponent? (cs.dropWhile fun c => !isMark c) with
    | some p, some exponent =>
      some (nearest false (digitsValue (p.whole ++ p.fraction)) (exponent - p.fraction.length))
    | _, _ => none

/-- The double that a text writes, with white space around it, underscores between its digits and
digits of any script. -/
def decimal? (s : String) : Option Float :=
  let trimmed := Text.dropTailWhile isNumberGap (s.toList.dropWhile isNumberGap)
  let digits := trimmed.map fun c =>
    match Text.decimalDigit? c with
    | some d => Char.ofNat (48 + d)
    | none => c
  match withoutUnderscores? false digits with
  | some cs =>
    let (negative, rest) := splitSign cs
    (magnitude? rest).map fun x => if negative then -x else x
  | none => none

end NumericControl.Number
