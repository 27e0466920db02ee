import NumericControl.Json.Basic
import NumericControl.Number.Numeral

/-!
# Reading documents

The text of a document value.  The three names `NaN`, `Infinity` and `-Infinity` are read as
doubles; a number with a point or an exponent is a double and every other number a whole number
of any size.  Of two members with one key the last counts.

## Main definitions

* `Json.ReadError` : what is wrong with a text.
* `Json.read` : the value of a text.
-/

namespace NumericControl.Json

/-- Why a text is not read. -/
inductive ReadError where
  /-- The text is no document value. -/
  | malformed
  /-- A whole number has more digits than are read. -/
  | tooManyDigits
  /-- Arrays and objects are nested too deeply. -/
  | tooDeep
deriving DecidableEq, Repr

/-- Arrays and objects inside one another, at most. -/
def nestingLimit : Nat := 990

/-- White space between the parts of a document. -/
def isGap (c : Char) : Bool :=
  c == ' ' || c == '\t' || c == '\n' || c == '\r'

/-- The text after its leading white space. -/
def skipGap (cs : List Char) : List Char :=
  cs.dropWhile isGap

/-- The value of a digit in base sixteen. -/
def hexValue? (c : Char) : Option Nat :=
  if '0' ≤ c && c ≤ '9' then some (c.toNat - 48)
  else if 'a' ≤ c && c ≤ 'f' then some (c.toNat - 87)
  else if 'A' ≤ c && c ≤ 'F' then some (c.toNat - 55)
  else none

/-- The number that four digits in base sixteen write. -/
def hexNumber? (a b c d : Char) : Option Nat := do
  return (((← hexValue? a) * 16 + (← hexValue? b)) * 16 + (← hexValue? c)) * 16 + (← hexValue? d)

/-- The character that a backslash and a letter stand for. -/
def namedEscape? (c : Char) : Option Char :=
  match c with
  | '"' => some '"'
  | '\\' => some '\\'
  | '/' => some '/'
  | 'b' => some (Char.ofNat 8)
  | 'f' => some (Char.ofNat 12)
  | 'n' => some '\n'
  | 'r' => some '\r'
  | 't' => some '\t'
  | _ => none

/-- The code units of a text after its opening quote, and what follows the closing one. -/
def scanText (units : List Nat) : List Char → Except ReadError (List Nat × List Char)
  | [] => .error .malformed
  | '"' :: cs => .ok (units.reverse, cs)
  | '\\' :: 'u' :: a :: b :: c :: d :: cs =>
    match hexNumber? a b c d with
    | some n => scanText (n :: units) cs
    | none => .error .malformed
  | '\\' :: e :: cs =>
    match namedEscape? e with
    | some c => scanText (c.toNat :: units) cs
    | none => .error .malformed
  | c :: cs =>
    if c.toNat < 0x20 || c == '\\' then .error .malformed else scanText (c.toNat :: units) cs

/-- Code units as code points: a pair of surrogates is one of them. -/
def joinUnits : List Nat → List Nat
  | [] => []
  | [n] => [n]
  | n :: m :: rest =>
    if 0xD800 ≤ n && n ≤ 0xDBFF && 0xDC00 ≤ m && m ≤ 0xDFFF then
      (0x10000 + (n - 0xD800) * 0x400 + (m - 0xDC00)) :: joinUnits rest
    else n :: joinUnits (m :: rest)

/-- A text after its opening quote, and what follows the closing one. -/
def readText (cs : List Char) : Except ReadError (Key × List Char) := do
  let (units, rest) ← scanText [] cs
  return (.ofPoints (joinUnits units), rest)

/-- The digits of an exponent with its sign, if there is one in front. -/
def splitExponent (cs : List Char) : Option (Int × List Char) :=
  match cs with
  | e :: rest =>
    if e == 'e' || e == 'E' then
      let (negative, rest) := Number.splitSign rest
      let digits := rest.takeWhile Number.isDigit
      if digits.isEmpty then none
      else
        let n : Int := Number.digitsValue digits
        some (if negative then -n else n, rest.dropWhile Number.isDigit)
    else none
  | [] => none

/-- The digits after a point, if there is one with a digit in front. -/
def splitFraction (cs : List Char) : Option (List Char × List Char) :=
  match cs with
  | '.' :: rest =>
    let digits := rest.takeWhile Number.isDigit
    if digits.isEmpty then none else some (digits, rest.dropWhile Number.isDigit)
  | _ => none

/-- A number without its sign: a zero alone or digits that start with another one, then a
fraction and an exponent if they are there. -/
def readNumber (negative : Bool) (cs : List Char) : Except ReadError (Json × List Char) := do
  let digits := cs.takeWhile Number.isDigit
  let whole :=
    match digits with
    | '0' :: _ => ['0']
    | _ => digits
  if whole.isEmpty then throw .malformed
  let rest := cs.drop whole.length
  let (fraction, rest, hasFraction) :=
    match splitFraction rest with
    | some (digits, rest) => (digits, rest, true)
    | none => ([], rest, false)
  let (exponent, rest, hasExponent) :=
    match splitExponent rest with
    | some (exponent, rest) => (exponent, rest, true)
    | none => (0, rest, false)
  if hasFraction || hasExponent then
    let mantissa := Number.digitsValue (whole ++ fraction)
    return (.float (Number.nearest negative mantissa (exponent - fraction.length)), rest)
  else if Number.digitLimit < whole.length then throw .tooManyDigits
  else
    let n : Int := Number.digitsValue whole
    return (.int (if negative then -n else n), rest)

/-- The text after a word that it starts with. -/
def afterWord? (word : String) (cs : List Char) : Option (List Char) :=
  if word.toList.isPrefixOf cs then some (cs.drop word.length) else none

/-- A value that is neither an array nor an object. -/
def readScalar (cs : List Char) : Except ReadError (Json × List Char) :=
  match cs with
  | [] => .error .malformed
  | '"' :: rest => (readText rest).map fun (key, rest) => (ofRaw key, rest)
  | _ =>
    match afterWord? "null" cs with
    | some rest => .ok (.null, rest)
    | none =>
    match afterWord? "true" cs with
    | some rest => .ok (.bool true, rest)
    | none =>
    match afterWord? "false" cs with
    | some rest => .ok (.bool false, rest)
    | none =>
    match afterWord? "NaN" cs with
    | some rest => .ok (.float Number.notANumber, rest)
    | none =>
    match afterWord? "Infinity" cs with
    | some rest => .ok (.float Number.infinity, rest)
    | none =>
    match afterWord? "-Infinity" cs with
    | some rest => .ok (.float (-Number.infinity), rest)
    | none =>
    match cs with
    | '-' :: rest => readNumber true rest
    | _ => readNumber false cs

mutual

/-- A value at the front of a text.  The first argument bounds the number of steps and the
second the nesting. -/
def readValue : Nat → Nat → List Char → Except ReadError (Json × List Char)
  | 0, _, _ => .error .malformed
  | fuel + 1, depth, '[' :: cs =>
    match depth, skipGap cs with
    | 0, _ => .error .tooDeep
    | _ + 1, ']' :: rest => .ok (.array [], rest)
    | depth + 1, rest => readItems fuel depth [] rest
  | fuel + 1, depth, '\x7b' :: cs =>
    match depth, skipGap cs with
    | 0, _ => .error .tooDeep
    | _ + 1, '\x7d' :: rest => .ok (.object [], rest)
    | depth + 1, rest => readMembers fuel depth [] rest
  | _ + 1, _, cs => readScalar cs

/-- The items of an array up to its closing bracket, at least one. -/
def readItems : Nat → Nat → List Json → List Char → Except ReadError (Json × List Char)
  | 0, _, _, _ => .error .malformed
  | fuel + 1, depth, items, cs => do
    let (item, rest) ← readValue fuel depth cs
    match skipGap rest with
    | ']' :: rest => return (.array (item :: items).reverse, rest)
    | ',' :: rest => readItems fuel depth (item :: items) (skipGap rest)
    | _ => throw .malformed

/-- The members of an object up to its closing brace, at least one. -/
def readMembers : Nat → Nat → List (Key × Json) → List Char →
    Except ReadError (Json × List Char)
  | 0, _, _, _ => .error .malformed
  | fuel + 1, depth, pairs, '"' :: cs => do
    let (key, rest) ← readText cs
    match skipGap rest with
    | ':' :: rest =>
      let (value, rest) ← readValue fuel depth (skipGap rest)
      match skipGap rest with
      | '\x7d' :: rest => return (.object (Members.ofPairs ((key, value) :: pairs).reverse), rest)
      | ',' :: rest => readMembers fuel depth ((key, value) :: pairs) (skipGap rest)
      | _ => throw .malformed
    | _ => throw .malformed
  | _ + 1, _, _, _ => .error .malformed

end

/-- The value that a text writes; white space may stand around it and nothing else. -/
def read (s : String) : Except ReadError Json := do
  let cs := s.toList
  let (value, rest) ← readValue (2 * cs.length + 1) nestingLimit (skipGap cs)
  if (skipGap rest).isEmpty then return value else throw .malformed

end NumericControl.Json
