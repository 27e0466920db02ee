import NumericControl.Config
import NumericControl.Json.Display
import NumericControl.Number.Numeral
import NumericControl.Text.LetterCase

/-!
# Checking given values

Values from documents, settings and options are checked before an interpreter is built from them.
A whole number may be given as a number, of which the fraction is dropped, as a truth value or as
a text; a choice may be given in any case and with white space around it.

## Main definitions

* `CheckError` : why a value is not admitted.
* `Check.wholePart` : the whole number that a value gives.
* `Check.axisCount`, `Check.arcResolution`, `Check.lineIndex`, `Check.choice` : the checks.
* `Config.withAxisCount` : a configuration for a machine with so many axes.
-/

namespace NumericControl

/-- Why a value is rejected. -/
inductive Rejection where
  | notWhole
  | negative
  | notText
  /-- The value is none of the choices. -/
  | notAmong (choices : List String)

/-- The wording of a rejection. -/
def Rejection.reason : Rejection → String
  | notWhole => "must be integer"
  | negative => "must be non-negative"
  | notText => "must be a string"
  | notAmong choices => "must be one of " ++ (Json.array (choices.map .text)).display

/-- Why a value is not admitted. -/
inductive CheckError where
  /-- The value of a parameter is of the wrong kind. -/
  | rejected (parameter : String) (value : Json) (rejection : Rejection)
  /-- A whole number is out of its bounds, which are part of the range. -/
  | outOfRange (parameter : String) (value low high : Int)
  /-- The value is infinite, so it has no whole part. -/
  | infinite

/-- The wording of an error. -/
def CheckError.message : CheckError → String
  | rejected parameter value rejection =>
    parameter ++ "=" ++ value.display ++ " rejected: " ++ rejection.reason
  | outOfRange parameter value low high =>
    parameter ++ " " ++ toString value ++ " out of range [" ++ toString low ++ ", "
      ++ toString high ++ "]"
  | infinite => "cannot convert float infinity to integer"

namespace Check

/-- The fewest and the most axes of a machine. -/
def axisCountRange : Int × Int := (3, 6)

/-- The fewest and the most chords of an arc. -/
def arcResolutionRange : Int × Int := (2, 10000)

/-- The whole number that a value gives. -/
def wholePart (parameter : String) (value : Json) : Except CheckError Int :=
  match value with
  | .bool b => .ok (if b then 1 else 0)
  | .int n => .ok n
  | .float x =>
    match Number.truncate x with
    | .ok n => .ok n
    | .error .infinity => .error .infinite
    | .error .notANumber => .error (.rejected parameter value .notWhole)
  | .text s =>
    match Number.wholeNumber? s with
    | some n => .ok n
    | none => .error (.rejected parameter value .notWhole)
  | _ => .error (.rejected parameter value .notWhole)

/-- A whole number between two bounds. -/
def within (parameter : String) (range : Int × Int) (n : Int) : Except CheckError Int :=
  if range.1 ≤ n ∧ n ≤ range.2 then .ok n
  else .error (.outOfRange parameter n range.1 range.2)

/-- A number of axes.  A truth value is none. -/
def axisCount (value : Json) : Except CheckError Int :=
  match value with
  | .bool _ => .error (.rejected "axis_count" value .notWhole)
  | _ => do within "axis_count" axisCountRange (← wholePart "axis_count" value)

/-- A number of chords. -/
def arcResolution (value : Json) : Except CheckError Int := do
  within "arc_resolution" arcResolutionRange (← wholePart "arc_resolution" value)

/-- The index of a line, at most `last?` if that is given. -/
def lineIndex (last? : Option Int) (value : Json) : Except CheckError Int := do
  let n ← wholePart "line_index" value
  if n < 0 then throw (.rejected "line_index" (.int n) .negative)
  match last? with
  | some last => if last < n then throw (.outOfRange "line_index" n 0 last) else return n
  | none => return n

/-- One of several choices, in lower case. -/
def choice (parameter : String) (choices : List String) (value : Json) :
    Except CheckError String :=
  let other : Except CheckError String :=
    .error (.rejected parameter value
      (.notAmong (choices.mergeSort fun a b => decide (a ≤ b))))
  match value with
  | .text s =>
    let normal := Text.lower (Text.trim s)
    if choices.contains normal then .ok normal else other
  | .brokenText _ => other
  | _ => .error (.rejected parameter value .notText)

/-- How many axes come before a count that need not be whole. -/
def axesBelow (value : Json) (whole : Int) : Nat :=
  match value with
  | .float x => if Float.ofInt whole < x then whole.toNat + 1 else whole.toNat
  | _ => whole.toNat

end Check

/-- Whether a value is a text. -/
def Json.isText : Json → Bool
  | .text _ => true
  | _ => false

/-- A configuration for a machine with the given number of axes, which is kept as it is given. -/
def Config.withAxisCount (config : Config) (value : Json) : Except CheckError Config := do
  let whole ← Check.axisCount value
  return { config with
    axisCount := Check.axesBelow value whole
    axisCountText := match value with
      | .text s => s
      | _ => value.display
    axisCountIsText := value.isText }

end NumericControl
