import NumericControl.Config
import NumericControl.Modal
import NumericControl.Number.Rounded

/-!
# Why a line is refused

A line is refused for a stated cause, at a known line number and usually at one word of it.  The
wording of every cause is in one function.

## Main definitions

* `Cause` : the causes; `Cause.kind` sorts them and `Cause.message` words them.
* `ParseError` : a cause with the place where it arose.
* `Failure` : a refusal, or a value that is of no use where it is needed.
-/

namespace NumericControl

/-- Why a radius fixes no arc. -/
inductive DegenerateArc (α : Type) where
  /-- The radius is zero. -/
  | zeroRadius
  /-- The end points coincide in the plane of the arc. -/
  | coincident
  /-- The end points are further apart than two radii. -/
  | tooShort (radius halfChord : α)
deriving Repr

/-- The kinds of error that a line can have. -/
inductive ErrorKind where
  | malformedWord
  | unrecognizedWord
  | repeatedWord
  | modalGroupViolation
  | axisCommandConflict
  | missingWord
  | degenerateArc
  | unsupportedCommand
deriving DecidableEq, Repr

/-- The name of a kind in reports. -/
def ErrorKind.name : ErrorKind → String
  | .malformedWord => "MalformedWordError"
  | .unrecognizedWord => "UnrecognizedWordError"
  | .repeatedWord => "RepeatedWordError"
  | .modalGroupViolation => "ModalGroupViolationError"
  | .axisCommandConflict => "AxisCommandConflictError"
  | .missingWord => "MissingWordError"
  | .degenerateArc => "DegenerateArcError"
  | .unsupportedCommand => "UnsupportedCommandError"

/-- Why a line is refused. -/
inductive Cause where
  /-- The value of a word is no plain decimal. -/
  | invalidValue
  /-- A work coordinate system beyond the last one is addressed. -/
  | coordinateSystemRange
  /-- A character that starts no word stands where a word should start. -/
  | notALetter
  /-- A word has a letter without a meaning. -/
  | unknownLetter
  /-- Two words other than codes have the same letter. -/
  | repeatedLetter
  /-- Two codes belong to the same modal group. -/
  | groupTwice (group : ModalGroup)
  /-- Two codes claim the axis words. -/
  | axesClaimedTwice
  /-- A word that a code needs is missing. -/
  | missing (letter : Char)
  /-- An arc has neither a radius nor an offset. -/
  | arcWithoutCenter
  /-- A cycle that drills in steps has no positive step. -/
  | peckMissing
  /-- The radius of an arc fixes no arc. -/
  | degenerate (fault : DegenerateArc Float)
  /-- A code has no meaning. -/
  | unsupported
  /-- A code has no meaning in the dialect. -/
  | unsupportedBy (dialect : Dialect)
  /-- The machine lacks an axis; its axis count is given as configured. -/
  | axisUnavailable (axis : Axis) (axisCount : String)
  /-- Data are set in a form that has no meaning. -/
  | unsupportedDataForm
deriving Repr

namespace Cause

/-- The kind of a cause. -/
def kind : Cause → ErrorKind
  | invalidValue | coordinateSystemRange => .malformedWord
  | notALetter | unknownLetter => .unrecognizedWord
  | repeatedLetter => .repeatedWord
  | groupTwice _ => .modalGroupViolation
  | axesClaimedTwice => .axisCommandConflict
  | missing _ | arcWithoutCenter | peckMissing => .missingWord
  | degenerate _ => .degenerateArc
  | unsupported | unsupportedBy _ | axisUnavailable .. | unsupportedDataForm =>
    .unsupportedCommand

/-- The wording of a cause. -/
def message : Cause → String
  | invalidValue => "Invalid word value"
  | coordinateSystemRange => "Coordinate system out of range"
  | notALetter => "Word does not start with a letter"
  | unknownLetter => "Command word not recognized"
  | repeatedLetter => "Command word repeated"
  | groupTwice _ => "Modal group violation"
  | axesClaimedTwice => "Axis command conflict"
  | missing letter => String.singleton letter ++ " word missing"
  | arcWithoutCenter => "Arc needs R or I/J/K words"
  | peckMissing => "Q word missing or out of range"
  | degenerate .zeroRadius => "Arc radius is zero"
  | degenerate .coincident => "Arc radius form needs distinct end points"
  | degenerate (.tooShort radius halfChord) =>
    "Arc radius " ++ Number.generalText radius.abs ++ " is shorter than half the chord "
      ++ Number.generalText halfChord
  | unsupported => "Unsupported command"
  | unsupportedBy dialect => "Unsupported command for " ++ dialect.name ++ " dialect"
  | axisUnavailable axis axisCount =>
    "Axis " ++ String.singleton axis.letter ++ " not available on a " ++ axisCount
      ++ "-axis machine"
  | unsupportedDataForm => "Unsupported G10 form"

/-- The modal group that a cause is about. -/
def group? : Cause → Option ModalGroup
  | groupTwice group => some group
  | _ => none

end Cause

/-- A cause and the place where it arose, as far as it is known. -/
structure ParseError where
  cause : Cause
  lineNumber : Option Nat := none
  lineContent : Option String := none
  word : Option String := none
deriving Repr

namespace ParseError

/-- The cause with the word it arose at. -/
def detail (e : ParseError) : String :=
  match e.word with
  | none | some "" => e.cause.message
  | some word => e.cause.message ++ " (" ++ word ++ ")"

/-- The error as one text. -/
def text (e : ParseError) : String :=
  match e.lineNumber with
  | some n => "Line " ++ toString n ++ ": " ++ e.detail
  | none => e.detail

/-- The error with its place filled in where it is not known yet. -/
def atLine (e : ParseError) (lineNumber : Nat) (lineContent : String) : ParseError :=
  { e with
    lineNumber := e.lineNumber.or (some lineNumber)
    lineContent := e.lineContent.or (some lineContent) }

/-- The word of a radius. -/
def radiusWord (radius : Float) : String :=
  "R" ++ Number.generalText radius

/-- The error of a radius that fixes no arc. -/
def ofRadius (fault : DegenerateArc Float) (radius : Float) : ParseError :=
  { cause := .degenerate fault, word := some (radiusWord radius) }

end ParseError

/-- Why a line has no interpretation. -/
inductive Failure where
  /-- The line is refused. -/
  | refused (error : ParseError)
  /-- A word that has to be a whole number is too large to be a finite number. -/
  | notWhole (fault : Number.NotFinite)
  /-- There is an axis word, and the axis count is a text. -/
  | textualAxisCount
deriving Repr

/-- The wording of a conversion that fails. -/
def notWholeMessage : Number.NotFinite → String
  | .infinity => "cannot convert float infinity to integer"
  | .notANumber => "cannot convert float NaN to integer"

end NumericControl
