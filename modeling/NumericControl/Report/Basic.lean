import NumericControl.Program

/-!
# Validation reports

A program is validated by reading all of its lines; a refused line is recorded and the reading
goes on with the state before it.  The report counts the refusals by kind, tells which modes are
in use that are easily overlooked, and lists the lines concerned.

## Main definitions

* `Tally` : counts by name, in the order of first appearance.
* `Hazard` : modes that are easily overlooked.
* `Report`, `validate` : the report on the lines of a program.
-/

namespace NumericControl

/-- Counts by name, in the order in which the names first came. -/
abbrev Tally := List (String × Nat)

namespace Tally

/-- The tally with one more of a name. -/
def add (name : String) : Tally → Tally
  | [] => [(name, 1)]
  | (n, count) :: rest => if n = name then (n, count + 1) :: rest else (n, count) :: add name rest

/-- The sum of the counts. -/
def total : Tally → Nat
  | [] => 0
  | (_, count) :: rest => count + total rest

/-- The entries with the highest counts, at most five; of equal counts the first comes first. -/
def highest (t : Tally) : Tally :=
  (t.mergeSort fun a b => decide (b.2 ≤ a.2)).take 5

theorem total_add (name : String) (t : Tally) : (add name t).total = t.total + 1 := by
  induction t with
  | nil => simp [add, total]
  | cons p rest ih =>
    obtain ⟨n, count⟩ := p
    by_cases h : n = name <;> simp [add, total, h, ih] <;> omega

end Tally

/-- Modes and offsets that are easily overlooked. -/
inductive Hazard where
  | incremental
  | inverseTime
  | offsets
  | inches
  | scaling
deriving DecidableEq, Repr

/-- The wording of a hazard. -/
def Hazard.text : Hazard → String
  | incremental => "G91 (incremental distance mode)"
  | inverseTime => "G93 (inverse time feed mode)"
  | offsets => "G92 offsets"
  | inches => "G20 (inch units)"
  | scaling => "G51 (axis scaling)"

/-- The hazard that a token brings. -/
def Token.hazard? (token : Token) : Option Hazard :=
  match token.body with
  | .distance .incremental => some .incremental
  | .units .imperial => some .inches
  | .scaling _ => if token.command = .g51 then some .scaling else none
  | .coordinates .. => if token.command = .g92 then some .offsets else none
  | .plain =>
    match token.command with
    | .g93 => some .inverseTime
    | .g92 | .g92_1 | .g92_2 | .g92_3 => some .offsets
    | _ => none
  | _ => none

/-- The hazards of tokens that are not known yet, each of them once. -/
def newHazards (known : List Hazard) : List Token → List Hazard
  | [] => []
  | token :: tokens =>
    match token.hazard? with
    | some hazard =>
      if known.contains hazard then newHazards known tokens
      else hazard :: newHazards (known ++ [hazard]) tokens
    | none => newHazards known tokens

/-- What there is to say about a line. -/
structure LineIssue where
  number : Nat
  line : String
  issues : List String
deriving Repr

/-- The report on a program. -/
structure Report where
  dialect : Dialect
  totalLines : Nat := 0
  programLines : Nat := 0
  /-- The refused lines by the kind of their error. -/
  errors : Tally := []
  /-- The words of the unsupported commands. -/
  unsupported : Tally := []
  hazards : List Hazard := []
  warnings : List String := []
  programEnd : Bool := false
  /-- How many lines there is something to say about. -/
  issueCount : Nat := 0
  /-- The first of these lines. -/
  issues : Array LineIssue := #[]
  /-- Whether there are more of them than are listed. -/
  isTruncated : Bool := false

/-- How many lines are listed at most. -/
def issueLimit : Nat := 200

namespace Report

/-- How many lines were refused. -/
def errorCount (r : Report) : Nat :=
  r.errors.total

/-- The report with what there is to say about a line, which is listed if there is room. -/
def record (r : Report) (number : Nat) (text : String) (issues : List String) : Report :=
  if issues.isEmpty then r
  else
    let counted := { r with issueCount := r.issueCount + 1 }
    if r.issues.size < issueLimit then
      { counted with issues := r.issues.push ⟨number, Text.trim text, issues⟩ }
    else { counted with isTruncated := true }

/-- The tally of unsupported commands after one more error. -/
def unsupportedAfter (tally : Tally) (e : ParseError) : Tally :=
  match e.cause.kind, e.word with
  | .unsupportedCommand, some word => if word = "" then tally else tally.add word
  | _, _ => tally

/-- The report after one more line that was refused. -/
def refuse (r : Report) (text : String) (e : ParseError) : Report :=
  let number := r.totalLines + 1
  { r with
    totalLines := number
    errors := r.errors.add e.cause.kind.name
    unsupported := unsupportedAfter r.unsupported e }.record number text [e.detail]

/-- The report after one more line that was accepted. -/
def accept (r : Report) (text : String) (handled : Bool) (tokens : List Token) : Report :=
  let number := r.totalLines + 1
  let hazards := newHazards r.hazards tokens
  { r with
    totalLines := number
    programLines := if handled then r.programLines + 1 else r.programLines
    hazards := r.hazards ++ hazards }.record number text
      (hazards.map fun (hazard : Hazard) => "Modal hazard: " ++ hazard.text)

end Report

/-- The report on lines that follow a program, and the program after them. -/
def validateFrom (config : Config) (program : Program) (report : Report) :
    List String → Except Failure (Program × Report)
  | [] => .ok (program, report)
  | text :: rest =>
    match program.readLine ⟨config, {}⟩ text with
    | .ok (next, handled) =>
      let tokens := (next.tokens.extract program.tokens.size next.tokens.size).toList
      validateFrom config next (report.accept text handled tokens) rest
    | .error (.refused e) => validateFrom config program (report.refuse text e) rest
    | .error failure => .error failure

/-- The report on the lines of a program. -/
def validate (config : Config) (lines : List String) : Except Failure Report := do
  let (program, report) ← validateFrom config .empty { dialect := config.dialect } lines
  return { report with
    warnings := program.warnings.toList
    programEnd := program.state.programEnd }

end NumericControl
