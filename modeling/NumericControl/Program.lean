import NumericControl.Interpretation
import NumericControl.Line.Scan

/-!
# Programs read line by line

A program collects the tokens of its lines and carries the modal state from one line to the next.
A refused line leaves it as it was.

## Main definitions

* `Program` : tokens, state and warnings so far.
* `Program.readLine` : the program after one more line.
* `Program.readLines` : the program after several lines.
-/

namespace NumericControl

/-- What is fixed while a program is read. -/
structure Setup where
  config : Config := {}
  operator : Operator := {}

/-- A program as far as it has been read. -/
structure Program where
  state : State := .initial
  tokens : Array Token := #[]
  /-- The last line as it is kept. -/
  lastLine : String := ""
  /-- The words removed from the last line that was interpreted. -/
  stripped : List Word := []
  warnings : Array String := #[]

namespace Program

/-- A program before its first line. -/
def empty : Program := {}

/-- The line that a text writes; a text that writes none is refused at the next line number. -/
def lineOf (p : Program) (text : String) : Except Failure Line :=
  (Line.read text).mapError fun e =>
    .refused (e.atLine (p.state.lineNumber + 1) (Text.trimLineEnd text))

/-- The program after a line with the given yield. -/
def accept (p : Program) (result : LineResult) : Program :=
  { state := result.state
    tokens := p.tokens ++ result.tokens
    lastLine := result.line
    stripped := result.stripped
    warnings := p.warnings ++ result.warnings }

/-- The program after one more line, and whether the line belongs to the program. -/
def readLine (setup : Setup) (p : Program) (text : String) : Except Failure (Program × Bool) :=
  if p.state.programEnd then .ok ({ p with lastLine := Text.trimLineEnd text }, false)
  else do
    let line ← p.lineOf text
    let result ← interpret setup.config setup.operator p.state line
    return (p.accept result, result.handled)

/-- What the operator is asked while a line is read. -/
def questions (setup : Setup) (p : Program) (text : String) : List Question :=
  if p.state.programEnd then []
  else
    match p.lineOf text with
    | .ok line => questionsOf setup.config setup.operator p.state line
    | .error _ => []

/-- The program after lines, up to the first one that is refused, with the number of lines that
belong to it and the refusal. -/
def readLines (setup : Setup) (p : Program) (count : Nat) :
    List String → Program × Nat × Option Failure
  | [] => (p, count, none)
  | text :: rest =>
    match p.readLine setup text with
    | .ok (p, handled) => readLines setup p (if handled then count + 1 else count) rest
    | .error failure => (p, count, some failure)

end Program

end NumericControl
