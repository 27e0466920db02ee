import NumericControl.Execution
import NumericControl.Line.Removal

/-!
# Interpreting a line

The interpretation of one line in one state: tokens, the state after it and the line as it is
kept, or why the line is refused.  The state before is a value, so a refused line changes
nothing.

## Main definitions

* `LineResult` : what an accepted line yields.
* `interpret` : the interpretation of a line.
* `questionsOf` : what the operator is asked meanwhile.
-/

namespace NumericControl

/-- What an accepted line yields. -/
structure LineResult where
  tokens : List Token := []
  state : State
  /-- The line without the words that were removed. -/
  line : String
  /-- Whether the line belongs to the program. -/
  handled : Bool := true
  warnings : List String := []
  stripped : List Word := []

/-- The context in which the words of a line are read. -/
def blockContext (config : Config) (operator : Operator) (state : State) (line : Line) :
    BlockContext :=
  ⟨config, operator, state.lineNumber + 1, line.source⟩

/-- The execution of a line with words. -/
def executionOf (config : Config) (operator : Operator) (state : State) (line : Line) :
    Except Failure Execution := do
  let ctx := blockContext config operator state line
  let (block, owner) ← Block.ofWords ctx line.words
  return {
    toBlockContext := ctx
    state
    codes := block.code?
    word? := block.value?
    owner
    message := line.message?
    stripped := block.stripped }

/-- The warning about a tool that the operator does not know. -/
def toolWarning (tool : Int) : String :=
  "Tool " ++ toString tool ++ " not associated with a profile"

/-- The warnings about the tools that a line asks for. -/
def toolWarnings (operator : Operator) (tools : List Int) : List String :=
  match operator.knows? with
  | none => []
  | some knows => (tools.filter fun tool => !knows tool).map toolWarning

/-- The interpretation of a line with words. -/
def interpretBlock (config : Config) (operator : Operator) (state : State) (line : Line) :
    Except Failure LineResult := do
  let ex ← executionOf config operator state line
  let (tokens, next, tools) ← ex.run
  let kept :=
    if ex.stripped.isEmpty then line.source else removeWords line.source ex.stripped
  return {
    tokens
    state := next
    line := String.ofList kept
    warnings := toolWarnings operator tools
    stripped := ex.stripped }

/-- The interpretation of a line.  Lines after the program end, blank lines and lines for the
controller do not belong to the program; the second demarcation ends it. -/
def interpret (config : Config) (operator : Operator) (state : State) (line : Line) :
    Except Failure LineResult :=
  if state.programEnd then .ok { state, line := line.text, handled := false }
  else
    match line.content with
    | .blank | .passThrough => .ok { state, line := line.text, handled := false }
    | .comment => .ok { state, line := line.text }
    | .demarcation =>
      let count := state.demarcations + 1
      .ok
        { state := { state with
            demarcations := count
            programEnd := state.programEnd || decide (2 ≤ count) }
          line := line.text }
    | .block _ => interpretBlock config operator state line

/-- The questions about the tools that an accepted line asks for. -/
def toolQuestions (operator : Operator) (ex : Execution) : List Question :=
  match operator.knows?, ex.run with
  | some _, .ok (_, _, tools) => tools.map .tool
  | _, _ => []

/-- What the operator is asked while a line is interpreted, in order. -/
def questionsOf (config : Config) (operator : Operator) (state : State) (line : Line) :
    List Question :=
  match state.programEnd, line.content with
  | false, .block _ =>
    let ctx := blockContext config operator state line
    Block.questions ctx {} line.words ++
      match executionOf config operator state line with
      | .ok ex => toolQuestions operator ex
      | .error _ => []
  | _, _ => []

end NumericControl
