import NumericControl.Code
import NumericControl.Failure
import NumericControl.Line.Basic

/-!
# Blocks

A block is what the words of a line mean together: the codes, the values of the other words, and
the words that were removed.  The words are taken one by one; a code is refused if its group is
already there or if it claims the axis words a second time, a value if its letter is already
there.

## Main definitions

* `Block` : codes, values and removed words.
* `Block.add` : the block with one more word.
* `Block.ofWords` : the block of the words of a line.
* `Block.owner` : the command that owns the axis words.
* `stripQuestions` : the questions put to the operator on the way.
-/

namespace NumericControl

/-- The meaning of the words of a line. -/
structure Block where
  codes : List Code := []
  values : List (Char × Float) := []
  stripped : List Word := []

/-- What the reading of a block depends on beside the words. -/
structure BlockContext where
  config : Config
  operator : Operator
  lineNumber : Nat
  source : List Char

namespace Block

/-- The value of a letter. -/
def value? (b : Block) (letter : Char) : Option Float :=
  b.values.lookup letter

/-- The code of a group. -/
def code? (b : Block) (group : ModalGroup) : Option Code :=
  b.codes.find? (·.group == group)

/-- Whether the block has a code of a group. -/
def hasGroup (b : Block) (group : ModalGroup) : Bool :=
  b.codes.any (·.group == group)

/-- The claim on the axis words that the codes lay. -/
def claim? (b : Block) : Option AxisOwner :=
  b.codes.findSome? Code.claim?

/-- The motion code. -/
def motion? (b : Block) : Option MotionMode :=
  b.codes.findSome? fun | .motion m => some m | _ => none

/-- The code that acts on positions or offsets. -/
def positioning? (b : Block) : Option Positioning :=
  b.codes.findSome? fun | .positioning p => some p | _ => none

/-- The values of the axis words. -/
def axisWords (b : Block) : PerAxis (Option Float) :=
  .ofFn fun axis => b.value? axis.letter

end Block

namespace BlockContext

/-- A refusal at a word of the line. -/
def refuse (ctx : BlockContext) (cause : Cause) (word : String) : Failure :=
  .refused
    { cause
      lineNumber := some ctx.lineNumber
      lineContent := some (String.ofList ctx.source)
      word := some word }

/-- Whether an M code is removed from the line; under the prompting policy the operator says
so. -/
def strips (ctx : BlockContext) (number : Int) : Bool :=
  match ctx.config.policy number with
  | .execute => false
  | .strip => true
  | .prompt =>
    match ctx.operator.strips? with
    | some strips => strips ("M" ++ toString number)
    | none => false

/-- The question put to the operator about an M code, if there is one to put. -/
def question? (ctx : BlockContext) (number : Int) : Option Question :=
  match ctx.config.policy number, ctx.operator.strips? with
  | .prompt, some _ => some (.strip ("M" ++ toString number))
  | _, _ => none

end BlockContext

/-- The letters of the words that set no axis and no offset. -/
def valueLetters : List Char := "DEFHLNPQRST".toList

/-- The letters of the offsets of an arc center. -/
def offsetLetters : List Char := ['I', 'J', 'K']

namespace Block

/-- The block with one more code. -/
def addCode (ctx : BlockContext) (b : Block) (word : Word) (code : Code) :
    Except Failure Block :=
  if !code.allowedIn ctx.config.dialect then
    .error (ctx.refuse (.unsupportedBy ctx.config.dialect) word.text)
  else if b.hasGroup code.group then
    .error (ctx.refuse (.groupTwice code.group) word.text)
  else if code.claim?.isSome && b.claim?.isSome then
    .error (ctx.refuse .axesClaimedTwice word.text)
  else .ok { b with codes := b.codes ++ [code] }

/-- The block with one more G word. -/
def addG (ctx : BlockContext) (b : Block) (word : Word) : Except Failure Block := do
  let (whole, digit) ← (splitCode word.value).mapError .notWhole
  match Code.ofG? whole digit with
  | some code => b.addCode ctx word code
  | none => throw (ctx.refuse .unsupported word.text)

/-- The block with one more M word, of which the digit after the point is ignored. -/
def addM (ctx : BlockContext) (b : Block) (word : Word) : Except Failure Block := do
  let (number, _) ← (splitCode word.value).mapError .notWhole
  if isRemovable number && ctx.strips number then
    return { b with stripped := b.stripped ++ [word] }
  b.addCode ctx word (.ofM number)

/-- Why a word other than a code is refused, whatever else is on the line. -/
def letterFault? (config : Config) (letter : Char) : Option Cause :=
  match Axis.ofLetter? letter with
  | some axis =>
    if axis.index < config.axisCount then none
    else some (.axisUnavailable axis config.axisCountText)
  | none =>
    if offsetLetters.contains letter || valueLetters.contains letter then none
    else some .unknownLetter

/-- The block with one more word that is no code. -/
def addValue (ctx : BlockContext) (b : Block) (word : Word) : Except Failure Block :=
  if (b.value? word.letter).isSome then .error (ctx.refuse .repeatedLetter word.text)
  else if ctx.config.axisCountIsText && (Axis.ofLetter? word.letter).isSome then
    .error .textualAxisCount
  else
    match letterFault? ctx.config word.letter with
    | some cause => .error (ctx.refuse cause word.text)
    | none => .ok { b with values := b.values ++ [(word.letter, word.value)] }

/-- The block with one more word. -/
def add (ctx : BlockContext) (b : Block) (word : Word) : Except Failure Block :=
  if word.letter == 'G' then b.addG ctx word
  else if word.letter == 'M' then b.addM ctx word
  else b.addValue ctx word

/-- The block with more words. -/
def addAll (ctx : BlockContext) (b : Block) : List Word → Except Failure Block
  | [] => .ok b
  | word :: words => do addAll ctx (← b.add ctx word) words

/-- Whether a move in machine coordinates cannot stand beside the other codes: they claim the
axis words for something else than a straight move. -/
def machineConflict (b : Block) : Bool :=
  match b.claim? with
  | some .toolLength | some .scaling => true
  | some .motion => b.motion? != some .seek && b.motion? != some .linear
  | _ => false

/-- The command that owns the axis words.  Without a claim they continue the motion in force,
unless that is cancelled on the same line. -/
def owner (ctx : BlockContext) (b : Block) : Except Failure (Option AxisOwner) :=
  if b.positioning? = some .machine then
    if b.machineConflict then .error (ctx.refuse .axesClaimedTwice "G53")
    else .ok (some .nonModal)
  else if b.claim?.isNone && !b.axisWords.given.isEmpty && b.motion?.isNone then
    .ok (some .motion)
  else .ok b.claim?

/-- The block of the words of a line and the owner of its axis words. -/
def ofWords (ctx : BlockContext) (words : List Word) :
    Except Failure (Block × Option AxisOwner) := do
  let b ← addAll ctx {} words
  return (b, ← b.owner ctx)

/-- The questions put to the operator while words are added, up to the first word that is
refused. -/
def questions (ctx : BlockContext) (b : Block) : List Word → List Question
  | [] => []
  | word :: words =>
    let here :=
      if word.letter == 'M' then
        match splitCode word.value with
        | .ok (number, _) => if isRemovable number then (ctx.question? number).toList else []
        | .error _ => []
      else []
    match b.add ctx word with
    | .ok b => here ++ questions ctx b words
    | .error _ => here

end Block

end NumericControl
