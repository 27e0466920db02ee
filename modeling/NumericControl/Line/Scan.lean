import NumericControl.Failure
import NumericControl.Line.Basic

/-!
# Reading a line

A block is read from left to right.  A letter opens a word; digits, points and signs extend the
open word and white space does not close it, so a value may hold blanks.  A comment runs from an
opening parenthesis to the first closing one or to the end of the line, and a semicolon outside
of comments ends the block.

## Main definitions

* `scan` : the items of a block.
* `Line.read` : the line that a text writes, or why it writes none.
-/

namespace NumericControl

/-- A word whose value is still being read, its digits in reverse. -/
structure OpenWord where
  letter : Char
  start : Nat
  digits : List Char
  stop : Nat

/-- Where the scan stands. -/
inductive ScanMode where
  /-- No word is open. -/
  | between
  | word (w : OpenWord)
  /-- Inside a comment, its text so far in reverse. -/
  | comment (text : List Char)

/-- Why a block is not read, and at which text. -/
structure ScanError where
  cause : Cause
  word : List Char

/-- The characters of which values are made. -/
def isValueChar (c : Char) : Bool :=
  Number.isDigit c || c == '.' || c == '+' || c == '-'

/-- The open word with its value, if it is a plain decimal. -/
def OpenWord.close (w : OpenWord) : Except ScanError Word :=
  let digits := w.digits.reverse
  match Number.plain? digits with
  | some p => .ok ⟨w.letter, digits, p.value, w.start, w.stop⟩
  | none => .error ⟨.invalidValue, w.letter :: digits⟩

/-- The items that are complete when the scan leaves a mode. -/
def ScanMode.close : ScanMode → Except ScanError (List Item)
  | .between => .ok []
  | .word w => w.close.map fun word => [.word word]
  | .comment text => .ok [.comment text.reverse]

/-- The items of a block from the character with the number `pos` on. -/
def scan (pos : Nat) (mode : ScanMode) : List Char → Except ScanError (List Item)
  | [] => mode.close
  | c :: cs =>
    match mode with
    | .comment text =>
      if c == ')' then do
        return (← mode.close) ++ (← scan (pos + 1) .between cs)
      else scan (pos + 1) (.comment (c :: text)) cs
    | _ =>
      if c == ';' then mode.close
      else if c == '(' then do
        return (← mode.close) ++ (← scan (pos + 1) (.comment []) cs)
      else if isValueChar c then
        match mode with
        | .word w =>
          scan (pos + 1) (.word { w with digits := c :: w.digits, stop := pos + 1 }) cs
        | _ => .error ⟨.notALetter, [c]⟩
      else if Text.isBlank c then scan (pos + 1) mode cs
      else if c.isAlpha then do
        return (← mode.close) ++ (← scan (pos + 1) (.word ⟨c.toUpper, pos, [], pos + 1⟩) cs)
      else .error ⟨.notALetter, [c]⟩

namespace Line

/-- The first characters of lines that go to the controller as they are. -/
def passThroughMarks : List Char := ['$', '!', '~', '?']

/-- The byte order mark. -/
def byteOrderMark : Char := Char.ofNat 0xFEFF

/-- A line without its line end and without byte order marks. -/
def sourceOf (text : String) : List Char :=
  (Text.dropTailWhile Text.isLineEnd text.toList).filter (· != byteOrderMark)

/-- The line with a given source. -/
def ofSource (source : List Char) : Except ScanError Line :=
  match source.dropWhile Text.isBlank with
  | [] => .ok ⟨source, .blank⟩
  | c :: _ =>
    if c == ';' then .ok ⟨source, .comment⟩
    else if passThroughMarks.contains c then .ok ⟨source, .passThrough⟩
    else if c == '%' then .ok ⟨source, .demarcation⟩
    else (scan 0 .between source).map fun items => ⟨source, .block items⟩

/-- The line that a text writes. -/
def read (text : String) : Except ParseError Line :=
  let source := sourceOf text
  match ofSource source with
  | .ok line => .ok line
  | .error e =>
    .error
      { cause := e.cause
        lineContent := some (String.ofList source)
        word := some (String.ofList e.word) }

end Line

end NumericControl
