import NumericControl.Number.Numeral

/-!
# Program lines

A program line is blank, a comment, a command for the controller, a program demarcation, or a
block of words with comments between them.  A word is a letter with a value; it remembers where
it stands in its line.

## Main definitions

* `Word` : a word with its span.
* `Item` : a word or a comment of a block.
* `Line` : a line with what it holds.
-/

namespace NumericControl

/-- A word: a capital letter and its value as written, without the white space inside. -/
structure Word where
  letter : Char
  digits : List Char
  value : Float
  /-- Where the letter stands, counted in characters. -/
  start : Nat
  /-- Where the value ends. -/
  stop : Nat

/-- The word as written, without the white space inside. -/
def Word.text (w : Word) : String :=
  String.ofList (w.letter :: w.digits)

/-- What a block is made of. -/
inductive Item where
  | word (w : Word)
  | comment (text : List Char)

/-- What a line holds. -/
inductive Content where
  | blank
  | comment
  /-- A command that the controller takes without interpretation. -/
  | passThrough
  | demarcation
  | block (items : List Item)

/-- A line as written, without its line end and without byte order marks, and what it holds. -/
structure Line where
  source : List Char
  content : Content

namespace Item

/-- The word of an item. -/
def word? : Item → Option Word
  | .word w => some w
  | .comment _ => none

/-- The comment of an item. -/
def comment? : Item → Option (List Char)
  | .word _ => none
  | .comment text => some text

end Item

namespace Content

/-- The items of a block. -/
def items : Content → List Item
  | .block items => items
  | _ => []

/-- The name of what a line holds. -/
def kindName : Content → String
  | .blank => "empty"
  | .comment => "comment"
  | .passThrough => "pass_through"
  | .demarcation => "demarcation"
  | .block _ => "words"

end Content

/-- A letter of an operator message mark, in either case; the long s counts as an S. -/
def matchesLetter (capital c : Char) : Bool :=
  c.toUpper == capital || (capital == 'S' && c.toNat == 0x17F)

/-- The message for the operator that a comment holds: what follows the mark `MSG,`. -/
def messageOf? : List Char → Option (List Char)
  | m :: s :: g :: ',' :: text =>
    if matchesLetter 'M' m && matchesLetter 'S' s && matchesLetter 'G' g then
      some (Text.trimChars text)
    else none
  | _ => none

namespace Line

/-- The words of a line, in order. -/
def words (line : Line) : List Word :=
  line.content.items.filterMap Item.word?

/-- The comments of a line, in order. -/
def comments (line : Line) : List (List Char) :=
  line.content.items.filterMap Item.comment?

/-- The message of the first comment that is one. -/
def message? (line : Line) : Option String :=
  (line.comments.findSome? messageOf?).map String.ofList

/-- The line as a text. -/
def text (line : Line) : String :=
  String.ofList line.source

end Line

end NumericControl
