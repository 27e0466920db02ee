import NumericControl.Config
import NumericControl.Number.Numeral

/-!
# Command line options

The words of a command line as options and one program file.  A long option may be shortened as
long as it stays unambiguous, and its value may follow in the next word or behind an equals sign.
Short options may share a word.  After a word of two dashes no word is an option, and two dashes
in the place of a value are none.

## Main definitions

* `Options` : the options of a run.
* `Stop` : why there is no run.
* `CommandWord`, `classify` : the words by their form.
* `Options.read` : the options of a command line.
-/

namespace NumericControl

/-- The value of an option that takes a whole number. -/
inductive CountValue where
  | number (n : Int)
  /-- Two dashes stand in the place of the value. -/
  | nothing
deriving DecidableEq, Repr

/-- The options of a run. -/
structure Options where
  file : String := ""
  dialect? : Option Dialect := none
  axisCount? : Option CountValue := none
  arcResolution? : Option CountValue := none
  continueOnError : Bool := false
  exportTokens? : Option String := none
  validate : Bool := false
  toolpath : Bool := false
  settings? : Option String := none
  logDirectory? : Option String := none
  verbosity : Nat := 0
deriving Repr

/-- Why there is no run. -/
inductive Stop where
  /-- The words are no command line. -/
  | usage
  /-- The version is asked for. -/
  | version
  /-- Help is asked for. -/
  | help
deriving DecidableEq, Repr

/-- The options by name. -/
inductive OptionName where
  | dialect
  | axisCount
  | arcResolution
  | continueOnError
  | exportTokens
  | validate
  | toolpath
  | settings
  | logDirectory
  | verbose
  | version
  | help
deriving DecidableEq, Repr

namespace OptionName

/-- The long options. -/
def long : List (String × OptionName) :=
  [("--help", help), ("--dialect", dialect), ("--axis-count", axisCount),
    ("--arc-resolution", arcResolution), ("--continue-on-error", continueOnError),
    ("--export-tokens", exportTokens), ("--validate", validate), ("--toolpath", toolpath),
    ("--settings", settings), ("--log-dir", logDirectory), ("--verbose", verbose),
    ("--version", version)]

/-- The option of a letter. -/
def ofLetter? (letter : Char) : Option OptionName :=
  if letter = 'v' then some verbose
  else if letter = 'h' then some help
  else none

/-- Whether an option has a value. -/
def takesValue : OptionName → Bool
  | dialect | axisCount | arcResolution | exportTokens | settings | logDirectory => true
  | _ => false

end OptionName

/-- The words of a command line by their form. -/
inductive CommandWord where
  /-- A file or the value of an option. -/
  | plain (text : String)
  /-- Two dashes, after which no word is an option. -/
  | dashes
  /-- A long option, with the value in the same word if there is one. -/
  | long (name : OptionName) (value? : Option String)
  /-- A short option with what follows it in the same word, if something does. -/
  | short (name : OptionName) (rest? : Option (List Char))
  /-- A word that looks like an option and is none. -/
  | unknown
deriving Repr

/-! ### The form of a word -/

/-- A text before and after its first equals sign. -/
def splitValue (cs : List Char) : String × Option String :=
  match cs.dropWhile (· != '=') with
  | [] => (String.ofList cs, none)
  | _ :: value => (String.ofList (cs.takeWhile (· != '=')), some (String.ofList value))

/-- A word without the line feed that ends it. -/
def withoutLineFeed (cs : List Char) : List Char :=
  if cs.getLast? == some '\n' then cs.dropLast else cs

/-- Whether a word is a number below zero, a line feed behind it aside. -/
def isNegativeNumber (word : List Char) : Bool :=
  match withoutLineFeed word with
  | '-' :: cs =>
    let isDigit (c : Char) : Bool := (Text.decimalDigit? c).isSome
    match cs.dropWhile isDigit with
    | [] => !cs.isEmpty
    | '.' :: fraction => !fraction.isEmpty && fraction.all isDigit
    | _ => false
  | _ => false

/-- The long options that a word of two dashes and more may stand for. -/
def longMatches (name : String) : List OptionName :=
  match OptionName.long.lookup name with
  | some exact => [exact]
  | none => (OptionName.long.filter fun p => name.toList.isPrefixOf p.1.toList).map (·.2)

/-- The form of a word that is no option. -/
def plainOrUnknown (word : String) : CommandWord :=
  if isNegativeNumber word.toList || word.contains ' ' then .plain word else .unknown

/-- What follows a short option in its word; an equals sign directly behind it does not count. -/
def afterShort : List Char → Option (List Char)
  | [] => none
  | '=' :: rest => some rest
  | rest => some rest

/-- The form of a word before any word of two dashes. -/
def classifyWord (word : String) : Except Stop CommandWord :=
  match word.toList with
  | ['-', '-'] => .ok .dashes
  | '-' :: '-' :: _ =>
    let (name, value?) := splitValue word.toList
    match longMatches name with
    | [] => .ok (plainOrUnknown word)
    | [option] => .ok (.long option value?)
    | _ => .error .usage
  | '-' :: letter :: rest =>
    match OptionName.ofLetter? letter with
    | some option => .ok (.short option (afterShort rest))
    | none => .ok (plainOrUnknown word)
  | _ => .ok (.plain word)

/-- The words of a command line by their form. -/
def classify : List String → Except Stop (List CommandWord)
  | [] => .ok []
  | word :: words => do
    match ← classifyWord word with
    | .dashes => return .dashes :: words.map .plain
    | form => return form :: (← classify words)

/-! ### The effect of options -/

/-- What was read so far. -/
structure ReadState where
  options : Options := {}
  hasFile : Bool := false
  /-- Whether a word had no place. -/
  hasExtra : Bool := false

/-- The effect of an option without a value. -/
def Options.setFlag (o : Options) : OptionName → Except Stop Options
  | .continueOnError => .ok { o with continueOnError := true }
  | .validate => .ok { o with validate := true }
  | .toolpath => .ok { o with toolpath := true }
  | .verbose => .ok { o with verbosity := o.verbosity + 1 }
  | .version => .error .version
  | .help => .error .help
  | _ => .error .usage

/-- A whole number on the command line. -/
def wholeOption (value : String) : Except Stop CountValue :=
  match Number.wholeNumber? value with
  | some n => .ok (.number n)
  | none => .error .usage

/-- The effect of an option with a value. -/
def Options.setText (o : Options) (name : OptionName) (value : String) : Except Stop Options :=
  match name with
  | .dialect =>
    match Dialect.ofName? value with
    | some dialect => .ok { o with dialect? := some dialect }
    | none => .error .usage
  | .axisCount => do return { o with axisCount? := some (← wholeOption value) }
  | .arcResolution => do return { o with arcResolution? := some (← wholeOption value) }
  | .exportTokens => .ok { o with exportTokens? := some value }
  | .settings => .ok { o with settings? := some value }
  | .logDirectory => .ok { o with logDirectory? := some value }
  | _ => .error .usage

/-- The effect of an option with two dashes in the place of its value: a text counts as not given,
and no number is one that is refused later. -/
def Options.setNothing (o : Options) : OptionName → Except Stop Options
  | .dialect => .ok { o with dialect? := none }
  | .axisCount => .ok { o with axisCount? := some .nothing }
  | .arcResolution => .ok { o with arcResolution? := some .nothing }
  | .exportTokens => .ok { o with exportTokens? := none }
  | .settings => .ok { o with settings? := none }
  | .logDirectory => .ok { o with logDirectory? := none }
  | _ => .error .usage

/-- The effect of an option with what stands in the place of its value. -/
def Options.setValue (o : Options) (name : OptionName) (value : String) : Except Stop Options :=
  if value = "--" then o.setNothing name else o.setText name value

/-- The short options after the first one of a word, none of which takes a value. -/
def moreShortOptions : List Char → Except Stop (List OptionName)
  | [] => .ok []
  | letter :: rest =>
    match OptionName.ofLetter? letter with
    | some next => (moreShortOptions rest).map (next :: ·)
    | none => .error .usage

/-- The short options that share a word.  Behind an equals sign there has to be one more. -/
def shortOptions (name : OptionName) : Option (List Char) → Except Stop (List OptionName)
  | none => .ok [name]
  | some [] => .error .usage
  | some rest => (moreShortOptions rest).map (name :: ·)

/-- What was read after a word that is no option: the first one is the file. -/
def ReadState.takeFile (s : ReadState) (text : String) : ReadState :=
  if s.hasFile then { s with hasExtra := true }
  else { s with options := { s.options with file := text }, hasFile := true }

/-- What was read after the words of a command line.  Two dashes have a place before and behind
the file. -/
def readWords (s : ReadState) : List CommandWord → Except Stop ReadState
  | [] => .ok s
  | .plain text :: .dashes :: words => readWords (s.takeFile text) words
  | .plain text :: words => readWords (s.takeFile text) words
  | .dashes :: .plain text :: words => readWords (s.takeFile text) words
  | .dashes :: words => readWords { s with hasExtra := true } words
  | .unknown :: words => readWords { s with hasExtra := true } words
  | .short name rest? :: words => do
    let options ← (← shortOptions name rest?).foldlM Options.setFlag s.options
    readWords { s with options } words
  | .long name (some value) :: words => do
    readWords { s with options := ← s.options.setValue name value } words
  | .long name none :: .plain value :: words =>
    if name.takesValue then do
      readWords { s with options := ← s.options.setValue name value } words
    else do
      readWords { s with options := ← s.options.setFlag name } (.plain value :: words)
  | .long name none :: words => do
    readWords { s with options := ← s.options.setFlag name } words

/-- How a command line is written. -/
def usageText : String :=
  "usage: simple_gcode [options] file\n\noptions:\n"
    ++ String.join (OptionName.long.map fun p =>
      "  " ++ p.1 ++ (if p.2.takesValue then " VALUE" else "") ++ "\n")

/-- The options of a command line. -/
def Options.read (words : List String) : Except Stop Options := do
  let s ← readWords {} (← classify words)
  if s.hasFile && !s.hasExtra then return s.options else throw .usage

end NumericControl
