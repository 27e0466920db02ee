import NumericControl.Text.Encoding

/-!
# File faults

Why an operation on files fails: the kind of the fault, which has a number and a wording that are
the same on all systems, and the path or paths it is about.

## Main definitions

* `FaultKind` : the kinds of fault.
* `pathEncodingFault?` : what keeps a path from being written in bytes.
* `FileFault` : a fault; `FileFault.text` words it.
-/

namespace NumericControl

/-- The kinds of fault. -/
inductive FaultKind where
  /-- Nothing has the path. -/
  | missing
  /-- A directory is in use. -/
  | busy
  /-- Something has the path already. -/
  | taken
  /-- A name on the way is that of a file. -/
  | notDirectory
  /-- The path is that of a directory. -/
  | isDirectory
  /-- The path or a name in it has too many bytes. -/
  | nameTooLong
  /-- The path has a character with the number zero, so no file system can be asked about it. -/
  | nullCharacter
  /-- The path cannot be written in bytes. -/
  | notEncodable (fault : EncodingFault)
  /-- Any other fault. -/
  | other (number : Nat) (wording : String)
deriving DecidableEq, Repr

/-- The number of a kind of fault. -/
def FaultKind.number : FaultKind → Nat
  | missing => 2
  | busy => 16
  | taken => 17
  | notDirectory => 20
  | isDirectory => 21
  | nullCharacter | notEncodable .. => 22
  | nameTooLong => 36
  | other number _ => number

/-- The wording of a kind of fault. -/
def FaultKind.wording : FaultKind → String
  | missing => "No such file or directory"
  | busy => "Device or resource busy"
  | taken => "File exists"
  | notDirectory => "Not a directory"
  | isDirectory => "Is a directory"
  | nameTooLong => "File name too long"
  | nullCharacter => "embedded null byte"
  | notEncodable fault => fault.text
  | other _ wording => wording

/-- Whether a fault is that of a file system; the others are faults of the path alone. -/
def FaultKind.isOfSystem : FaultKind → Bool
  | nullCharacter | notEncodable .. => false
  | _ => true

/-- Whether half of a surrogate pair stands for a byte that is no character. -/
def isByteMark (point : Nat) : Bool :=
  decide (0xDC80 ≤ point) && decide (point ≤ 0xDCFF)

/-- What keeps a path from being written in bytes. -/
def pathEncodingFault? (path : String) : Option EncodingFault :=
  encodingFault? isByteMark 0 (RawText.ofStandIns path).points

/-- Why an operation on files fails. -/
structure FileFault where
  kind : FaultKind
  path : String
  /-- The second path of an operation on two. -/
  target? : Option String := none
deriving DecidableEq, Repr

/-- A fault as one text.  A fault of the path alone has neither number nor place. -/
def FileFault.text (f : FileFault) : String :=
  let place :=
    match f.target? with
    | some target => Text.quoted f.path ++ " -> " ++ Text.quoted target
    | none => Text.quoted f.path
  if f.kind.isOfSystem then
    "[Errno " ++ toString f.kind.number ++ "] " ++ f.kind.wording ++ ": " ++ place
  else f.kind.wording

end NumericControl
