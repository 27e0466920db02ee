import NumericControl.Files.Access
import NumericControl.Text.Utf8
import NumericControl.Token.Document

/-!
# Token files

Token documents in files.  A document is written completely or not at all.

## Main definitions

* `SaveFault`, `saveRecords` : writing a file.
* `OpenFault`, `loadRecords` : reading a file.
-/

namespace NumericControl

/-- Why records are not saved. -/
inductive SaveFault where
  /-- A value has no written form. -/
  | notFinite (value : Float)
  | file (fault : WriteFault)

/-- The wording of a fault. -/
def SaveFault.message : SaveFault → String
  | notFinite value =>
    "Failed to save: Out of range float values are not JSON compliant: "
      ++ Number.shortestText Number.messageNames value
  | file fault => "Failed to save: " ++ fault.text

/-- Why no records are read from a file. -/
inductive OpenFault where
  | unreadable (path : String) (fault : FileFault)
  /-- The bytes are no text. -/
  | notText
  | document (error : DocumentError)

/-- The wording of a fault. -/
def OpenFault.message : OpenFault → String
  | unreadable path fault => "Failed to read " ++ path ++ ": " ++ fault.text
  | notText => "The file is not encoded in UTF-8"
  | document error => error.message

section

variable {m : Type → Type} [Monad m] [FileAccess m]

/-- Write records to a file. -/
def saveRecords (path : String) (records : List Record) : m (Except SaveFault Unit) := do
  match Document.write (some (Json.spaces 1)) records with
  | .error value => return .error (.notFinite value)
  | .ok text => return (← writeAtomic (Path.ofText path) text.toUTF8 none).mapError .file

/-- Read records from a file. -/
def loadRecords (path : String) : m (Except OpenFault (List Record)) := do
  match ← FileAccess.read path with
  | .error fault => return .error (.unreadable path fault)
  | .ok content =>
    match Text.Utf8.decode? content with
    | none => return .error .notText
    | some text => return (Document.read text).mapError .document

end

end NumericControl
