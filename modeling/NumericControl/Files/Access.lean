import NumericControl.Files.Fault
import NumericControl.Files.Path

/-!
# Access to files

The operations on files that the other parts need, over any kind of file system: the one of the
machine, or a tree held as a value.  A file is written next to its place and then moved there, so
that a reader sees the old content or the complete new one.

## Main definitions

* `FileAccess` : the operations of a file system.
* `makeDirectories` : a directory with all directories above it.
* `backUp` : the copy that is kept of a file.
* `writeAtomic` : the replacement of the content of a file.
-/

namespace NumericControl

/-- What a path names. -/
inductive EntryKind where
  | file
  | directory
deriving DecidableEq, Repr

/-- The operations of a file system. -/
class FileAccess (m : Type → Type) where
  /-- What a path names, if it names something, or why that cannot be told. -/
  kind? (path : String) : m (Except FileFault (Option EntryKind))
  read (path : String) : m (Except FileFault ByteArray)
  /-- Write a file, in place of its old content. -/
  write (path : String) (content : ByteArray) : m (Except FileFault Unit)
  /-- Make an empty file where there is none. -/
  ensureFile (path : String) : m (Except FileFault Unit)
  makeDirectory (path : String) : m (Except FileFault Unit)
  /-- Copy a file, in place of the old content of the target or into a target directory. -/
  copy (source target : String) : m (Except FileFault Unit)
  /-- Move a file to the place of another one. -/
  replace (source target : String) : m (Except FileFault Unit)
  remove (path : String) : m (Except FileFault Unit)
  currentDirectory : m String

/-- Why a file is not written. -/
inductive WriteFault where
  | file (fault : FileFault)
  /-- The path has no last name. -/
  | noName (path : Path)
  /-- The name of the copy is that of no file. -/
  | invalidName (name : String)

/-- The wording of a write fault. -/
def WriteFault.text : WriteFault → String
  | .file fault => fault.text
  | .noName path => "PosixPath(" ++ Text.quoted path.text ++ ") has an empty name"
  | .invalidName name => "Invalid name " ++ Text.quoted name

section

variable {m : Type → Type} [Monad m] [FileAccess m]

/-- Whether something has a path; nothing has one of which that cannot be told. -/
def pathExists (path : String) : m Bool := do
  match ← FileAccess.kind? path with
  | .ok kind => return kind.isSome
  | .error _ => return false

/-- Make a directory, unless it is there. -/
def ensureDirectory (path : Path) : m (Except FileFault Unit) := do
  match ← FileAccess.makeDirectory path.text with
  | .ok () => return .ok ()
  | .error fault =>
    if fault.kind = .missing then return .error fault
    match ← FileAccess.kind? path.text with
    | .ok (some .directory) => return .ok ()
    | .ok _ => return .error fault
    | .error other => return .error other

/-- Make a directory with all directories above it, unless they are there. -/
def makeDirectories (path : Path) : m (Except FileFault Unit) := do
  match ← ensureDirectory path with
  | .ok () => return .ok ()
  | .error fault =>
    if _h : path.names = [] then return .error fault
    else if fault.kind ≠ .missing then return .error fault
    else
      match ← makeDirectories path.parent with
      | .ok () => ensureDirectory path
      | .error fault => return .error fault
termination_by path.names.length
decreasing_by
  have := List.length_pos_iff.mpr _h
  simp only [Path.parent, List.length_dropLast]
  omega

/-- The ending of the file that is written first. -/
def temporaryEnding : String := ".tmp"

/-- Copy a file aside, if it is there and an ending for the copy is given that is not empty.
Whether the file system can do so does not matter. -/
def backUp (target : Path) (backupEnding? : Option String) : m (Except WriteFault Unit) := do
  match backupEnding?.filter (· != "") with
  | none => return .ok ()
  | some ending =>
    match ← FileAccess.kind? target.text with
    | .error fault => return .error (.file fault)
    | .ok none => return .ok ()
    | .ok (some _) =>
      match target.beside? ending with
      | none => return .error (.invalidName (target.name ++ ending))
      | some backup =>
        match ← FileAccess.copy target.text backup.text with
        | .ok () => return .ok ()
        | .error fault => return if fault.kind.isOfSystem then .ok () else .error (.file fault)

/-- Write a temporary file and move it to its target. -/
def writeThenMove (target temporary : Path) (content : ByteArray)
    (backupEnding? : Option String) : m (Except WriteFault Unit) := do
  match ← makeDirectories target.parent with
  | .error fault => return .error (.file fault)
  | .ok () =>
    match ← FileAccess.write temporary.text content with
    | .error fault => return .error (.file fault)
    | .ok () =>
      match ← backUp target backupEnding? with
      | .error fault => return .error fault
      | .ok () => return (← FileAccess.replace temporary.text target.text).mapError .file

/-- Take away what has a path, if something has it; whether that succeeds does not matter. -/
def removeLeftover (path : String) : m (Except FileFault Unit) := do
  match ← FileAccess.kind? path with
  | .error fault => return .error fault
  | .ok none => return .ok ()
  | .ok (some _) =>
    let _ ← FileAccess.remove path
    return .ok ()

/-- Replace the content of a file; the old one is copied aside first if an ending for the copy is
given.  The temporary file is gone afterwards, whatever happened before. -/
def writeAtomic (target : Path) (content : ByteArray) (backupEnding? : Option String) :
    m (Except WriteFault Unit) := do
  match target.beside? temporaryEnding with
  | none => return .error (.noName target)
  | some temporary =>
    let outcome ← writeThenMove target temporary content backupEnding?
    match ← removeLeftover temporary.text with
    | .error fault => return .error (.file fault)
    | .ok () => return outcome

end

end NumericControl
