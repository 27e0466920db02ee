import NumericControl.CommandLine.Run

/-!
# The program

The command line over the file system of the machine.  Everything that is decided is decided in
`NumericControl.runCommand`; here its file operations are carried out and its texts are printed.

## Main definitions

* The operations of the machine's file system.
* `main` : the program.
-/

namespace NumericControl

/-- The kind of a fault that the machine reports. -/
def machineFault : IO.Error → FaultKind
  | .noFileOrDirectory .. => .missing
  | .alreadyExists .. => .taken
  | .resourceBusy .. => .busy
  | .inappropriateType _ code _ => if code = 20 then .notDirectory else .isDirectory
  | .permissionDenied _ code details => .other code.toNat details
  | error => .other 5 (toString error)

/-- Carry out an operation, with a fault as its result if it fails. -/
def attempt {α : Type} (path : String) (target? : Option String) (action : IO α) :
    IO (Except FileFault α) := do
  try
    return .ok (← action)
  catch error =>
    return .error ⟨machineFault error, path, target?⟩

/-- What a path of the machine names. -/
def machineKind? (path : String) : IO (Option EntryKind) := do
  if path = "" then return none
  try
    let data ← ((← IO.currentDir) / path).metadata
    match data.type with
    | .dir => return some .directory
    | _ => return some .file
  catch _ =>
    return none

/-- Copy a file of the machine, into the target if that is a directory. -/
def machineCopy (source target : String) : IO Unit := do
  let content ← IO.FS.readBinFile source
  match ← machineKind? target with
  | some .directory => IO.FS.writeBinFile (target ++ "/" ++ lastName source) content
  | _ => IO.FS.writeBinFile target content

/-- Make an empty file on the machine where there is none. -/
def machineEnsureFile (path : String) : IO Unit := do
  let _ ← IO.FS.Handle.mk path .append

instance : FileAccess IO where
  kind? path := do return .ok (← machineKind? path)
  read path := attempt path none (IO.FS.readBinFile path)
  write path content := attempt path none (IO.FS.writeBinFile path content)
  ensureFile path := attempt path none (machineEnsureFile path)
  makeDirectory path := attempt path none (IO.FS.createDir path)
  copy source target := attempt source (some target) (machineCopy source target)
  replace source target := attempt source (some target) (IO.FS.rename source target)
  remove path := attempt path none (IO.FS.removeFile path)
  currentDirectory := do return (← IO.currentDir).toString

/-- The environment of the program. -/
def machineEnvironment : IO Environment := do
  return {
    configDirectory? := ← IO.getEnv "SIMPLE_GCODE_CONFIG_DIR"
    configHome? := ← IO.getEnv "XDG_CONFIG_HOME"
    home := (← IO.getEnv "HOME").getD "" }

/-- Print what a run leaves behind, and tell its exit code. -/
def conclude (result : RunResult) : IO UInt32 := do
  IO.print result.output
  IO.eprint result.errors.printable
  match result.exit with
  | .ok code => return UInt32.ofNat code
  | .error fault =>
    IO.eprintln fault.message.printable
    return 1

end NumericControl

open NumericControl

/-- The program. -/
def main (words : List String) : IO UInt32 := do
  match Options.read words with
  | .error .version =>
    IO.println versionText
    return 0
  | .error .help =>
    IO.println usageText
    return 0
  | .error .usage =>
    IO.eprintln usageText
    return 2
  | .ok options => conclude (← runCommand (← machineEnvironment) options)
