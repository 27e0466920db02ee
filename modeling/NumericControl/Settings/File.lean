import NumericControl.Files.Access
import NumericControl.Json.Reader
import NumericControl.Json.Writer
import NumericControl.Settings.Basic
import NumericControl.Text.Utf8

/-!
# The settings file

Settings are kept in one document.  A file that is not there leaves the defaults; a file that
cannot be used is reported and changes nothing.  The old file is kept as a backup when the
settings are saved.

## Main definitions

* `LoadFault` : why a settings file is not used.
* `Settings.load`, `Settings.save` : reading and writing the file.
* `Settings.copied?` : a copy of the values.
* `Environment`, `settingsPath` : where the file is when no path is given.
* `Settings.newAt` : new settings, wherever their file is.
-/

namespace NumericControl

/-- Why a settings file is not used. -/
inductive LoadFault where
  | unreadable (fault : FileFault)
  /-- Whether there is a file cannot be told. -/
  | inaccessible (fault : FileFault)
  /-- The text is no document. -/
  | malformed
  /-- The document is no object. -/
  | notAnObject
  /-- The bytes are no text. -/
  | notText
  /-- The document has a whole number that is too long. -/
  | tooManyDigits
  /-- The document is nested too deeply. -/
  | tooDeep

namespace LoadFault

/-- Whether a fault is foreseen, so that the program goes on with the defaults. -/
def isForeseen : LoadFault → Bool
  | unreadable _ | malformed | notAnObject => true
  | inaccessible _ | notText | tooManyDigits | tooDeep => false

/-- The wording of a fault. -/
def message : LoadFault → String
  | unreadable fault => "Failed to read file: " ++ fault.text
  | inaccessible fault => fault.text
  | malformed => "Invalid JSON"
  | notAnObject => "Settings file must contain a JSON object"
  | notText => "The file is not encoded in UTF-8"
  | tooManyDigits => "A number has too many digits"
  | tooDeep => "The document is nested too deeply"

/-- The fault of a document that is not read. -/
def ofReadError : Json.ReadError → LoadFault
  | .malformed => malformed
  | .tooManyDigits => tooManyDigits
  | .tooDeep => tooDeep

end LoadFault

namespace Settings

/-- The values that the content of a settings file gives. -/
def parse (content : ByteArray) : Except LoadFault Members :=
  match Text.Utf8.decode? content with
  | none => .error .notText
  | some text =>
    match Json.read text with
    | .error e => .error (.ofReadError e)
    | .ok (.object members) => .ok members
    | .ok _ => .error .notAnObject

/-- The text of a settings file. -/
def render (data : Members) : String :=
  (Json.object data).sortKeys.write (some (Json.spaces 2))

/-- The ending of the backup of a settings file. -/
def backupEnding : String := ".backup"

/-- A copy of the values, unless they are nested too deeply. -/
def copied? (s : Settings) : Option Members :=
  if (Json.object s.data).isCopyable then some s.data else none

/-- Why settings are not saved. -/
inductive SettingsWriteFault where
  | write (fault : WriteFault)
  /-- The values are nested too deeply. -/
  | tooDeep

section

variable {m : Type → Type} [Monad m] [FileAccess m]

/-- The settings with the values of their file, or none if there is no file. -/
def load (s : Settings) : m (Except LoadFault (Option Settings)) := do
  let path := (Path.ofText s.path).text
  match ← FileAccess.kind? path with
  | .error fault => return .error (.inaccessible fault)
  | .ok none => return .ok none
  | .ok (some _) =>
    match ← FileAccess.read path with
    | .error fault => return .error (.unreadable fault)
    | .ok content =>
      return (parse content).map fun members => some { s with data := merge defaults members }

/-- Write the settings to their file. -/
def save (s : Settings) : m (Except SettingsWriteFault Unit) := do
  if Json.nestingLimit < (Json.object s.data).depth then return .error .tooDeep
  else
    return (← writeAtomic (Path.ofText s.path) (render s.data).toUTF8
      (some backupEnding)).mapError .write

end

end Settings

/-! ### Where the file is -/

/-- The parts of the environment that tell where settings are kept. -/
structure Environment where
  /-- The directory of the settings file. -/
  configDirectory? : Option String := none
  /-- The directory of all configuration. -/
  configHome? : Option String := none
  home : String

namespace Environment

/-- The home directory. -/
def homePath (e : Environment) : Path :=
  if e.home = "" then ⟨"/", []⟩ else Path.ofText e.home

/-- The first choice for the directory of the settings file.  Empty values do not count. -/
def preferred (e : Environment) : Path :=
  match e.configDirectory?.filter (· != "") with
  | some directory => Path.ofText directory
  | none =>
    ((e.configHome?.filter (· != "")).elim e.homePath Path.ofText).child "SimpleGcode"

/-- The directories that may hold the settings file, the first choice first. -/
def candidates (e : Environment) : List Path :=
  [e.preferred, e.homePath.child ".simple_gcode"]

end Environment

/-- The name of the settings file. -/
def settingsFileName : String := "simple_gcode_settings.json"

section

variable {m : Type → Type} [Monad m] [FileAccess m]

/-- The first of several directories that can be made. -/
def firstDirectory? : List Path → m (Option Path)
  | [] => return none
  | path :: rest => do
    match ← makeDirectories path with
    | .ok () => return some path
    | .error _ => firstDirectory? rest

/-- The path of the settings file, the directory of which is made. -/
def settingsPath (e : Environment) : m String := do
  match ← firstDirectory? e.candidates with
  | some directory => return (directory.child settingsFileName).text
  | none =>
    return ((Path.ofText (← FileAccess.currentDirectory (m := m))).child settingsFileName).text

/-- New settings for a path, or for the place of the settings file if the path is empty or not
given. -/
def Settings.newAt (e : Environment) (path? : Option String) : m Settings := do
  match path?.filter (· != "") with
  | some path => return .new path
  | none => return .new (← settingsPath e)

end

end NumericControl
