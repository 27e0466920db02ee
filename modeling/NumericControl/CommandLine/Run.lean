import NumericControl.CommandLine.Options
import NumericControl.Job.Load
import NumericControl.Report.Text
import NumericControl.Settings.Checked
import NumericControl.Settings.File
import NumericControl.Settings.Recent
import NumericControl.Token.File
import NumericControl.Toolpath

/-!
# A run of the program

A run reads the settings, lays the options over a copy of them, and then either validates a
program file or loads it as a job and prints its figures.  The settings are saved at the end of a
run that loads a job, without the options.

## Main definitions

* `RunFault` : what ends a run that nobody foresaw.
* `RunResult` : exit code and output.
* `Settings.withOptions` : settings for one run.
* `runCommand` : the run.
-/

namespace NumericControl

/-- What ends a run that nobody foresaw. -/
inductive RunFault where
  | file (fault : FileFault)
  | settings (fault : LoadFault)
  /-- The settings are nested too deeply to be copied. -/
  | nestedSettings
  /-- The settings describe no configuration, for a reason that their check does not report. -/
  | config (fault : SettingsFault)
  /-- A line of the program fails without being refused. -/
  | line (failure : Failure)
  /-- The lines of the program cannot be written in bytes. -/
  | notEncodable (fault : EncodingFault)
  | recent (fault : RecentFault)

/-- The wording of a fault. -/
def RunFault.message : RunFault → RawText
  | file fault => fault.text
  | settings fault => fault.message
  | nestedSettings => "The settings are nested too deeply"
  | config fault => fault.message
  | line failure => failure.text
  | notEncodable fault => fault.text
  | recent _ => "The list of recent files is no list of paths"

/-- What a run leaves behind beside files. -/
structure RunResult where
  exit : Except RunFault Nat
  output : String := ""
  errors : RawText := ""

/-- The name and version of the program. -/
def versionText : String := "simple_gcode 1.2"

/-- The figures of a job as text. -/
def Summary.text (s : Summary) (axisCount : Nat) : String :=
  let axisLine (axis : Axis) : String :=
    let span := s.box.get axis
    String.singleton axis.letter ++ ": " ++ Number.fixedText 3 span.low ++ " .. "
      ++ Number.fixedText 3 span.high
  "\n".intercalate <|
    ["Job: " ++ lastName s.name,
      "Lines: " ++ toString s.lineCount ++ "  Tokens: " ++ toString s.tokenCount
        ++ "  Skipped: " ++ toString s.skipped] ++
    (Axis.all.take axisCount).map axisLine ++
    ["Feed: " ++ Number.generalText s.feeds.low ++ " .. " ++ Number.generalText s.feeds.high] ++
    (s.linesHash?.map fun hash => "Hash: " ++ hash).toList

/-- The bounds of a path as text. -/
def Toolpath.boundsText (path : Toolpath) (bounds : PathBounds) : String :=
  let spanText (name : String) (span : Span Float) : String :=
    name ++ " " ++ Number.fixedText 3 span.low ++ " .. " ++ Number.fixedText 3 span.high
  "Toolpath: " ++ spanText "X" bounds.x ++ "  " ++ spanText "Y" bounds.y ++ "  "
    ++ spanText "Z" bounds.z ++ "  (" ++ toString path.segments.size ++ " segments)"

/-- Whether a setting counts as switched on. -/
def Json.isOn : Json → Bool
  | .null => false
  | .bool b => b
  | .int n => n != 0
  | .float x => x != 0.0
  | .text s => s != ""
  | .brokenText _ => true
  | .array items => !items.isEmpty
  | .object members => !members.isEmpty

/-- The settings with a value, if one is given. -/
def Settings.setGiven (s : Settings) (key : String) : Option Json → Settings
  | some value => s.set key value
  | none => s

/-- The value of an option as a setting. -/
def CountValue.toJson : CountValue → Json
  | number n => .int n
  | nothing => .array []

/-- The settings with the options of one run laid over them. -/
def Settings.withOptions (s : Settings) (o : Options) : Settings :=
  let s := s.setGiven "dialect" (o.dialect?.map fun dialect => .text dialect.name)
  let s := s.setGiven "axis_count" (o.axisCount?.map CountValue.toJson)
  let s := s.setGiven "arc_resolution" (o.arcResolution?.map CountValue.toJson)
  s.setGiven "continue_on_error" (if o.continueOnError then some (.bool true) else none)

/-- A text of an option that is given and not empty. -/
def nonEmpty (text? : Option String) : Option String :=
  text?.filter (· != "")

/-- The files that a log directory holds. -/
def logFileNames : List String := ["simple_gcode.log", "errors.log", "parser.log"]

/-- A fault of a load that nobody foresaw, as that of a run. -/
def JobFault.escaping? : JobFault → Option RunFault
  | .line (.refused _) | .cancelled _ => none
  | .line failure => some (.line failure)
  | .file _ fault => if fault.kind.isOfSystem then none else some (.file fault)
  | .notEncodable fault => some (.notEncodable fault)

/-- The text of the path of a bounded part of a program. -/
def boundsLine (job : Job) (resolution : Int) : String :=
  match buildToolpath job.program.tokens.toList resolution fun _ => true with
  | .ok (some path) =>
    match path.bounds with
    | some bounds => path.boundsText bounds ++ "\n"
    | none => ""
  | _ => ""

/-- The result of a run that ends with an error message. -/
def RunResult.refused (code : Nat) (message : RawText) (output : String) : RunResult :=
  { exit := .ok code, output, errors := .text "Error: " ++ message ++ .text "\n" }

section

variable {m : Type → Type} [Monad m] [FileAccess m]

/-- Make all files of a log directory. -/
def openLogs (current directory : String) : List String → m (Except FileFault Unit)
  | [] => return .ok ()
  | name :: names => do
    match ← FileAccess.ensureFile (absoluteText current (directory ++ "/" ++ name)) with
    | .ok () => openLogs current directory names
    | .error fault => return .error fault

/-- The settings with the values of their file; where a fault is foreseen the defaults hold. -/
def loadedOrDefault (fresh : Settings) : m (Except LoadFault Settings) := do
  match ← fresh.load with
  | .ok loaded? => return .ok (loaded?.getD fresh)
  | .error fault => return if fault.isForeseen then .ok fresh else .error fault

/-- Validate a program file. -/
def runValidation (o : Options) (config : Config) : m RunResult := do
  match ← readProgram o.file with
  | .error fault =>
    if fault.kind.isOfSystem then
      return .refused 1 ("cannot read " ++ o.file ++ ": " ++ fault.text) ""
    else return { exit := .error (.file fault) }
  | .ok lines =>
    match validate config lines with
    | .error (.refused e) => return .refused 1 e.text ""
    | .error failure => return { exit := .error (.line failure) }
    | .ok report =>
      return {
        exit := .ok (if report.errorCount = 0 then 0 else 1)
        output := report.text ++ "\n" ++ if o.verbosity = 0 then "" else report.details ++ "\n" }

/-- Save the settings with the file of this run as a recent one. -/
def saveRecent (settings : Settings) (file output errors : String) : m RunResult := do
  match settings.addRecent (← FileAccess.currentDirectory (m := m)) (.ofStandIns file) with
  | .error fault => return { exit := .error (.recent fault), output, errors }
  | .ok settings =>
    let _ ← settings.save
    return { exit := .ok 0, output, errors }

/-- What follows when the figures of a job are printed: the tokens are exported if that is asked
for, and the settings are saved. -/
def finishRun (o : Options) (settings : Settings) (job : Job) (output errors : String) :
    m RunResult := do
  match nonEmpty o.exportTokens? with
  | none => saveRecent settings o.file output errors
  | some path =>
    match ← saveRecords path (job.program.tokens.toList.map Record.ofToken) with
    | .error fault =>
      return { exit := .ok 1, output, errors := errors ++ "Error: " ++ fault.message ++ "\n" }
    | .ok () => saveRecent settings o.file output errors

/-- Load a program file and print the figures of the job. -/
def runJob (o : Options) (settings run : Settings) (config : Config) : m RunResult := do
  let policy : LoadPolicy := { continues := ((run.get? "continue_on_error").getD .null).isOn }
  let (job, loaded) ← Job.new.loadFile ⟨config, {}⟩ policy o.file
  match loaded with
  | .error fault =>
    match fault.escaping? with
    | some escaping => return { exit := .error escaping }
    | none => return .refused 1 fault.message ""
  | .ok summary =>
    let figures := summary.text config.axisCount ++ "\n"
    let warnings := String.join
      (job.program.warnings.toList.map fun warning => "Warning: " ++ warning ++ "\n")
    if o.toolpath then
      match Check.arcResolution ((run.get? "arc_resolution").getD .null) with
      | .ok resolution => finishRun o settings job (figures ++ boundsLine job resolution) warnings
      | .error _ => finishRun o settings job figures warnings
    else finishRun o settings job figures warnings

/-- A run with settings that are read. The options go into a copy of them, so settings too nested
to be copied end the run. -/
def runWith (o : Options) (settings : Settings) : m RunResult :=
  match settings.copied? with
  | none => return { exit := .error .nestedSettings }
  | some data =>
    let run := Settings.withOptions { settings with data } o
    match run.config with
    | .error fault =>
      return if fault.isForeseen then .refused 2 fault.message ""
        else { exit := .error (.config fault) }
    | .ok config => if o.validate then runValidation o config else runJob o settings run config

/-- A run. -/
def runCommand (environment : Environment) (o : Options) : m RunResult := do
  let logs ← match nonEmpty o.logDirectory? with
    | some directory => openLogs (← FileAccess.currentDirectory (m := m)) directory logFileNames
    | none => pure (.ok ())
  match logs with
  | .error fault => return { exit := .error (.file fault) }
  | .ok () =>
    match ← loadedOrDefault (← Settings.newAt environment o.settings?) with
    | .error fault => return { exit := .error (.settings fault) }
    | .ok settings => runWith o settings

end

end NumericControl
