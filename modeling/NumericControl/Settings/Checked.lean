import NumericControl.Check
import NumericControl.Settings.Basic

/-!
# Checked settings

Settings may hold any value.  Before an interpreter is built from them, the values that concern it
are checked; the first value that is not admitted is reported.  Then each of them is converted to
what the configuration holds, which checks its number of axes itself.

## Main definitions

* `SettingsFault` : what is wrong with settings.
* `Settings.validate` : the check.
* `Settings.converted`, `Settings.wholeAxisCount` : the conversions.
* `Settings.config` : the configuration that the settings describe.
-/

namespace NumericControl

/-- What is wrong with settings. -/
inductive SettingsFault where
  | check (error : CheckError)
  /-- The length of the list of recent files is no whole number from zero on. -/
  | recentLimit (value : Json)
  /-- The value of a key does not convert to what a configuration holds. -/
  | unconverted (key : String) (value : Json)
  /-- The number of axes that the settings were converted to is not admitted. -/
  | unadmitted (error : CheckError)

namespace SettingsFault

/-- The wording of what is wrong. -/
def message : SettingsFault → RawText
  | check error => error.message
  | recentLimit value => .text "Invalid max_recent_files: " ++ value.displayBare
  | unconverted key value => .text (key ++ " cannot be converted: ") ++ value.displayBare
  | unadmitted error => error.message

/-- Whether a fault is foreseen: it is if the check finds it, except for an infinite number, which
has no whole part. -/
def isForeseen : SettingsFault → Bool
  | check .infinite => false
  | check _ | recentLimit _ => true
  | unconverted .. | unadmitted _ => false

end SettingsFault

namespace Settings

/-- The dialect of the settings. -/
def dialect (s : Settings) : Except CheckError String :=
  Check.choice "dialect" (Dialect.all.map Dialect.name) (s.value "dialect")

/-- The policy of the settings for a removable code. -/
def policy (s : Settings) (key : String) : Except CheckError String :=
  Check.choice key (IgnorePolicy.all.map IgnorePolicy.name) (s.value key)

/-- The check of the settings that concern the interpreter. -/
def checkInterpreter (s : Settings) : Except CheckError Unit := do
  let _ ← s.dialect
  let _ ← Check.axisCount (s.value "axis_count")
  let _ ← s.policy "ignore_m6"
  let _ ← s.policy "ignore_m7"
  let _ ← s.policy "ignore_m8"
  let _ ← Check.arcResolution (s.value "arc_resolution")

/-- Whether a value is a length for the list of recent files. -/
def isRecentLimit : Json → Bool
  | .int n => decide (0 ≤ n)
  | _ => false

/-- The check of the settings. -/
def validate (s : Settings) : Except SettingsFault Unit := do
  s.checkInterpreter.mapError .check
  let limit := s.value "max_recent_files"
  if !isRecentLimit limit then throw (.recentLimit limit)

/-- What the setting of a dotted key stands for, if it is a name in any case and with white space
around it. -/
def converted {α : Type} (ofName? : String → Option α) (key : String) (s : Settings) :
    Except SettingsFault α :=
  match (s.get? key).getD .null with
  | .text name =>
    match ofName? (Text.lower (Text.trim name)) with
    | some a => .ok a
    | none => .error (.unconverted key (.text name))
  | value => .error (.unconverted key value)

/-- The number of axes, without a fraction. -/
def wholeAxisCount (s : Settings) : Except SettingsFault Int :=
  let value := (s.get? "axis_count").getD .null
  (Check.wholePart "axis_count" value).mapError fun _ => .unconverted "axis_count" value

/-- The configuration that the settings describe. -/
def config (s : Settings) : Except SettingsFault Config := do
  s.validate
  let toolChange ← s.converted IgnorePolicy.ofName? "ignore_m6"
  let mist ← s.converted IgnorePolicy.ofName? "ignore_m7"
  let flood ← s.converted IgnorePolicy.ofName? "ignore_m8"
  let dialect ← s.converted Dialect.ofName? "dialect"
  let count ← s.wholeAxisCount
  let config : Config := { dialect, toolChange, mist, flood }
  (config.withAxisCount (.int count)).mapError .unadmitted

end Settings

end NumericControl
