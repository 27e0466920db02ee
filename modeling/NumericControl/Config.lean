/-!
# Interpreter configuration

What a line means depends on the dialect, on how many axes the machine has, and on whether the
codes M6, M7 and M8 are carried out or removed.  An operator may be asked about a code or a tool.

## Main definitions

* `Dialect`, `IgnorePolicy`, `Config` : the configuration.
* `Operator` : the answers of the operator.
* `Question` : what the operator was asked.
-/

namespace NumericControl

/-- The accepted command set. -/
inductive Dialect where
  | strict
  | embedded
  | extended
deriving DecidableEq, Repr, Inhabited

/-- What happens to a code that may be removed from the program. -/
inductive IgnorePolicy where
  | execute
  | strip
  | prompt
deriving DecidableEq, Repr, Inhabited

namespace Dialect

/-- All dialects. -/
def all : List Dialect := [strict, embedded, extended]

/-- The name of a dialect. -/
def name : Dialect → String
  | strict => "strict"
  | embedded => "embedded"
  | extended => "extended"

/-- The dialect of a name. -/
def ofName? (s : String) : Option Dialect :=
  all.find? (·.name == s)

end Dialect

namespace IgnorePolicy

/-- All policies. -/
def all : List IgnorePolicy := [execute, strip, prompt]

/-- The name of a policy. -/
def name : IgnorePolicy → String
  | execute => "execute"
  | strip => "strip"
  | prompt => "prompt"

/-- The policy of a name. -/
def ofName? (s : String) : Option IgnorePolicy :=
  all.find? (·.name == s)

end IgnorePolicy

/-- The configuration of an interpreter. -/
structure Config where
  dialect : Dialect := .extended
  /-- How many axes the machine has. -/
  axisCount : Nat := 3
  /-- The axis count as it was configured. -/
  axisCountText : String := toString axisCount
  /-- Whether the axis count was configured as a text, with which no axis can be compared. -/
  axisCountIsText : Bool := false
  toolChange : IgnorePolicy := .execute
  mist : IgnorePolicy := .execute
  flood : IgnorePolicy := .execute
deriving Repr

/-- The policy for an M code; codes other than the three that may be removed are carried out. -/
def Config.policy (config : Config) (code : Int) : IgnorePolicy :=
  if code = 6 then config.toolChange
  else if code = 7 then config.mist
  else if code = 8 then config.flood
  else .execute

/-- The answers of an operator, if there is one to ask. -/
structure Operator where
  /-- Whether a code is to be removed. -/
  strips? : Option (String → Bool) := none
  /-- Whether a tool is known. -/
  knows? : Option (Int → Bool) := none

/-- What the operator was asked. -/
inductive Question where
  /-- Whether to remove a code. -/
  | strip (code : String)
  /-- Whether a tool is known. -/
  | tool (number : Int)
  /-- Whether to go on after an error. -/
  | skip (errorText : String)
deriving DecidableEq, Repr

end NumericControl
