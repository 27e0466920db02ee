import NumericControl.Axis

/-!
# Modal groups and the modal state

A line changes modes that stay in force until another line changes them.  The commands fall into
modal groups, and a line may hold at most one command of each group.

## Main definitions

* `ModalGroup` : the groups.
* `MotionMode`, `Plane`, `Units`, … : the values of one mode each.
* `State` : the modes in force between two lines, with the position and the counters.
-/

namespace NumericControl

/-- The modal groups. -/
inductive ModalGroup where
  | nonModal
  | motion
  | plane
  | distance
  | arcDistance
  | feedMode
  | units
  | cutterCompensation
  | toolLength
  | returnMode
  | scaling
  | coordinateSystem
  | pathControl
  | spindleSpeedMode
  | latheMode
  | programFlow
  | toolChange
  | spindle
  | coolant
  | override
  | userCode
deriving DecidableEq, Repr

/-- The name of a group in error reports. -/
def ModalGroup.name : ModalGroup → String
  | .nonModal => "NON_MODAL"
  | .motion => "MOTION"
  | .plane => "PLANE"
  | .distance => "DISTANCE"
  | .arcDistance => "ARC_DISTANCE"
  | .feedMode => "FEED_MODE"
  | .units => "UNITS"
  | .cutterCompensation => "CUTTER_COMP"
  | .toolLength => "TOOL_LENGTH"
  | .returnMode => "RETURN_MODE"
  | .scaling => "SCALING"
  | .coordinateSystem => "COORD_SYSTEM"
  | .pathControl => "PATH_CONTROL"
  | .spindleSpeedMode => "SPINDLE_SPEED_MODE"
  | .latheMode => "LATHE_MODE"
  | .programFlow => "PROGRAM_FLOW"
  | .toolChange => "TOOL_CHANGE"
  | .spindle => "SPINDLE"
  | .coolant => "COOLANT"
  | .override => "OVERRIDE"
  | .userCode => "USER_M"

/-! ### The modes -/

/-- The drilling cycles. -/
inductive DrillCycle where
  | chipBreak
  | plain
  | dwell
  | peck
  | bore
  | boreStop
  | boreDwell
deriving DecidableEq, Repr

/-- Probing moves: toward or away from the work, with or without an error when nothing is
touched. -/
inductive ProbeMode where
  | toward
  | towardQuiet
  | away
  | awayQuiet
deriving DecidableEq, Repr

/-- How axis words move the tool. -/
inductive MotionMode where
  | seek
  | linear
  | arc (clockwise : Bool)
  | spindleSync
  | threading
  | probe (mode : ProbeMode)
  | drill (cycle : DrillCycle)
  | cancelled
deriving DecidableEq, Repr

/-- The plane of arcs. -/
inductive Plane where
  | xy
  | zx
  | yz
deriving DecidableEq, Repr, Inhabited

/-- The unit of lengths in program words. -/
inductive Units where
  | metric
  | imperial
deriving DecidableEq, Repr, Inhabited

/-- Whether X words are diameters or radii. -/
inductive LatheMode where
  | diameter
  | radius
deriving DecidableEq, Repr, Inhabited

/-- The state of the spindle. -/
inductive SpindleState where
  | off
  | clockwise
  | counterclockwise
deriving DecidableEq, Repr, Inhabited

/-- The coolant supplies that are switched on, as flags of a number. -/
structure Coolant where
  number : Nat
deriving DecidableEq, Repr

/-- What a feed value means. -/
inductive FeedMode where
  | inverseTime
  | perMinute
  | perRevolution
deriving DecidableEq, Repr

/-- What a spindle speed value means. -/
inductive SpindleSpeedMode where
  | surfaceSpeed
  | revolutions
deriving DecidableEq, Repr

/-- How closely the path is followed at corners. -/
inductive PathMode where
  | exactPath
  | exactStop
  | continuous
deriving DecidableEq, Repr

/-- Where a drilling cycle retracts to. -/
inductive RetractMode where
  | oldZ
  | rPlane
deriving DecidableEq, Repr

/-- Cutter compensation, which can only be off. -/
inductive CutterCompensation where
  | off
deriving DecidableEq, Repr

/-- How the tool length is taken into account. -/
inductive ToolLengthMode where
  | cancel
  | enable
  | dynamic
  | additional
deriving DecidableEq, Repr

/-! ### Numbers and names of the modes -/

/-- The G number of a drilling cycle. -/
def DrillCycle.number : DrillCycle → Nat
  | .chipBreak => 73
  | .plain => 81
  | .dwell => 82
  | .peck => 83
  | .bore => 85
  | .boreStop => 86
  | .boreDwell => 89

/-- The cycles that pause at the bottom of the hole. -/
def DrillCycle.pauses : DrillCycle → Bool
  | .dwell | .peck | .boreStop | .boreDwell => true
  | _ => false

/-- The cycles that drill in steps. -/
def DrillCycle.pecks : DrillCycle → Bool
  | .chipBreak | .peck => true
  | _ => false

/-- The number of a probing move in its family. -/
def ProbeMode.number : ProbeMode → Nat
  | .toward => 0
  | .towardQuiet => 1
  | .away => 2
  | .awayQuiet => 3

/-- The number of a motion mode: its G number, and from 140 on for the probing moves. -/
def MotionMode.number : MotionMode → Nat
  | .seek => 0
  | .linear => 1
  | .arc true => 2
  | .arc false => 3
  | .spindleSync => 33
  | .threading => 76
  | .cancelled => 80
  | .drill cycle => cycle.number
  | .probe mode => 140 + mode.number

/-- The code of a plane. -/
def Plane.code : Plane → String
  | .xy => "G17"
  | .zx => "G18"
  | .yz => "G19"

/-- The code of a unit. -/
def Units.code : Units → String
  | .metric => "G21"
  | .imperial => "G20"

/-- The code of a lathe mode. -/
def LatheMode.code : LatheMode → String
  | .diameter => "G7"
  | .radius => "G8"

/-- The name of a distance mode. -/
def DistanceMode.name : DistanceMode → String
  | .absolute => "absolute"
  | .incremental => "incremental"

/-- The name of a spindle state. -/
def SpindleState.name : SpindleState → String
  | .off => "off"
  | .clockwise => "cw"
  | .counterclockwise => "ccw"

namespace Coolant

/-- No coolant. -/
def off : Coolant := ⟨0⟩

/-- The flag of the mist supply. -/
def mist : Coolant := ⟨1⟩

/-- The flag of the flood supply. -/
def flood : Coolant := ⟨2⟩

/-- The supplies that are switched on in one of two sets. -/
def or (c d : Coolant) : Coolant := ⟨c.number ||| d.number⟩

end Coolant

/-- The code of a feed mode. -/
def FeedMode.code : FeedMode → String
  | .inverseTime => "G93"
  | .perMinute => "G94"
  | .perRevolution => "G95"

/-- The code of a spindle speed mode. -/
def SpindleSpeedMode.code : SpindleSpeedMode → String
  | .surfaceSpeed => "G96"
  | .revolutions => "G97"

/-- The code of a path mode. -/
def PathMode.code : PathMode → String
  | .exactPath => "G61"
  | .exactStop => "G61.1"
  | .continuous => "G64"

/-- The code of a retract mode. -/
def RetractMode.code : RetractMode → String
  | .oldZ => "G98"
  | .rPlane => "G99"

/-- The code of cutter compensation. -/
def CutterCompensation.code : CutterCompensation → String
  | .off => "G40"

/-- The number of a tool length mode. -/
def ToolLengthMode.number : ToolLengthMode → Nat
  | .cancel => 0
  | .enable => 1
  | .dynamic => 2
  | .additional => 3

/-! ### The state -/

/-- What one line leaves for the next: the modes in force, the position in millimetres, sticky
words and counters.  The values given here are those after a reset. -/
structure State where
  motion : MotionMode := .seek
  plane : Plane := .xy
  distance : DistanceMode := .absolute
  arcDistance : DistanceMode := .incremental
  units : Units := .metric
  lathe : LatheMode := .radius
  coordinateSystem : Nat := 0
  toolLength : ToolLengthMode := .cancel
  toolOffsets : AxisValues := .zero
  scaleFactors : AxisValues := .one
  spindle : SpindleState := .off
  coolant : Coolant := .off
  feedMode : FeedMode := .perMinute
  spindleSpeedMode : SpindleSpeedMode := .revolutions
  path : PathMode := .exactPath
  retract : RetractMode := .oldZ
  cutterCompensation : CutterCompensation := .off
  /-- How many lines with words have been accepted. -/
  lineNumber : Nat := 0
  /-- The last N word. -/
  sequenceNumber : Int := 0
  /-- How many program demarcations have been read. -/
  demarcations : Nat := 0
  programEnd : Bool := false
  /-- The last programmed value of every axis. -/
  axisValues : AxisValues := .zero
  position : AxisValues := .zero
  /-- The retract plane of drilling cycles. -/
  drillPlane : Float := 0.0
  tool : Int := 0

/-- The state after a reset. -/
def State.initial : State := {}

end NumericControl
