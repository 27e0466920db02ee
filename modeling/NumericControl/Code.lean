import NumericControl.Config
import NumericControl.Modal
import NumericControl.Number.Binary

/-!
# G and M codes

The meaning of the codes.  A G code is a whole number with at most one digit after the point, an
M code a whole number.  Each code belongs to a modal group, some claim the axis words of their
line, and some exist in certain dialects only.

## Main definitions

* `Code` : the codes by meaning.
* `Code.gTable`, `Code.mTable` : the tables, read by `Code.ofG?` and `Code.ofM`.
* `Code.group`, `Code.claim?`, `Code.allowedIn` : group, claim and dialects of a code.
* `splitCode` : a code value as whole number and digit.
-/

namespace NumericControl

/-- The codes that act on positions and offsets without being modal. -/
inductive Positioning where
  /-- G10, set data. -/
  | setData
  /-- G28, go to the first stored position. -/
  | goFirst
  /-- G28.1, store the first position. -/
  | storeFirst
  /-- G30, go to the second stored position. -/
  | goSecond
  /-- G30.1, store the second position. -/
  | storeSecond
  /-- G53, move in machine coordinates. -/
  | machine
  /-- G92, set the offset. -/
  | setOffset
  /-- G92.1, G92.2 and G92.3, clear, suspend and restore the offset. -/
  | clearOffset
  | suspendOffset
  | restoreOffset
deriving DecidableEq, Repr

/-- The codes that stop or end a program. -/
inductive ProgramFlow where
  | stop
  | optionalStop
  | finish
  | finishAndRewind
deriving DecidableEq, Repr

/-- The codes that change the tool or its number. -/
inductive ToolChange where
  | change
  | setNumber
deriving DecidableEq, Repr

/-- The coolant codes. -/
inductive CoolantCode where
  | mist
  | flood
  | off
deriving DecidableEq, Repr

/-- The override codes. -/
inductive Override where
  | enableAll
  | disableAll
  | feed
  | spindle
  | adaptive
  | feedStop
  | parking
deriving DecidableEq, Repr

/-- A code by its meaning. -/
inductive Code where
  | dwell
  | positioning (action : Positioning)
  | motion (mode : MotionMode)
  | plane (plane : Plane)
  | distance (mode : DistanceMode)
  | arcDistance (mode : DistanceMode)
  | feedMode (mode : FeedMode)
  | units (units : Units)
  | cutterOff
  | toolLength (mode : ToolLengthMode)
  | retract (mode : RetractMode)
  | scaling (active : Bool)
  | coordinateSystem (slot : Nat)
  | path (mode : PathMode)
  | spindleSpeedMode (mode : SpindleSpeedMode)
  | lathe (mode : LatheMode)
  | flow (action : ProgramFlow)
  | toolChange (action : ToolChange)
  | spindle (state : SpindleState)
  | coolant (code : CoolantCode)
  | override (action : Override)
  | user (number : Int)
deriving DecidableEq, Repr

/-- Which command on a line owns the axis words. -/
inductive AxisOwner where
  | nonModal
  | motion
  | toolLength
  | scaling
deriving DecidableEq, Repr

namespace Code

/-- The modal group of a code. -/
def group : Code → ModalGroup
  | dwell | positioning _ => .nonModal
  | motion _ => .motion
  | plane _ => .plane
  | distance _ => .distance
  | arcDistance _ => .arcDistance
  | feedMode _ => .feedMode
  | units _ => .units
  | cutterOff => .cutterCompensation
  | toolLength _ => .toolLength
  | retract _ => .returnMode
  | scaling _ => .scaling
  | coordinateSystem _ => .coordinateSystem
  | path _ => .pathControl
  | spindleSpeedMode _ => .spindleSpeedMode
  | lathe _ => .latheMode
  | flow _ => .programFlow
  | toolChange _ => .toolChange
  | spindle _ => .spindle
  | coolant _ => .coolant
  | override _ => .override
  | user _ => .userCode

/-- The claim that a code lays on the axis words.  A move in machine coordinates lays none: it
takes the words of the motion code beside it. -/
def claim? : Code → Option AxisOwner
  | motion .cancelled => none
  | motion _ => some .motion
  | positioning .machine => none
  | positioning _ => some .nonModal
  | toolLength .dynamic => some .toolLength
  | scaling _ => some .scaling
  | _ => none

/-- Whether a dialect has a code. -/
def allowedIn (dialect : Dialect) : Code → Bool
  | lathe _ | retract _ => dialect != .embedded
  | motion .spindleSync | motion .threading | motion (.probe _) | motion (.drill _) =>
    dialect != .embedded
  | scaling _ => dialect == .extended
  | coordinateSystem slot => slot ≤ 5 || dialect != .embedded
  | path .exactPath => true
  | path _ => dialect != .embedded
  | arcDistance .absolute => dialect == .strict
  | override .parking => dialect != .strict
  | _ => true

/-- The codes by G number: a whole number with one digit after the point. -/
def gTable : List ((Int × Int) × Code) :=
  [((0, 0), motion .seek),
    ((1, 0), motion .linear),
    ((2, 0), motion (.arc true)),
    ((3, 0), motion (.arc false)),
    ((4, 0), dwell),
    ((7, 0), lathe .diameter),
    ((8, 0), lathe .radius),
    ((10, 0), positioning .setData),
    ((17, 0), plane .xy),
    ((18, 0), plane .zx),
    ((19, 0), plane .yz),
    ((20, 0), units .imperial),
    ((21, 0), units .metric),
    ((28, 0), positioning .goFirst),
    ((28, 1), positioning .storeFirst),
    ((30, 0), positioning .goSecond),
    ((30, 1), positioning .storeSecond),
    ((33, 0), motion .spindleSync),
    ((38, 2), motion (.probe .toward)),
    ((38, 3), motion (.probe .towardQuiet)),
    ((38, 4), motion (.probe .away)),
    ((38, 5), motion (.probe .awayQuiet)),
    ((40, 0), cutterOff),
    ((43, 0), toolLength .enable),
    ((43, 1), toolLength .dynamic),
    ((43, 2), toolLength .additional),
    ((49, 0), toolLength .cancel),
    ((50, 0), scaling false),
    ((51, 0), scaling true),
    ((53, 0), positioning .machine),
    ((54, 0), coordinateSystem 0),
    ((55, 0), coordinateSystem 1),
    ((56, 0), coordinateSystem 2),
    ((57, 0), coordinateSystem 3),
    ((58, 0), coordinateSystem 4),
    ((59, 0), coordinateSystem 5),
    ((59, 1), coordinateSystem 6),
    ((59, 2), coordinateSystem 7),
    ((59, 3), coordinateSystem 8),
    ((61, 0), path .exactPath),
    ((61, 1), path .exactStop),
    ((64, 0), path .continuous),
    ((73, 0), motion (.drill .chipBreak)),
    ((76, 0), motion .threading),
    ((80, 0), motion .cancelled),
    ((81, 0), motion (.drill .plain)),
    ((82, 0), motion (.drill .dwell)),
    ((83, 0), motion (.drill .peck)),
    ((85, 0), motion (.drill .bore)),
    ((86, 0), motion (.drill .boreStop)),
    ((89, 0), motion (.drill .boreDwell)),
    ((90, 0), distance .absolute),
    ((90, 1), arcDistance .absolute),
    ((91, 0), distance .incremental),
    ((91, 1), arcDistance .incremental),
    ((92, 0), positioning .setOffset),
    ((92, 1), positioning .clearOffset),
    ((92, 2), positioning .suspendOffset),
    ((92, 3), positioning .restoreOffset),
    ((93, 0), feedMode .inverseTime),
    ((94, 0), feedMode .perMinute),
    ((95, 0), feedMode .perRevolution),
    ((96, 0), spindleSpeedMode .surfaceSpeed),
    ((97, 0), spindleSpeedMode .revolutions),
    ((98, 0), retract .oldZ),
    ((99, 0), retract .rPlane)]

/-- The code of a G word with the given whole number and digit. -/
def ofG? (whole digit : Int) : Option Code :=
  gTable.lookup (whole, digit)

/-- The codes by M number. -/
def mTable : List (Int × Code) :=
  [(0, flow .stop),
    (1, flow .optionalStop),
    (2, flow .finish),
    (30, flow .finishAndRewind),
    (3, spindle .clockwise),
    (4, spindle .counterclockwise),
    (5, spindle .off),
    (6, toolChange .change),
    (61, toolChange .setNumber),
    (7, coolant .mist),
    (8, coolant .flood),
    (9, coolant .off),
    (48, override .enableAll),
    (49, override .disableAll),
    (50, override .feed),
    (51, override .spindle),
    (52, override .adaptive),
    (53, override .feedStop),
    (56, override .parking)]

/-- The code of an M word with the given number; a number without a meaning is a user code. -/
def ofM (number : Int) : Code :=
  (mTable.lookup number).getD (user number)

end Code

/-- The codes that a policy may remove: M6, M7 and M8. -/
def isRemovable (number : Int) : Bool :=
  number == 6 || number == 7 || number == 8

/-- A code value as its whole number and one digit after the point, to which the fraction is
rounded.  A fraction that rounds up to one is carried. -/
def splitCode (value : Float) : Except Number.NotFinite (Int × Int) :=
  match Number.floor value with
  | .error fault => .error fault
  | .ok whole =>
    let digit := Number.roundHalfEven ((value - Float.ofInt whole) * 10.0)
    .ok (if digit = 10 then (whole + 1, 0) else (whole, digit))

end NumericControl
