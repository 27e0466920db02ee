import NumericControl.Arc.Center
import NumericControl.Block
import NumericControl.Token.Basic

/-!
# Executing a block

A block is executed in a fixed order of stages, whatever the order of its words: message, feed
mode, feed, spindle speed, tool, spindle, coolant, overrides, user codes, dwell, plane, lathe
mode, units, scaling, compensation, tool length, coordinate system, path mode, distance modes,
retract mode, positioning, motion, program flow.  Each stage yields at most one token.

Lengths are converted to millimetres before scale factors are applied; rotary axes keep their
unit.

## Main definitions

* `Execution` : a block with the state it is executed in.
* `Execution.stages` : the stages in order, and `Execution.tokens` what they yield.
* `Execution.next` : the state after the block.
-/

namespace NumericControl

/-- A block, read by group and letter, together with the state in which it is executed. -/
structure Execution extends BlockContext where
  state : State
  /-- The code of each modal group. -/
  codes : ModalGroup → Option Code
  /-- The value of each letter. -/
  word? : Char → Option Float
  owner : Option AxisOwner
  message : Option String
  /-- The words that were removed from the line. -/
  stripped : List Word

namespace Execution

variable (ex : Execution)

/-! ### Words -/

/-- What the code of a group says. -/
def code? {α : Type} (group : ModalGroup) (f : Code → Option α) : Option α :=
  (ex.codes group).bind f

/-- The values of the axis words. -/
def axisWords : PerAxis (Option Float) :=
  .ofFn fun axis => ex.word? axis.letter

/-- The value of a letter that a command needs. -/
def require (letter : Char) (command : String) : Except Failure Float :=
  match ex.word? letter with
  | some value => .ok value
  | none => .error (ex.refuse (.missing letter) command)

/-- The whole part of a value. -/
def whole (value : Float) : Except Failure Int :=
  (Number.truncate value).mapError .notWhole

/-- The whole part of the value of a letter, if the letter is there. -/
def wholeWord? (letter : Char) : Except Failure (Option Int) :=
  match ex.word? letter with
  | some value => (whole value).map some
  | none => .ok none

/-- A token on the line of the block. -/
def token (command : Command) (body : Token.Body) : Token :=
  ⟨command, ex.lineNumber, body⟩

/-! ### What the block selects -/

/-- The feed mode that the block selects. -/
def feedMode? : Option FeedMode :=
  ex.code? .feedMode fun | .feedMode m => some m | _ => none

/-- The spindle speed mode that the block selects. -/
def spindleSpeedMode? : Option SpindleSpeedMode :=
  ex.code? .spindleSpeedMode fun | .spindleSpeedMode m => some m | _ => none

/-- The tool change code. -/
def toolChange? : Option ToolChange :=
  ex.code? .toolChange fun | .toolChange c => some c | _ => none

/-- The spindle state that the block selects. -/
def spindle? : Option SpindleState :=
  ex.code? .spindle fun | .spindle s => some s | _ => none

/-- The coolant code. -/
def coolantCode? : Option CoolantCode :=
  ex.code? .coolant fun | .coolant c => some c | _ => none

/-- The override code. -/
def override? : Option Override :=
  ex.code? .override fun | .override o => some o | _ => none

/-- The number of the user code. -/
def user? : Option Int :=
  ex.code? .userCode fun | .user n => some n | _ => none

/-- Whether the block has a dwell. -/
def dwell? : Option Unit :=
  ex.code? .nonModal fun | .dwell => some () | _ => none

/-- The code that acts on positions or offsets. -/
def positioning? : Option Positioning :=
  ex.code? .nonModal fun | .positioning p => some p | _ => none

/-- The motion mode that the block selects. -/
def motion? : Option MotionMode :=
  ex.code? .motion fun | .motion m => some m | _ => none

/-- The plane that the block selects. -/
def plane? : Option Plane :=
  ex.code? .plane fun | .plane p => some p | _ => none

/-- The lathe mode that the block selects. -/
def lathe? : Option LatheMode :=
  ex.code? .latheMode fun | .lathe m => some m | _ => none

/-- The units that the block selects. -/
def units? : Option Units :=
  ex.code? .units fun | .units u => some u | _ => none

/-- Whether the block switches scaling on or off. -/
def scaling? : Option Bool :=
  ex.code? .scaling fun | .scaling active => some active | _ => none

/-- Whether the block switches cutter compensation off. -/
def cutterOff? : Option Unit :=
  ex.code? .cutterCompensation fun | .cutterOff => some () | _ => none

/-- The tool length mode that the block selects. -/
def toolLength? : Option ToolLengthMode :=
  ex.code? .toolLength fun | .toolLength m => some m | _ => none

/-- The coordinate system that the block selects. -/
def coordinateSystem? : Option Nat :=
  ex.code? .coordinateSystem fun | .coordinateSystem slot => some slot | _ => none

/-- The path mode that the block selects. -/
def path? : Option PathMode :=
  ex.code? .pathControl fun | .path m => some m | _ => none

/-- The distance mode that the block selects. -/
def distance? : Option DistanceMode :=
  ex.code? .distance fun | .distance m => some m | _ => none

/-- The distance mode of arc offsets that the block selects. -/
def arcDistance? : Option DistanceMode :=
  ex.code? .arcDistance fun | .arcDistance m => some m | _ => none

/-- The retract mode that the block selects. -/
def retract? : Option RetractMode :=
  ex.code? .returnMode fun | .retract m => some m | _ => none

/-- The program flow code. -/
def flow? : Option ProgramFlow :=
  ex.code? .programFlow fun | .flow f => some f | _ => none

/-! ### Modes in force -/

/-- The plane in force. -/
def plane : Plane :=
  ex.plane?.getD ex.state.plane

/-- The units in force. -/
def units : Units :=
  ex.units?.getD ex.state.units

/-- The distance mode in force. -/
def distance : DistanceMode :=
  ex.distance?.getD ex.state.distance

/-- The distance mode of arc offsets in force. -/
def arcDistance : DistanceMode :=
  ex.arcDistance?.getD ex.state.arcDistance

/-- The motion mode in force. -/
def motion : MotionMode :=
  ex.motion?.getD ex.state.motion

/-! ### Axis words -/

/-- The scale factors in force: switching scaling on sets those that are programmed. -/
def scaleFactors : AxisValues :=
  match ex.scaling? with
  | some true => ex.state.scaleFactors.overlay ex.axisWords
  | some false => .one
  | none => ex.state.scaleFactors

/-- Whether a scale factor differs from one. -/
def scalingActive : Bool :=
  Axis.all.any fun axis => ex.scaleFactors.get axis != 1.0

/-- Millimetres in an inch. -/
def inch : Float := 25.4

/-- A length of the program in millimetres. -/
def millimetres (value : Float) : Float :=
  match ex.units with
  | .imperial => value * inch
  | .metric => value

/-- The value of an axis word with its unit converted and its scale factor applied. -/
def converted (axis : Axis) (value : Float) : Float :=
  let length := if axis.isLinear then ex.millimetres value else value
  if ex.scalingActive then length * ex.scaleFactors.get axis else length

/-- The converted axis words, unless they were scale factors. -/
def lengthWords : PerAxis (Option Float) :=
  match ex.scaling? with
  | some _ => .replicate none
  | none => .ofFn fun axis => (ex.axisWords.get axis).map (ex.converted axis)

/-- The axis words that are coordinates: neither scale factors nor tool offsets. -/
def coordinateWords : PerAxis (Option Float) :=
  match ex.toolLength? with
  | some .dynamic => .replicate none
  | _ => ex.lengthWords

/-- The offset that a letter gives to an arc center, in the direction of an axis. -/
def offset (letter : Char) (axis : Axis) : Option Float :=
  (ex.word? letter).map fun value =>
    let length := ex.millimetres value
    if ex.scalingActive then length * ex.scaleFactors.get axis else length

/-- The offsets of an arc center. -/
def offsets : Triple (Option Float) :=
  ⟨ex.offset 'I' .x, ex.offset 'J' .y, ex.offset 'K' .z⟩

/-- The axis values after the block. -/
def axisValues : AxisValues :=
  ex.state.axisValues.overlay ex.coordinateWords

/-- The axes with a coordinate. -/
def axes : List Axis :=
  ex.coordinateWords.given

/-- The axis values after the block, with the axes that it programs. -/
def target : Target :=
  ⟨ex.axisValues, ex.axes⟩

/-- The tool offsets after a block that sets them. -/
def dynamicOffsets : AxisValues :=
  ex.state.toolOffsets.overlay ex.lengthWords

/-! ### Positions -/

/-- The position that a positioning code leads to. -/
def positioned : AxisValues :=
  match ex.positioning? with
  | some .goFirst | some .goSecond => advance ex.state.position ex.axisValues ex.axes ex.distance
  | some .machine | some .setOffset =>
    advance ex.state.position ex.axisValues ex.axes .absolute
  | _ => ex.state.position

/-- Whether the axis words move the tool in the motion mode in force. -/
def moves : Bool :=
  ex.positioning?.isNone && ex.motion != .cancelled && !ex.axes.isEmpty
    && ex.owner == some .motion

/-- Where a move in the motion mode in force ends. -/
def moveEnd : AxisValues :=
  advance ex.state.position ex.axisValues ex.axes ex.distance

/-- The position after the block. -/
def position : AxisValues :=
  if ex.moves then ex.moveEnd else ex.positioned

/-- The retract plane of drilling cycles after the block. -/
def drillPlane : Float :=
  match ex.motion, ex.word? 'R' with
  | .drill _, some r => if ex.moves then ex.millimetres r else ex.state.drillPlane
  | _, _ => ex.state.drillPlane

/-! ### Stages -/

/-- A message for the operator. -/
def messageStage : Except Failure (Option Token) :=
  match ex.message with
  | none | some "" => .ok none
  | some text => .ok (some (ex.token .comment (.comment text)))

/-- A token that says nothing beside its command, if there is one. -/
def plainStage (command? : Option Command) : Except Failure (Option Token) :=
  .ok (command?.map fun command => ex.token command .plain)

/-- The command of a feed mode. -/
def feedModeCommand : FeedMode → Command
  | .inverseTime => .g93
  | .perMinute => .g94
  | .perRevolution => .g95

/-- The command of a spindle speed mode. -/
def spindleSpeedModeCommand : SpindleSpeedMode → Command
  | .surfaceSpeed => .g96
  | .revolutions => .g97

/-- The feed mode. -/
def feedModeStage : Except Failure (Option Token) :=
  ex.plainStage (ex.feedMode?.map feedModeCommand)

/-- The feed. -/
def feedStage : Except Failure (Option Token) :=
  .ok ((ex.word? 'F').map fun value => ex.token .feedrate (.feed value))

/-- The spindle speed mode. -/
def spindleSpeedModeStage : Except Failure (Option Token) :=
  ex.plainStage (ex.spindleSpeedMode?.map spindleSpeedModeCommand)

/-- The spindle speed. -/
def spindleSpeedStage : Except Failure (Option Token) :=
  .ok ((ex.word? 'S').map fun value => ex.token .spindleRpm (.spindleSpeed value))

/-- The selected tool. -/
def toolSelectStage : Except Failure (Option Token) := do
  return (← ex.wholeWord? 'T').map fun tool => ex.token .toolSelect (.toolSelect tool)

/-- The tool number that a block sets without a change, if it does. -/
def toolNumber? : Except Failure (Option Int) := do
  match ex.toolChange? with
  | some .setNumber => return some (← whole (← ex.require 'Q' "M61"))
  | _ => return none

/-- The tool change. -/
def toolChangeStage : Except Failure (Option Token) := do
  match ex.toolChange?, ← ex.toolNumber? with
  | some .change, _ => return some (ex.token .m6 .plain)
  | _, some tool => return some (ex.token .m61 (.toolSelect tool))
  | _, none => return none

/-- The spindle. -/
def spindleStage : Except Failure (Option Token) :=
  .ok (ex.spindle?.map fun state => ex.token .spindleState (.spindle state))

/-- The coolant after a coolant code: each supply is switched on for itself and both are
switched off together. -/
def coolantAfter (before : Coolant) : CoolantCode → Coolant
  | .mist => before.or .mist
  | .flood => before.or .flood
  | .off => .off

/-- The coolant that the block selects. -/
def coolant? : Option Coolant :=
  ex.coolantCode?.map (coolantAfter ex.state.coolant)

/-- The coolant. -/
def coolantStage : Except Failure (Option Token) :=
  .ok (ex.coolant?.map fun state => ex.token .coolantState (.coolant state))

/-- The command of an override code. -/
def overrideCommand : Override → Command
  | .enableAll => .m48
  | .disableAll => .m49
  | .feed => .m50
  | .spindle => .m51
  | .adaptive => .m52
  | .feedStop => .m53
  | .parking => .m56

/-- The overrides. -/
def overrideStage : Except Failure (Option Token) :=
  ex.plainStage (ex.override?.map overrideCommand)

/-- A parameter value: six places, without the zeros that end them; minus zero is zero. -/
def parameterText (value : Float) : String :=
  let digits := (Number.fixedText 6 value).toList
  let digits := Text.dropTailWhile (· == '.') (Text.dropTailWhile (· == '0') digits)
  match digits with
  | [] | ['-', '0'] => "0"
  | digits => String.ofList digits

/-- The letters that a user code takes as parameters, in the order of the parameter text. -/
def parameterLetters : List Char := ['P', 'Q', 'E', 'D']

/-- The parameters of a user code. -/
def parameters : String :=
  " ".intercalate <| parameterLetters.filterMap fun letter =>
    (ex.word? letter).map fun value => String.singleton letter ++ parameterText value

/-- The user code. -/
def userStage : Except Failure (Option Token) :=
  .ok (ex.user?.map fun number => ex.token .userCode (.userCode number ex.parameters))

/-- The dwell. -/
def dwellStage : Except Failure (Option Token) := do
  match ex.dwell? with
  | some _ => return some (ex.token .g4 (.dwell (← ex.require 'P' "G4")))
  | none => return none

/-- The command of a plane. -/
def planeCommand : Plane → Command
  | .xy => .g17
  | .zx => .g18
  | .yz => .g19

/-- The plane. -/
def planeStage : Except Failure (Option Token) :=
  .ok (ex.plane?.map fun plane => ex.token (planeCommand plane) (.plane plane))

/-- The command of a lathe mode. -/
def latheCommand : LatheMode → Command
  | .diameter => .g7
  | .radius => .g8

/-- The lathe mode. -/
def latheStage : Except Failure (Option Token) :=
  .ok (ex.lathe?.map fun mode => ex.token (latheCommand mode) (.lathe mode))

/-- The command of a unit. -/
def unitsCommand : Units → Command
  | .metric => .g21
  | .imperial => .g20

/-- The units. -/
def unitsStage : Except Failure (Option Token) :=
  .ok (ex.units?.map fun units => ex.token (unitsCommand units) (.units units))

/-- Scaling. -/
def scalingStage : Except Failure (Option Token) :=
  .ok <| ex.scaling?.map fun active =>
    ex.token (if active then .g51 else .g50)
      (.scaling ⟨ex.scaleFactors, ex.axisWords.given⟩)

/-- Cutter compensation off. -/
def cutterStage : Except Failure (Option Token) :=
  ex.plainStage (ex.cutterOff?.map fun _ => .g40)

/-- The number of a tool length offset: the H word, or the tool in force before the block. -/
def toolOffsetNumber : Except Failure Int := do
  return (← ex.wholeWord? 'H').getD ex.state.tool

/-- The tool length. -/
def toolLengthStage : Except Failure (Option Token) := do
  match ex.toolLength? with
  | some .enable => return some (ex.token .g43 (.toolOffset (← ex.toolOffsetNumber)))
  | some .additional => return some (ex.token .g43_2 (.toolOffset (← ex.toolOffsetNumber)))
  | some .dynamic =>
    return some (ex.token .g43_1 (.toolOffsets ⟨ex.dynamicOffsets, ex.lengthWords.given⟩))
  | some .cancel => return some (ex.token .g49 .plain)
  | none => return none

/-- The command of a work coordinate system. -/
def coordinateSystemCommand : Nat → Command
  | 0 => .g54
  | 1 => .g55
  | 2 => .g56
  | 3 => .g57
  | 4 => .g58
  | 5 => .g59
  | 6 => .g59_1
  | 7 => .g59_2
  | _ => .g59_3

/-- The coordinate system. -/
def coordinateSystemStage : Except Failure (Option Token) :=
  ex.plainStage (ex.coordinateSystem?.map coordinateSystemCommand)

/-- The command of a path mode. -/
def pathCommand : PathMode → Command
  | .exactPath => .g61
  | .exactStop => .g61_1
  | .continuous => .g64

/-- The path mode. -/
def pathStage : Except Failure (Option Token) :=
  ex.plainStage (ex.path?.map pathCommand)

/-- The command of a distance mode. -/
def distanceCommand : DistanceMode → Command
  | .absolute => .g90
  | .incremental => .g91

/-- The distance mode. -/
def distanceStage : Except Failure (Option Token) :=
  .ok (ex.distance?.map fun mode => ex.token (distanceCommand mode) (.distance mode))

/-- The command of a distance mode of arc offsets. -/
def arcDistanceCommand : DistanceMode → Command
  | .absolute => .g90_1
  | .incremental => .g91_1

/-- The distance mode of arc offsets. -/
def arcDistanceStage : Except Failure (Option Token) :=
  .ok (ex.arcDistance?.map fun mode => ex.token (arcDistanceCommand mode) (.arcDistance mode))

/-- The command of a retract mode. -/
def retractCommand : RetractMode → Command
  | .oldZ => .g98
  | .rPlane => .g99

/-- The retract mode. -/
def retractStage : Except Failure (Option Token) :=
  ex.plainStage (ex.retract?.map retractCommand)

/-- The last work coordinate system. -/
def lastSlot : Int := 8

/-- The slot of the offset. -/
def offsetSlot : Int := 10

/-- The slot of the first stored position. -/
def firstSlot : Int := 11

/-- The slot of the second stored position. -/
def secondSlot : Int := 12

/-- The work coordinate system whose data are set: the one that the P word chooses, counted from
one, or else the one in force before the block. -/
def dataSlot (choice : Int) : Int :=
  if 0 < choice then choice - 1 else (ex.state.coordinateSystem : Int)

/-- Values for a work coordinate system. -/
def setCoordinates (choice : Int) : Except Failure (Option Token) :=
  if lastSlot < ex.dataSlot choice then
    .error (ex.refuse .coordinateSystemRange ("P" ++ toString choice))
  else .ok (some (ex.token .g10 (.coordinates ex.target (ex.dataSlot choice))))

/-- Values for the tool table. -/
def setToolEntry (form choice : Int) : Except Failure (Option Token) :=
  .ok (some (ex.token .g10 (.toolTable ex.target form choice ((ex.word? 'R').map ex.millimetres))))

/-- Setting data, for a work coordinate system or for the tool table. -/
def setDataStage : Except Failure (Option Token) := do
  let form ← whole (← ex.require 'L' "G10")
  let choice := (← ex.wholeWord? 'P').getD 0
  if form = 2 ∨ form = 20 then ex.setCoordinates choice
  else if (form = 1 ∨ form = 10 ∨ form = 11) ∧ ex.config.dialect ≠ .embedded then
    ex.setToolEntry form choice
  else throw (ex.refuse .unsupportedDataForm ("L" ++ toString form))

/-- Positions and offsets. -/
def positioningStage : Except Failure (Option Token) :=
  match ex.positioning? with
  | none => .ok none
  | some .setData => ex.setDataStage
  | some .goFirst => .ok (some (ex.token .g28 (.linear ex.target)))
  | some .goSecond => .ok (some (ex.token .g30 (.linear ex.target)))
  | some .machine => .ok (some (ex.token .g53 (.linear ex.target)))
  | some .storeFirst => .ok (some (ex.token .g28_1 (.coordinates ex.target firstSlot)))
  | some .storeSecond => .ok (some (ex.token .g30_1 (.coordinates ex.target secondSlot)))
  | some .setOffset => .ok (some (ex.token .g92 (.coordinates ex.target offsetSlot)))
  | some .clearOffset => .ok (some (ex.token .g92_1 .plain))
  | some .suspendOffset => .ok (some (ex.token .g92_2 .plain))
  | some .restoreOffset => .ok (some (ex.token .g92_3 .plain))

/-- The axis of a coordinate. -/
def axisOf : Coordinate → Axis
  | .x => .x
  | .y => .y
  | .z => .z

/-- The radius of an arc in millimetres, scaled by the larger factor of its plane. -/
def arcRadiusOf (value : Float) : Float :=
  let radius := ex.millimetres value
  if ex.scalingActive then
    let first := ex.scaleFactors.get (axisOf ex.plane.first)
    let second := ex.scaleFactors.get (axisOf ex.plane.second)
    radius * (if first < second then second else first)
  else radius

/-- The command of an arc. -/
def arcCommand (clockwise : Bool) : Command :=
  if clockwise then .g2 else .g3

/-- An arc with a radius.  A radius that fixes no arc is refused here. -/
def radiusArc (clockwise : Bool) (radius : Float) : Except Failure Token :=
  match centerFromRadius ex.state.position.point ex.moveEnd.point radius clockwise ex.plane with
  | .ok _ =>
    .ok (ex.token (arcCommand clockwise)
      (.arc ex.target ⟨⟨none, none, none⟩, some radius, ex.arcDistance, ex.plane⟩))
  | .error fault => .error (ex.refuse (.degenerate fault) (ParseError.radiusWord radius))

/-- An arc with offsets, of which there has to be one. -/
def offsetArc (clockwise : Bool) : Except Failure Token :=
  if ex.offsets.i.isNone && ex.offsets.j.isNone && ex.offsets.k.isNone then
    .error (ex.refuse .arcWithoutCenter (arcCommand clockwise).text)
  else
    .ok (ex.token (arcCommand clockwise)
      (.arc ex.target ⟨ex.offsets, none, ex.arcDistance, ex.plane⟩))

/-- An arc, by its radius if there is one. -/
def arcMove (clockwise : Bool) : Except Failure Token :=
  match ex.word? 'R' with
  | some value => ex.radiusArc clockwise (ex.arcRadiusOf value)
  | none => ex.offsetArc clockwise

/-- A move in step with the spindle. -/
def spindleSyncMove : Except Failure Token :=
  match ex.offsets.k with
  | some pitch => .ok (ex.token .g33 (.spindleSync ex.target pitch))
  | none => .error (ex.refuse (.missing 'K') "G33")

/-- A threading cycle. -/
def threadMove : Except Failure Token := do
  let pitch := ex.millimetres (← ex.require 'P' "G76")
  match ex.offsets.k with
  | none => throw (ex.refuse (.missing 'K') "G76")
  | some k =>
    return ex.token .g76 <| .thread ex.target
      { pitch
        i := ex.offsets.i.getD 0.0
        j := ex.offsets.j.getD 0.0
        r := (ex.word? 'R').getD 1.0
        k
        q := (ex.word? 'Q').getD 0.0
        h := (← ex.wholeWord? 'H').getD 0
        e := ex.millimetres ((ex.word? 'E').getD 0.0)
        l := (← ex.wholeWord? 'L').getD 0 }

/-- The command of a drilling cycle. -/
def drillCommand : DrillCycle → Command
  | .chipBreak => .g73
  | .plain => .g81
  | .dwell => .g82
  | .peck => .g83
  | .bore => .g85
  | .boreStop => .g86
  | .boreDwell => .g89

/-- The step of a cycle that drills in steps; it has to be positive. -/
def peckOf (cycle : DrillCycle) : Except Failure Float :=
  if cycle.pecks then
    match ex.word? 'Q' with
    | none => .error (ex.refuse .peckMissing (drillCommand cycle).text)
    | some step =>
      if step ≤ 0.0 then .error (ex.refuse .peckMissing (drillCommand cycle).text)
      else .ok (ex.millimetres step)
  else .ok 0.0

/-- A drilling cycle; a count of repeats that is not positive is one. -/
def drillMove (cycle : DrillCycle) : Except Failure Token := do
  let repeats := (← ex.wholeWord? 'L').getD 1
  if cycle = .chipBreak ∧ (ex.word? 'R').isNone then
    throw (ex.refuse (.missing 'R') (drillCommand cycle).text)
  let peck ← ex.peckOf cycle
  return ex.token (drillCommand cycle) <| .drill ex.target
    { plane := ex.drillPlane
      repeats := if repeats ≤ 0 then 1 else repeats
      dwell := if cycle.pauses then (ex.word? 'P').getD 0.0 else 0.0
      peck }

/-- The command of a probing move. -/
def probeCommand : ProbeMode → Command
  | .toward => .g38_2
  | .towardQuiet => .g38_3
  | .away => .g38_4
  | .awayQuiet => .g38_5

/-- The move in the motion mode in force. -/
def move : Except Failure (Option Token) :=
  match ex.motion with
  | .seek => .ok (some (ex.token .g0 (.linear ex.target)))
  | .linear => .ok (some (ex.token .g1 (.linear ex.target)))
  | .probe mode => .ok (some (ex.token (probeCommand mode) (.linear ex.target)))
  | .arc clockwise => (ex.arcMove clockwise).map some
  | .spindleSync => ex.spindleSyncMove.map some
  | .threading => ex.threadMove.map some
  | .drill cycle => (ex.drillMove cycle).map some
  | .cancelled => .ok none

/-- Motion, or its cancellation. -/
def motionStage : Except Failure (Option Token) :=
  if ex.motion? = some .cancelled then .ok (some (ex.token .g80 .plain))
  else if ex.moves then ex.move
  else .ok none

/-- The command of a program flow code. -/
def flowCommand : ProgramFlow → Command
  | .stop => .m0
  | .optionalStop => .m1
  | .finish => .m2
  | .finishAndRewind => .m30

/-- Program flow. -/
def flowStage : Except Failure (Option Token) :=
  ex.plainStage (ex.flow?.map flowCommand)

/-! ### The whole block -/

/-- The stages in the order in which they are executed. -/
def stages : List (Execution → Except Failure (Option Token)) :=
  [messageStage, feedModeStage, feedStage, spindleSpeedModeStage, spindleSpeedStage,
    toolSelectStage, toolChangeStage, spindleStage, coolantStage, overrideStage, userStage,
    dwellStage, planeStage, latheStage, unitsStage, scalingStage, cutterStage, toolLengthStage,
    coordinateSystemStage, pathStage, distanceStage, arcDistanceStage, retractStage,
    positioningStage, motionStage, flowStage]

/-- The tokens of a sequence of stages. -/
def tokensOf : List (Execution → Except Failure (Option Token)) → Except Failure (List Token)
  | [] => .ok []
  | stage :: rest => do
    let token ← stage ex
    return token.toList ++ (← tokensOf rest)

/-- The sequence number after the block. -/
def sequenceNumber : Except Failure Int := do
  return (← ex.wholeWord? 'N').getD ex.state.sequenceNumber

/-- The tool after the block: the number set, else the tool selected. -/
def tool : Except Failure Int := do
  let selected ← ex.wholeWord? 'T'
  return ((← ex.toolNumber?).or selected).getD ex.state.tool

/-- The tool offsets after the block. -/
def toolOffsets : AxisValues :=
  match ex.toolLength? with
  | some .dynamic => ex.dynamicOffsets
  | some .cancel => .zero
  | _ => ex.state.toolOffsets

/-- Whether the block ends the program. -/
def endsProgram : Bool :=
  ex.flow? == some .finish || ex.flow? == some .finishAndRewind

/-- The state after the block. -/
def next (sequenceNumber tool : Int) : State :=
  { ex.state with
    motion := ex.motion
    plane := ex.plane
    distance := ex.distance
    arcDistance := ex.arcDistance
    units := ex.units
    lathe := ex.lathe?.getD ex.state.lathe
    coordinateSystem := ex.coordinateSystem?.getD ex.state.coordinateSystem
    toolLength := ex.toolLength?.getD ex.state.toolLength
    toolOffsets := ex.toolOffsets
    scaleFactors := ex.scaleFactors
    spindle := ex.spindle?.getD ex.state.spindle
    coolant := ex.coolant?.getD ex.state.coolant
    feedMode := ex.feedMode?.getD ex.state.feedMode
    spindleSpeedMode := ex.spindleSpeedMode?.getD ex.state.spindleSpeedMode
    path := ex.path?.getD ex.state.path
    retract := ex.retract?.getD ex.state.retract
    lineNumber := ex.lineNumber
    sequenceNumber
    programEnd := ex.state.programEnd || ex.endsProgram
    axisValues := ex.axisValues
    position := ex.position
    drillPlane := ex.drillPlane
    tool }

/-- The tools that the block asks for. -/
def toolRequests : Except Failure (List Int) := do
  return (← ex.wholeWord? 'T').toList

/-- The tokens of the block, the state after it, and the tools it asks for. -/
def run : Except Failure (List Token × State × List Int) := do
  let sequenceNumber ← ex.sequenceNumber
  let tokens ← ex.tokensOf stages
  let tool ← ex.tool
  return (tokens, ex.next sequenceNumber tool, ← ex.toolRequests)

end Execution

end NumericControl
