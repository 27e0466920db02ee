import NumericControl.Json.Arithmetic
import NumericControl.Json.Display
import NumericControl.Token.Record
import NumericControl.Toolpath

/-!
# Replaying token records

Records that were read from a document are replayed like the tokens of a program.  Their fields
may hold any value, and a value that is of no use ends the replay where it is used, not before;
so a position may hold whole numbers, or even a text on an axis that nobody measures.  Where two
values are of no use the one used first counts, so the order of the steps matters.

## Main definitions

* `ReplayFault` : why a replay fails.
* `checkResolution`, `chordsOf` : the chords that a value asks for.
* `Record.advance` : the position that a record leads to.
* `RecordBox`, `boxOfRecords` : the box of the end points of all moves.
* `RecordPath`, `toolpathOfRecords` : the path, with arcs cut into chords.
-/

namespace NumericControl

/-- Why a replay fails. -/
inductive ReplayFault where
  /-- The number of chords, shown as it is given, is not positive. -/
  | notPositive (shown : String)
  | value (fault : ValueFault)
  /-- An arc has neither a radius nor offsets. -/
  | unspecifiedCenter

instance : MonadLift (Except ValueFault) (Except ReplayFault) where
  monadLift result := result.mapError .value

/-! ### The number of chords -/

/-- A value asks for chords if it is not less than one. -/
def checkResolution (resolution : Json) : Except ReplayFault Unit := do
  if ← resolution.less (.int 1) then
    throw (.notPositive resolution.display)

/-- The chords that a value asks for, of which the number has to be whole. -/
def chordsOf (resolution : Json) : Except ValueFault Chords := do
  let double ← resolution.toDouble
  match ← resolution.quantity with
  | .whole n => return ⟨n.toNat, double⟩
  | .double _ => throw .otherType

/-! ### Positions -/

/-- The axis that an item of a list of axes names. -/
def Json.axis (value : Json) : Except ValueFault Axis :=
  match value with
  | .text s =>
    match s.toList with
    | [letter] => (Axis.ofLetter? letter).elim (.error .otherValue) .ok
    | _ => .error .otherValue
  | _ => .error .otherValue

namespace Record

/-- The distance mode that a record sets. -/
def distanceMode (r : Record) : DistanceMode :=
  (distanceOf (r.field "mode")).toOption.getD .absolute

/-- The units that a record sets. -/
def units (r : Record) : Units :=
  (namedOf [.metric, .imperial] Units.code (r.field "units")).toOption.getD .metric

/-- The plane of an arc. -/
def plane (r : Record) : Plane :=
  (planeOf (r.field "plane")).toOption.getD .xy

/-- Whether the offsets of an arc are positions. -/
def hasAbsoluteOffsets (r : Record) : Bool :=
  (distanceOf (r.field "ijk_mode")).toOption == some .absolute

/-- The position with the new value of one of the axes of a record. -/
def advanceAxis (r : Record) (position : PerAxis Json) (mode : DistanceMode)
    (target : PerAxis Json) (letter : Json) : Except ValueFault (PerAxis Json) := do
  let axis ← letter.axis
  let value ← (r.field "values").item axis.index
  match mode with
  | .absolute => return target.set axis value
  | .incremental => return target.set axis (← (position.get axis).plus value)

/-- The position that a record leads to. -/
def advance (r : Record) (position : PerAxis Json) (mode : DistanceMode) :
    Except ValueFault (PerAxis Json) :=
  match (r.field "axes").items? with
  | some letters => letters.foldlM (r.advanceAxis position mode) position
  | none => .error .otherType

end Record

/-- The position at the start of a replay. -/
def originRecord : PerAxis Json :=
  AxisValues.zero.map .float

/-! ### The box -/

/-- The extents along the axes, in values as records hold them. -/
abbrev RecordBox := PerAxis (Span Json)

namespace RecordBox

/-- A box as records would hold it. -/
def ofBox (box : Box Float) : RecordBox :=
  box.map fun span => ⟨.float span.low, .float span.high⟩

/-- The box of no point. -/
def empty : RecordBox :=
  ofBox .empty

/-- The extent that takes in one more value. -/
def widen (span : Span Json) (value : Json) : Except ValueFault (Span Json) := do
  let low := if ← value.less span.low then value else span.low
  let high := if ← span.high.less value then value else span.high
  return ⟨low, high⟩

/-- The box that takes in one more point. -/
def add (box : RecordBox) (p : PerAxis Json) : Except ValueFault RecordBox := do
  return ⟨← widen box.x p.x, ← widen box.y p.y, ← widen box.z p.z, ← widen box.a p.a,
    ← widen box.b p.b, ← widen box.c p.c⟩

/-- The box with zero along the axes without values. -/
def normalize (box : RecordBox) : RecordBox :=
  box.map fun span =>
    match span.low with
    | .float x => if x == Number.infinity then ⟨.float 0.0, .float 0.0⟩ else span
    | _ => span

/-- The nearest doubles of an extent. -/
def spanDoubles (span : Span Json) : Except ValueFault (Span Float) := do
  return ⟨← span.low.toDouble, ← span.high.toDouble⟩

/-- The nearest box of doubles. -/
def toBox (box : RecordBox) : Except ValueFault (Box Float) := do
  return ⟨← spanDoubles box.x, ← spanDoubles box.y, ← spanDoubles box.z, ← spanDoubles box.a,
    ← spanDoubles box.b, ← spanDoubles box.c⟩

end RecordBox

/-- A replay of records that follows the position. -/
structure RecordBoxReplay where
  box : RecordBox := .empty
  position : PerAxis Json := originRecord
  distance : DistanceMode := .absolute

namespace RecordBoxReplay

/-- The replay after a move: its end points belong to the box. -/
def move (s : RecordBoxReplay) (r : Record) (mode : DistanceMode) :
    Except ValueFault RecordBoxReplay := do
  let position ← r.advance s.position mode
  return { s with box := ← (← s.box.add s.position).add position, position }

/-- The replay after one more record. -/
def step (s : RecordBoxReplay) (r : Record) : Except ValueFault RecordBoxReplay :=
  match r.kind with
  | .distance => .ok { s with distance := r.distanceMode }
  | .coordinates =>
    if r.command = .g92 then do
      return { s with position := ← r.advance s.position .absolute }
    else .ok s
  | .linear => s.move r (if r.command = .g53 then .absolute else s.distance)
  | .arc | .drill => s.move r s.distance
  | _ => .ok s

end RecordBoxReplay

/-- The box of the end points of all straight moves, arcs and drilling cycles. -/
def boxOfRecords (records : List Record) : Except ValueFault RecordBox := do
  return (← records.foldlM RecordBoxReplay.step {}).box

/-! ### Arcs -/

namespace Point

/-- The nearest doubles of a point. -/
def doubles (p : Point Json) : Except ValueFault (Point Float) := do
  return ⟨← p.x.toDouble, ← p.y.toDouble, ← p.z.toDouble⟩

/-- The doubles that are read from a point. -/
def readDoubles (p : Point Json) : Except ValueFault (Point Float) := do
  return ⟨← p.x.readDouble, ← p.y.readDouble, ← p.z.readDouble⟩

/-- The way from one point to another one along a coordinate. -/
def wayAlong (p q : Point Json) (c : Coordinate) : Except ValueFault Json :=
  (q.get c).minus (p.get c)

/-- The nearest doubles of the way from one point to another one, in a plane. -/
def wayDoubles (p q : Point Json) (plane : Plane) : Except ValueFault (Float × Float) := do
  let first ← p.wayAlong q plane.first
  let second ← p.wayAlong q plane.second
  return (← first.toDouble, ← second.toDouble)

end Point

/-- What is wrong with a radius that is no number.  It would be shown if the ends coincide. -/
def radiusFault (way : Float × Float) : Json → ValueFault
  | .text _ | .brokenText _ =>
    if hypotenuse way.1 way.2 < Scalar.epsilon then .otherValue else .otherType
  | _ => .otherType

/-- The center of an arc with a radius, if the radius fixes an arc.  Whole numbers are squared
exactly. -/
def recordCenterFromRadius (start stop : Point Json) (radius : Json) (clockwise : Bool)
    (plane : Plane) : Except ValueFault (Option (Point Json)) := do
  let way ← start.wayDoubles stop plane
  match radius.quantity with
  | .error _ => throw (radiusFault way radius)
  | .ok radius =>
    if radius.isZero then return none
    let length ← radius.toDouble
    let first ← (← start.wayAlong stop plane.first).square
    let second ← (← start.wayAlong stop plane.second).square
    match centerOffsetBy way (first, second) length clockwise with
    | .error _ => return none
    | .ok offset => return some (((← start.readDoubles).shift plane offset).map .float)

/-- Whether an offset is given: the empty value and what is no number are not. -/
def isGivenOffset : Json → Bool
  | .null => false
  | .float x => !x.isNaN
  | _ => true

/-- A coordinate of the center of an arc from its offset. -/
def recordCenterCoordinate (absolute : Bool) (start : Json) (nearest : Float) (offset : Json) :
    Except ValueFault Json :=
  if !isGivenOffset offset then .ok (.float nearest)
  else if absolute then .ok offset
  else start.plus offset

/-- The center of an arc from offsets, one coordinate after the other. -/
def recordCenterFromOffsets (start : Point Json) (offsets : Json) (absolute : Bool) :
    Except ValueFault (Point Json) := do
  let nearest ← start.readDoubles
  let x ← recordCenterCoordinate absolute start.x nearest.x (← offsets.item 0)
  let y ← recordCenterCoordinate absolute start.y nearest.y (← offsets.item 1)
  let z ← recordCenterCoordinate absolute start.z nearest.z (← offsets.item 2)
  return ⟨x, y, z⟩

/-- Whether a value is nearly zero. -/
def isShort (value : Json) : Except ValueFault Bool := do
  match ← value.quantity with
  | .whole n => return n == 0
  | .double x => return decide (magnitude x < Scalar.epsilon)

/-- Whether the ends of an arc coincide in its plane. -/
def isClosed (start stop : Point Json) (plane : Plane) : Except ValueFault Bool := do
  if ← isShort (← start.wayAlong stop plane.first) then
    isShort (← start.wayAlong stop plane.second)
  else return false

/-- The angles of an arc. -/
def recordAngles (start stop center : Point Json) (clockwise : Bool) (plane : Plane) :
    Except ValueFault (ArcAngles Float) := do
  let fromStart ← center.wayDoubles start plane
  let fromStop ← center.wayDoubles stop plane
  return anglesBetween fromStart fromStop (← isClosed start stop plane) clockwise

/-- The distance of a point from the center of an arc, in the plane of the arc. -/
def recordRadius (p center : Point Json) (plane : Plane) : Except ValueFault Float := do
  let way ← center.wayDoubles p plane
  return hypotenuse way.1 way.2

/-- The points of an arc cut into chords.  They lie around the exact center, as far from it as the
nearest doubles of the start point are. -/
def recordPoints (resolution : Json) (start stop center : Point Json) (clockwise : Bool)
    (plane : Plane) : Except ReplayFault (List (Point Float)) := do
  checkResolution resolution
  let first ← start.readDoubles
  let last ← stop.readDoubles
  let angles ← recordAngles start stop center clockwise plane
  let radius ← recordRadius (first.map .float) center plane
  let chords ← chordsOf resolution
  let arc : PlanarArc Float :=
    { center := (← (center.get plane.first).toDouble, ← (center.get plane.second).toDouble)
      radius, angles }
  return arc.points first last clockwise plane chords

/-- The length of the path of an arc. -/
def recordLength (start stop center : Point Json) (clockwise : Bool) (plane : Plane) :
    Except ValueFault Float := do
  let radius ← recordRadius start center plane
  let angles ← recordAngles start stop center clockwise plane
  let rise ← (← start.wayAlong stop plane.helix).toDouble
  return Scalar.hypot (angles.sweep * radius) rise

namespace Record

/-- Whether an arc is travelled clockwise. -/
def isClockwise (r : Record) : Bool :=
  r.command == .g2

/-- The center of an arc, by its radius if it has one; none if the radius fixes no arc. -/
def center (r : Record) (start stop : Point Json) : Except ReplayFault (Option (Point Json)) :=
  match r.field "radius", r.field "ijk" with
  | .null, .null => .error .unspecifiedCenter
  | .null, offsets => do
    let center ← recordCenterFromOffsets start offsets r.hasAbsoluteOffsets
    return some center
  | radius, _ => do
    let center ← recordCenterFromRadius start stop radius r.isClockwise r.plane
    return center

end Record

/-! ### The path -/

/-- A move in values as records hold them. -/
structure RecordMove where
  start : Point Json
  stop : Point Json
  command : Command
  line : Json
  /-- The feed in force, or the empty value. -/
  feed : Json
  feedMode : FeedMode
  delta : Point Json
  distance : Float
  /-- The length of the curve, for arcs. -/
  arcLength : Option Float

/-- A move as records would hold it. -/
def RecordMove.ofMove (m : Move) : RecordMove :=
  { start := m.start.map .float
    stop := m.stop.map .float
    command := m.command
    line := .int m.line
    feed := optionalField m.feed
    feedMode := m.feedMode
    delta := m.delta.map .float
    distance := m.distance
    arcLength := m.arcLength }

/-- Segments, bounds and moves of records. -/
structure RecordPath where
  segments : Array Segment := #[]
  bounds : Option PathBounds := none
  moves : Array RecordMove := #[]

/-- A path as records would hold it. -/
def RecordPath.ofToolpath (path : Toolpath) : RecordPath :=
  ⟨path.segments, path.bounds, path.moves.map .ofMove⟩

/-- The extents of a path in values as records hold them. -/
abbrev RecordBounds := Point (Span Json)

/-- The bounds that take in one more point. -/
def RecordBounds.add (bounds : Option RecordBounds) (p : Point Json) :
    Except ValueFault (Option RecordBounds) := do
  match bounds with
  | none => return some (p.map .single)
  | some b =>
    let x ← RecordBox.widen b.x p.x
    let y ← RecordBox.widen b.y p.y
    let z ← RecordBox.widen b.z p.z
    return some ⟨x, y, z⟩

/-- The bounds that take in some points, one after the other. -/
def RecordBounds.addAll (bounds : Option RecordBounds) (points : List (Point Float)) :
    Except ValueFault (Option RecordBounds) :=
  points.foldlM (fun bounds p => add bounds (p.map .float)) bounds

/-- A replay of records: position and modes so far, and the parts of the path. -/
structure RecordReplay where
  position : PerAxis Json := originRecord
  distance : DistanceMode := .absolute
  units : Units := .metric
  feedMode : FeedMode := .perMinute
  /-- The last feed as it was programmed, or the empty value. -/
  feed : Json := .null
  segments : Array Segment := #[]
  bounds : Option RecordBounds := none
  moves : Array RecordMove := #[]

namespace RecordReplay

/-- The feed in force in millimetres; inverse time feeds have no unit of length. -/
def feedInForce (s : RecordReplay) : Except ValueFault Json :=
  match s.feed, s.feedMode, s.units with
  | .null, _, _ | _, .inverseTime, _ | _, _, .metric => .ok s.feed
  | feed, _, .imperial => do return .float ((← feed.toDouble) * 25.4)

/-- The moves of the path with one more. -/
def addMove (s : RecordReplay) (r : Record) (start stop : Point Json) (distance : Float)
    (arcLength : Option Float) : Except ValueFault (Array RecordMove) := do
  let feed ← s.feedInForce
  let delta : Point Json :=
    ⟨← start.wayAlong stop .x, ← start.wayAlong stop .y, ← start.wayAlong stop .z⟩
  return s.moves.push
    { start, stop, command := r.command, line := r.line, feed, feedMode := s.feedMode, delta
      distance, arcLength }

/-- Where the move of a record ends. -/
def moveEnd (s : RecordReplay) (r : Record) : Except ValueFault (PerAxis Json) :=
  r.advance s.position (if r.command = .g53 then .absolute else s.distance)

/-- The nearest doubles of two points, coordinate by coordinate. -/
def endDoubles (p q : Point Json) : Except ValueFault (Point Float × Point Float) := do
  let startX ← p.x.toDouble
  let stopX ← q.x.toDouble
  let startY ← p.y.toDouble
  let stopY ← q.y.toDouble
  let startZ ← p.z.toDouble
  let stopZ ← q.z.toDouble
  return (⟨startX, startY, startZ⟩, ⟨stopX, stopY, stopZ⟩)

/-- The replay after a straight move. -/
def straight (s : RecordReplay) (r : Record) : Except ValueFault RecordReplay := do
  let position ← s.moveEnd r
  let start := s.position.point
  let stop := position.point
  let bounds ← RecordBounds.add (← RecordBounds.add s.bounds start) stop
  let (nearStart, nearStop) ← endDoubles start stop
  let kind := straightKind r.command (r.kind == .drill)
  return { s with
    position
    segments := s.segments.push ⟨nearStart, nearStop, kind⟩
    bounds
    moves := ← s.addMove r start stop (distanceBetween nearStart nearStop) none }

/-- The replay after an arc around a center, which is cut into chords. -/
def arcAround (resolution : Json) (s : RecordReplay) (r : Record) (position : PerAxis Json)
    (center : Point Json) : Except ReplayFault RecordReplay := do
  let start := s.position.point
  let stop := position.point
  let points ← recordPoints resolution start stop center r.isClockwise r.plane
  let bounds ← RecordBounds.addAll s.bounds points
  let length ← recordLength start stop center r.isClockwise r.plane
  return { s with
    position
    segments := s.segments ++ chords .arc points
    bounds
    moves := ← s.addMove r start stop length (some length) }

/-- The replay after an arc; one whose radius fixes no arc is left out. -/
def arc (resolution : Json) (s : RecordReplay) (r : Record) : Except ReplayFault RecordReplay := do
  let position ← s.moveEnd r
  match ← r.center s.position.point position.point with
  | none => return { s with position }
  | some center =>
    let next ← s.arcAround resolution r position center
    return next

/-- The replay after one more record. -/
def step (resolution : Json) (s : RecordReplay) (r : Record) : Except ReplayFault RecordReplay :=
  match r.kind with
  | .distance => .ok { s with distance := r.distanceMode }
  | .units => .ok { s with units := r.units }
  | .feed => .ok { s with feed := r.field "feed" }
  | .plain => .ok { s with feedMode := (Course.feedModeOf? r.command).getD s.feedMode }
  | .coordinates =>
    if r.command = .g92 then do
      let position ← r.advance s.position .absolute
      return { s with position }
    else .ok s
  | .arc => s.arc resolution r
  | .linear | .drill | .spindleSync | .thread => do
    let next ← s.straight r
    return next
  | _ => .ok s

/-- The replay of records, the first of which has the number `index`; none if it is stopped
before a record. -/
def run (resolution : Json) (keepRunning : Nat → Bool) (index : Nat) (s : RecordReplay) :
    List Record → Except ReplayFault (Option RecordReplay)
  | [] => .ok (some s)
  | record :: records =>
    if keepRunning index then do
      run resolution keepRunning (index + 1) (← s.step resolution record) records
    else .ok none

/-- The path of a replay. -/
def path (s : RecordReplay) : Except ValueFault RecordPath := do
  let bounds ← s.bounds.mapM fun b : RecordBounds => do
    return PathBounds.mk (← RecordBox.spanDoubles b.x) (← RecordBox.spanDoubles b.y)
      (← RecordBox.spanDoubles b.z)
  return { segments := s.segments, bounds, moves := s.moves }

end RecordReplay

/-- The path of records with arcs cut into `resolution` chords; none if it is stopped. -/
def toolpathOfRecords (records : List Record) (resolution : Json) (keepRunning : Nat → Bool) :
    Except ReplayFault (Option RecordPath) := do
  checkResolution resolution
  match ← RecordReplay.run resolution keepRunning 0 {} records with
  | none => return none
  | some s =>
    let path ← s.path
    return some path

end NumericControl
