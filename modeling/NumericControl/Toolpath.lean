import NumericControl.Arc.Sweep
import NumericControl.Extent

/-!
# Toolpaths

A token stream replayed into segments that can be drawn and a record of every move.  An arc is
cut into chords, so the bounds of the path follow its curve; an arc whose radius fixes no arc is
left out.

## Main definitions

* `Segment`, `Move`, `Toolpath` : the result.
* `Drawing`, `Course.drawing?` : what a token adds to the path.
* `Course`, `Course.after` : position and modes, and what a token changes in them.
* `buildToolpath` : the replay of a stream, which may be stopped between two tokens.
-/

namespace NumericControl

/-- How a segment is travelled. -/
inductive SegmentKind where
  | rapid
  | feed
  | drill
  | arc
deriving DecidableEq, Repr

/-- The name of a kind of segment. -/
def SegmentKind.name : SegmentKind → String
  | .rapid => "rapid"
  | .feed => "feed"
  | .drill => "drill"
  | .arc => "arc"

/-- A straight piece of a path. -/
structure Segment where
  start : Point Float
  stop : Point Float
  kind : SegmentKind

/-- A move with the feed in force. -/
structure Move where
  start : Point Float
  stop : Point Float
  command : Command
  line : Nat
  feed : Option Float
  feedMode : FeedMode
  distance : Float
  /-- The length of the curve, for arcs. -/
  arcLength : Option Float

/-- The way from the start of a move to its end. -/
def Move.delta (m : Move) : Point Float :=
  ⟨m.stop.x - m.start.x, m.stop.y - m.start.y, m.stop.z - m.start.z⟩

/-- The extents of a path along X, Y and Z. -/
structure PathBounds where
  x : Span Float
  y : Span Float
  z : Span Float

/-- The bounds that take in one more point. -/
def PathBounds.add (bounds : Option PathBounds) (p : Point Float) : Option PathBounds :=
  match bounds with
  | none => some ⟨.single p.x, .single p.y, .single p.z⟩
  | some b => some ⟨b.x.widen p.x, b.y.widen p.y, b.z.widen p.z⟩

/-- Segments, bounds and moves of a program. -/
structure Toolpath where
  segments : Array Segment := #[]
  bounds : Option PathBounds := none
  moves : Array Move := #[]

/-- The distance of two points. -/
def distanceBetween (p q : Point Float) : Float :=
  Number.vectorLength [q.x - p.x, q.y - p.y, q.z - p.z]

/-- The segments between consecutive points. -/
def chords (kind : SegmentKind) : List (Point Float) → List Segment
  | p :: q :: rest => ⟨p, q, kind⟩ :: chords kind (q :: rest)
  | _ => []

/-- How a straight move is travelled, which may be a drilling cycle. -/
def straightKind (command : Command) (isDrill : Bool) : SegmentKind :=
  if command = .g0 ∨ command = .g28 ∨ command = .g30 ∨ command = .g53 then .rapid
  else if isDrill then .drill
  else .feed

/-! ### Drawings -/

namespace Token

/-- Whether a token is a drilling cycle. -/
def isDrill (token : Token) : Bool :=
  match token.body with
  | .drill .. => true
  | _ => false

/-- Whether a token is an arc. -/
def isArc (token : Token) : Bool :=
  match token.body with
  | .arc .. => true
  | _ => false

end Token

/-- What a token adds to a path: a recorded move, and the points that the token draws. -/
structure Drawing where
  token : Token
  move : Move
  points : List (Point Float)

namespace Drawing

/-- How the segments of a drawing are travelled. -/
def kind (d : Drawing) : SegmentKind :=
  if d.token.isArc then .arc else straightKind d.token.command d.token.isDrill

/-- The segments between the points of a drawing. -/
def segments (d : Drawing) : List Segment :=
  chords d.kind d.points

end Drawing

/-- The path with one more drawing. -/
def Toolpath.draw (path : Toolpath) (d : Drawing) : Toolpath where
  segments := path.segments ++ d.segments
  bounds := d.points.foldl PathBounds.add path.bounds
  moves := path.moves.push d.move

/-- The position and the modes that a token stream leads to. -/
structure Course where
  position : AxisValues := .zero
  distance : DistanceMode := .absolute
  units : Units := .metric
  feedMode : FeedMode := .perMinute
  /-- The last feed as it was programmed. -/
  feed : Option Float := none

namespace Course

/-- The feed in force in millimetres; inverse time feeds have no unit of length. -/
def feedInForce (c : Course) : Option Float :=
  match c.feedMode, c.units with
  | .inverseTime, _ | _, .metric => c.feed
  | _, .imperial => c.feed.map (· * 25.4)

/-- Where the move of a token ends. -/
def moveEnd (c : Course) (token : Token) (target : Target) : AxisValues :=
  advance c.position target.values target.axes
    (if token.command = .g53 then .absolute else c.distance)

/-- The drawing of a token that is recorded up to a point. -/
def drawing (c : Course) (token : Token) (stop : Point Float) (distance : Float)
    (arcLength : Option Float) (points : List (Point Float)) : Drawing where
  token
  move :=
    { start := c.position.point, stop, command := token.command, line := token.line
      feed := c.feedInForce, feedMode := c.feedMode, distance, arcLength }
  points

/-- The drawing of a straight move. -/
def straight (c : Course) (token : Token) (target : Target) : Drawing :=
  let start := c.position.point
  let stop := (c.moveEnd token target).point
  c.drawing token stop (distanceBetween start stop) none [start, stop]

/-- The center of an arc, by its radius if there is one. -/
def centerOf (start stop : Point Float) (clockwise : Bool) (words : ArcWords) :
    Except (DegenerateArc Float) (Point Float) :=
  match words.radius with
  | some radius => centerFromRadius start stop radius clockwise words.plane
  | none =>
    let offsets : Point (Option Float) :=
      ⟨specified words.offsets.i, specified words.offsets.j, specified words.offsets.k⟩
    .ok (centerFromOffsets start offsets (words.offsetMode == .absolute))

/-- The drawing of an arc that is cut into `resolution` chords; none if its radius fixes no arc. -/
def arc (resolution : Int) (c : Course) (token : Token) (target : Target) (words : ArcWords) :
    Except BadResolution (Option Drawing) :=
  let start := c.position.point
  let stop := (c.moveEnd token target).point
  let clockwise := token.command == .g2
  match centerOf start stop clockwise words with
  | .error _ => .ok none
  | .ok center => do
    let points ← arcPoints start stop center clockwise words.plane resolution
    let length := arcLength start stop center clockwise words.plane
    return some (c.drawing token stop length (some length) points)

/-- What a token adds to the path. -/
def drawing? (resolution : Int) (c : Course) (token : Token) :
    Except BadResolution (Option Drawing) :=
  match token.body with
  | .arc target words => c.arc resolution token target words
  | .linear target | .drill target _ | .spindleSync target _ | .thread target _ =>
    .ok (some (c.straight token target))
  | _ => .ok none

/-- The feed mode that a command selects. -/
def feedModeOf? : Command → Option FeedMode
  | .g93 => some .inverseTime
  | .g94 => some .perMinute
  | .g95 => some .perRevolution
  | _ => none

/-- The position and the modes after one more token. -/
def after (c : Course) (token : Token) : Course :=
  match token.body with
  | .distance mode => { c with distance := mode }
  | .units units => { c with units }
  | .feed value => { c with feed := some value }
  | .plain =>
    match feedModeOf? token.command with
    | some mode => { c with feedMode := mode }
    | none => c
  | .coordinates target _ =>
    if token.command = .g92 then
      { c with position := advance c.position target.values target.axes .absolute }
    else c
  | .arc target _ | .linear target | .drill target _ | .spindleSync target _ | .thread target _ =>
    { c with position := c.moveEnd token target }
  | _ => c

end Course

/-! ### Replays -/

/-- A replay of a token stream: the course so far, and the path. -/
structure Replay where
  course : Course := {}
  path : Toolpath := {}

namespace Replay

/-- The replay after one more token. -/
def step (resolution : Int) (r : Replay) (token : Token) : Except BadResolution Replay := do
  let drawing? ← r.course.drawing? resolution token
  return { course := r.course.after token, path := drawing?.elim r.path r.path.draw }

/-- The replay of tokens, the first of which has the number `index`; none if it is stopped
before a token. -/
def run (resolution : Int) (keepRunning : Nat → Bool) (index : Nat) (r : Replay) :
    List Token → Except BadResolution (Option Replay)
  | [] => .ok (some r)
  | token :: tokens =>
    if keepRunning index then do
      let next ← r.step resolution token
      run resolution keepRunning (index + 1) next tokens
    else .ok none

end Replay

/-- The path of a token stream with arcs cut into `resolution` chords; none if it is stopped. -/
def buildToolpath (tokens : List Token) (resolution : Int) (keepRunning : Nat → Bool) :
    Except BadResolution (Option Toolpath) :=
  if resolution < 1 then .error (.notPositive (toString resolution))
  else do
    let replay? ← Replay.run resolution keepRunning 0 {} tokens
    return replay?.map Replay.path

end NumericControl
