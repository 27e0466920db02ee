import NumericControl.Number.Rounded
import NumericControl.Token.Basic

/-!
# Extents

The extent of a set of values is its least and its greatest member; a box holds the extent along
every axis.  An axis without values has the extent from positive to negative infinity, and
normalizing a box turns such extents into zero.

## Main definitions

* `Span` : a least and a greatest value; `Span.widen` takes in one more.
* `Box` : the extents along the axes, with `Box.add`, `Box.addGiven` and `Box.normalize`.
* `boxOf` : the box of the end points of all moves of a token stream.
-/

namespace NumericControl

/-- An ordered type with two values beyond all that are measured. -/
class Extremes (α : Type) extends LT α, Zero α where
  top : α
  bottom : α
  isTop : α → Bool
  decLt : DecidableLT α

attribute [reducible, instance] Extremes.decLt

instance : Extremes Float where
  zero := 0.0
  top := Number.infinity
  bottom := -Number.infinity
  isTop x := x == Number.infinity
  decLt := inferInstance

/-- A least and a greatest value. -/
structure Span (α : Type) where
  low : α
  high : α
deriving DecidableEq, Repr

namespace Span

variable {α : Type}

/-- The extent that takes in one more value. -/
def widen [LT α] [DecidableLT α] (s : Span α) (value : α) : Span α :=
  ⟨if value < s.low then value else s.low, if s.high < value then value else s.high⟩

/-- The extent of one value. -/
def single (value : α) : Span α := ⟨value, value⟩

/-- The extent of no value. -/
def empty [Extremes α] : Span α := ⟨Extremes.top, Extremes.bottom⟩

/-- The extent, or zero if it is that of no value. -/
def normalize [Extremes α] (s : Span α) : Span α :=
  if Extremes.isTop s.low then ⟨0, 0⟩ else s

end Span

/-- The extents along the axes. -/
abbrev Box (α : Type) := PerAxis (Span α)

namespace Box

variable {α : Type} [Extremes α]

/-- The box of no point. -/
def empty : Box α :=
  .replicate .empty

/-- The box that takes in one more point.  A point may have fewer values than there are axes;
values beyond the last axis do not count. -/
def add (box : Box α) (values : List α) : Box α :=
  .ofFn fun axis =>
    match values[axis.index]? with
    | some value => (box.get axis).widen value
    | none => box.get axis

/-- The box that takes in the values for some axes, one after the other, up to the first value that
is missing; with whether there was none. -/
def takeIn (box : Box α) : List Axis → List (Option α) → Box α × Bool
  | axis :: axes, some value :: values =>
    takeIn (box.set axis ((box.get axis).widen value)) axes values
  | _ :: _, none :: _ => (box, false)
  | _, _ => (box, true)

/-- The box that takes in the values of a point in front of the first missing one; with whether the
point has all its values. -/
def addGiven (box : Box α) (values : List (Option α)) : Box α × Bool :=
  box.takeIn Axis.all values

/-- The box with zero along the axes without values. -/
def normalize (box : Box α) : Box α :=
  .ofFn fun axis => (box.get axis).normalize

/-- The least values. -/
def lows (box : Box α) : List α :=
  Axis.all.map fun axis => (box.get axis).low

/-- The greatest values. -/
def highs (box : Box α) : List α :=
  Axis.all.map fun axis => (box.get axis).high

/-- A box as one text. -/
def text (box : Box Float) : String :=
  let spans := Axis.all.map fun axis =>
    String.singleton axis.letter ++ "[" ++ Number.generalText (box.get axis).low ++ ", "
      ++ Number.generalText (box.get axis).high ++ "]"
  "BoundingBox(" ++ ", ".intercalate spans ++ ")"

end Box

/-! ### The box of a token stream -/

/-- A replay of a token stream that follows the position. -/
structure BoxReplay where
  box : Box Float := .empty
  position : AxisValues := .zero
  distance : DistanceMode := .absolute

namespace BoxReplay

/-- The replay after a move: its end points belong to the box.  Arcs count with their end points
only. -/
def move (r : BoxReplay) (target : Target) (mode : DistanceMode) : BoxReplay :=
  let stop := advance r.position target.values target.axes mode
  { r with box := (r.box.add r.position.toList).add stop.toList, position := stop }

/-- The replay after one more token. -/
def step (r : BoxReplay) (token : Token) : BoxReplay :=
  match token.body with
  | .distance mode => { r with distance := mode }
  | .coordinates target _ =>
    if token.command = .g92 then
      { r with position := advance r.position target.values target.axes .absolute }
    else r
  | .linear target => r.move target (if token.command = .g53 then .absolute else r.distance)
  | .arc target _ => r.move target r.distance
  | .drill target _ => r.move target r.distance
  | _ => r

end BoxReplay

/-- The box of the end points of all straight moves, arcs and drilling cycles. -/
def boxOf (tokens : List Token) : Box Float :=
  (tokens.foldl BoxReplay.step {}).box

end NumericControl
