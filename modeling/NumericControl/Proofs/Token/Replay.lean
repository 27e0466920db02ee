import NumericControl.Proofs.Token.RoundTrip
import NumericControl.Token.Replay

/-!
# Replaying the records of tokens

The records of typed tokens hold doubles wherever a replay computes with their fields, and with
doubles the arithmetic of document values is that of doubles.  So the replay of such records follows
the replay of the tokens step by step, and box, path and the faults of the resolution are the same.

## Main definitions

* `ReplayFault.ofResolution` : a bad resolution as a fault of a replay of records.
* `RecordBoxReplay.ofReplay`, `RecordReplay.ofReplay` : the replay of tokens as one of their
  records.

## Main results

* `boxOfRecords_ofToken` : the box of the records of tokens.
* `toolpathOfRecords_ofToken` : the path of the records of tokens.
-/

namespace NumericControl

/-- A bad resolution as a fault of a replay of records. -/
def ReplayFault.ofResolution : BadResolution → ReplayFault
  | .notPositive shown => .notPositive shown
  | .tooLarge => .value .tooLarge

/-! ### Values of points and axes -/

section

variable {α β : Type}

theorem Point.get_map (f : α → β) (p : Point α) (c : Coordinate) :
    (p.map f).get c = f (p.get c) := by
  cases c <;> rfl

theorem PerAxis.get_map (f : α → β) (v : PerAxis α) (axis : Axis) :
    (v.map f).get axis = f (v.get axis) := by
  simp [PerAxis.map]

theorem PerAxis.point_map (f : α → β) (v : PerAxis α) : (v.map f).point = v.point.map f :=
  rfl

theorem PerAxis.set_map (f : α → β) (v : PerAxis α) (axis : Axis) (value : α) :
    (v.map f).set axis (f value) = (v.set axis value).map f := by
  refine PerAxis.ext_get fun other => ?_
  simp only [set, get_map, get_ofFn]
  split <;> rfl

/-- Values that are set one after the other are the new ones where there are any. -/
theorem PerAxis.foldl_set (f : Axis → α) (axes : List Axis) (v : PerAxis α) :
    axes.foldl (fun v axis => v.set axis (f axis)) v =
      .ofFn fun axis => if axes.contains axis then f axis else v.get axis := by
  induction axes generalizing v with
  | nil => exact ext_get fun axis => by simp
  | cons axis axes ih =>
    rw [List.foldl_cons, ih]
    refine ext_get fun other => ?_
    by_cases hother : other = axis <;> simp [set, hother]

end

/-! ### Doubles as document values -/

namespace Point

variable (p q : Point Float)

theorem readDoubles_float : (p.map Json.float).readDoubles = .ok p :=
  rfl

theorem wayAlong_float (c : Coordinate) :
    (p.map Json.float).wayAlong (q.map .float) c = .ok (.float (q.get c - p.get c)) := by
  cases c <;> rfl

theorem wayDoubles_float (plane : Plane) :
    (p.map Json.float).wayDoubles (q.map .float) plane = .ok (p.wayTo q plane) := by
  cases plane <;> rfl

end Point

/-- Steps that agree through an embedding of the states agree on every list. -/
theorem foldlM_map_eq_ok {σ τ α β ε : Type} {f : σ → β → Except ε σ} {g : τ → α → τ}
    {embed : τ → σ} {record : α → β} (h : ∀ s a, f (embed s) (record a) = .ok (embed (g s a)))
    (l : List α) (s : τ) : (l.map record).foldlM f (embed s) = .ok (embed (l.foldl g s)) := by
  induction l generalizing s with
  | nil => rfl
  | cons a l ih =>
    rw [List.map_cons, List.foldlM_cons, h, List.foldl_cons]
    exact ih (g s a)

/-! ### Positions -/

theorem Json.axis_letter (axis : Axis) :
    (Json.text (String.singleton axis.letter)).axis = .ok axis := by
  simp [Json.axis, Axis.ofLetter?_letter]

theorem Json.item_toList (values : AxisValues) (axis : Axis) :
    (Json.array (values.toList.map .float)).item axis.index = .ok (.float (values.get axis)) := by
  cases axis <;> rfl

/-- The value that a move leads to on an axis that it programs. -/
def Target.reached (target : Target) (position : AxisValues) (mode : DistanceMode) (axis : Axis) :
    Float :=
  match mode with
  | .absolute => target.values.get axis
  | .incremental => position.get axis + target.values.get axis

namespace Record

/-- A record with the axis values and the axes of a target. -/
structure HasTarget (r : Record) (target : Target) : Prop where
  values : r.field "values" = .array (target.values.toList.map .float)
  axes : r.field "axes" = .text (Axis.letters target.axes)

namespace HasTarget

variable {r : Record} {target : Target}

/-- One more of the axes of a record takes its new value. -/
theorem advanceAxis_eq (h : r.HasTarget target) (position : AxisValues) (mode : DistanceMode)
    (v : AxisValues) (axis : Axis) :
    r.advanceAxis (position.map .float) mode (v.map .float)
        (.text (String.singleton axis.letter)) =
      .ok ((v.set axis (target.reached position mode axis)).map .float) := by
  rw [advanceAxis, Json.axis_letter, h.values, ← PerAxis.set_map]
  simp only [bind, Except.bind, Json.item_toList]
  cases mode with
  | absolute => rfl
  | incremental =>
    rw [PerAxis.get_map]
    rfl

/-- A record leads to the position that its target leads to. -/
theorem advance_eq (h : r.HasTarget target) (position : AxisValues) (mode : DistanceMode) :
    r.advance (position.map .float) mode =
      .ok ((NumericControl.advance position target.values target.axes mode).map .float) := by
  have hletters : (r.field "axes").items? =
      some (target.axes.map fun axis => .text (String.singleton axis.letter)) := by
    simp [h.axes, Json.items?, Axis.letters, Function.comp_def]
  rw [Record.advance, hletters]
  simp only
  rw [foldlM_map_eq_ok (h.advanceAxis_eq position mode), PerAxis.foldl_set]
  cases mode <;> rfl

end HasTarget

end Record

/-! ### The box -/

/-- An extent as records would hold it. -/
def Span.asRecord (span : Span Float) : Span Json :=
  ⟨.float span.low, .float span.high⟩

namespace RecordBox

theorem less_float (x y : Float) : (Json.float x).less (.float y) = .ok (decide (x < y)) :=
  rfl

theorem widen_asRecord (span : Span Float) (x : Float) :
    widen span.asRecord (.float x) = .ok (span.widen x).asRecord := by
  simp only [widen, Span.asRecord, less_float, bind, Except.bind, pure, Except.pure,
    decide_eq_true_eq, Span.widen]
  split <;> split <;> rfl

theorem add_ofBox (box : Box Float) (p : AxisValues) :
    (ofBox box).add (p.map .float) = .ok (ofBox (box.add p.toList)) := by
  have hbox : ofBox (box.add p.toList) =
      .ofFn fun axis => ((box.get axis).widen (p.get axis)).asRecord :=
    PerAxis.ext_get fun axis => by cases axis <;> rfl
  have hparts : ofBox box = .ofFn fun axis => (box.get axis).asRecord := rfl
  rw [hbox, hparts, add]
  simp only [PerAxis.map, PerAxis.ofFn, widen_asRecord, bind, Except.bind, pure, Except.pure]

end RecordBox

namespace RecordBoxReplay

/-- The replay of tokens as one of their records. -/
def ofReplay (s : BoxReplay) : RecordBoxReplay :=
  ⟨.ofBox s.box, s.position.map .float, s.distance⟩

theorem move_ofReplay {r : Record} {target : Target} (h : r.HasTarget target) (s : BoxReplay)
    (mode : DistanceMode) :
    (ofReplay s).move r mode = .ok (ofReplay (s.move target mode)) := by
  simp only [move, ofReplay, h.advance_eq, RecordBox.add_ofBox, bind, Except.bind, pure,
    Except.pure, BoxReplay.move]

/-- One more record changes the replay as its token does. -/
theorem step_ofToken (s : BoxReplay) (t : Token) :
    (ofReplay s).step (.ofToken t) = .ok (ofReplay (s.step t)) := by
  obtain ⟨command, line, body⟩ := t
  cases body with
  | linear target => exact move_ofReplay ⟨rfl, rfl⟩ s _
  | arc target words => exact move_ofReplay ⟨rfl, rfl⟩ s _
  | drill target words => exact move_ofReplay ⟨rfl, rfl⟩ s _
  | distance mode => cases mode <;> rfl
  | coordinates target slot =>
    have htarget : (Record.ofToken ⟨command, line, .coordinates target slot⟩).HasTarget target :=
      ⟨rfl, rfl⟩
    have hadvance := htarget.advance_eq s.position .absolute
    have hstep : (ofReplay s).step (.ofToken ⟨command, line, .coordinates target slot⟩) =
        if command = .g92 then do
          return { ofReplay s with
            position := ← Record.advance (.ofToken ⟨command, line, .coordinates target slot⟩)
              (s.position.map .float) .absolute }
        else .ok (ofReplay s) :=
      rfl
    rw [hstep, hadvance, BoxReplay.step]
    split <;> rfl
  | _ => rfl

end RecordBoxReplay

/-- The box of the records of tokens is that of the tokens. -/
theorem boxOfRecords_ofToken (tokens : List Token) :
    boxOfRecords (tokens.map .ofToken) = .ok (.ofBox (boxOf tokens)) := by
  have hrun := foldlM_map_eq_ok RecordBoxReplay.step_ofToken tokens {}
  have hstart : RecordBoxReplay.ofReplay {} = {} := rfl
  rw [hstart] at hrun
  rw [boxOfRecords, hrun]
  rfl

/-! ### Arcs -/

/-- A result of a computation with values is one of the replay. -/
theorem liftM_ok {α : Type} (a : α) :
    (liftM (Except.ok a : Except ValueFault α) : Except ReplayFault α) = .ok a :=
  rfl

section

variable (start stop center : Point Float) (clockwise : Bool) (plane : Plane)

theorem recordAngles_float :
    recordAngles (start.map .float) (stop.map .float) (center.map .float) clockwise plane =
      .ok (arcAngles start stop center clockwise plane) := by
  have hclosed : isClosed (start.map .float) (stop.map .float) plane =
      .ok (decide (magnitude (start.wayTo stop plane).1 < Scalar.epsilon) &&
        decide (magnitude (start.wayTo stop plane).2 < Scalar.epsilon)) := by
    rw [isClosed, Point.wayAlong_float, Point.wayAlong_float]
    change (if decide (magnitude (start.wayTo stop plane).1 < Scalar.epsilon) then
      Except.ok (decide (magnitude (start.wayTo stop plane).2 < Scalar.epsilon))
      else Except.ok false) = _
    cases decide (magnitude (start.wayTo stop plane).1 < Scalar.epsilon) <;> rfl
  simp only [recordAngles, Point.wayDoubles_float, hclosed, bind, Except.bind]
  rfl

theorem recordRadius_float (p : Point Float) :
    recordRadius (p.map .float) (center.map .float) plane =
      .ok (hypotenuse (center.wayTo p plane).1 (center.wayTo p plane).2) := by
  simp only [recordRadius, Point.wayDoubles_float, bind, Except.bind]
  rfl

theorem recordLength_float :
    recordLength (start.map .float) (stop.map .float) (center.map .float) clockwise plane =
      .ok (arcLength start stop center clockwise plane) := by
  simp only [recordLength, recordRadius_float, recordAngles_float, Point.wayAlong_float, bind,
    Except.bind]
  rfl

theorem checkResolution_int (n : Int) :
    checkResolution (.int n) = if n < 1 then .error (.notPositive (toString n)) else .ok () := by
  have hless : (Json.int n).less (.int 1) = .ok (decide (n < 1)) := rfl
  simp only [checkResolution, hless, bind, Except.bind, liftM_ok]
  by_cases hn : n < 1 <;> simp only [hn, decide_true, decide_false] <;> rfl

theorem chordsOf_int {n : Int} (hn : ¬ n < 1) :
    (chordsOf (.int n)).mapError .value = (Chords.ofInt n).mapError ReplayFault.ofResolution := by
  have hdouble : (Json.int n).toDouble =
      (Number.nearestWhole? n.toNat).elim (.error .tooLarge) .ok := by
    have hnat : n.natAbs = n.toNat := by omega
    have hpositive : ¬ n < 0 := by omega
    simp only [Json.toDouble, Json.quantity, bind, Except.bind, Quantity.toDouble, hnat,
      if_neg hpositive]
    cases Number.nearestWhole? n.toNat <;> rfl
  rw [chordsOf, hdouble, Chords.ofInt, if_neg hn]
  cases Number.nearestWhole? n.toNat <;> rfl

theorem recordPoints_float (n : Int) :
    recordPoints (.int n) (start.map .float) (stop.map .float) (center.map .float) clockwise plane =
      (arcPoints start stop center clockwise plane n).mapError .ofResolution := by
  have hcoordinate (c : Coordinate) :
      ((center.map Json.float).get c).toDouble = .ok (center.get c) := by
    rw [Point.get_map]
    rfl
  rw [recordPoints, checkResolution_int, arcPoints]
  by_cases hn : n < 1
  · rw [if_pos hn, Chords.ofInt, if_pos hn]
    rfl
  · have hchords : liftM (chordsOf (.int n)) = (Chords.ofInt n).mapError ReplayFault.ofResolution :=
      chordsOf_int hn
    simp only [if_neg hn, Point.readDoubles_float, recordAngles_float, recordRadius_float,
      hcoordinate, hchords, liftM_ok, bind, Except.bind]
    cases Chords.ofInt n <;> rfl

theorem recordCenterFromRadius_float (radius : Float) :
    recordCenterFromRadius (start.map .float) (stop.map .float) (.float radius) clockwise plane =
      .ok ((centerFromRadius start stop radius clockwise plane).toOption.map (·.map .float)) := by
  have hquantity : (Json.float radius).quantity = .ok (.double radius) := rfl
  have hdouble : (Quantity.double radius).toDouble = .ok radius := rfl
  have hsquare (x : Float) : (Json.float x).square = .ok (x * x) := rfl
  have hcenter : centerFromRadius start stop radius clockwise plane =
      (centerOffsetBy (start.wayTo stop plane)
        ((start.wayTo stop plane).1 * (start.wayTo stop plane).1,
          (start.wayTo stop plane).2 * (start.wayTo stop plane).2) radius clockwise).map
        (start.shift plane) :=
    rfl
  simp only [recordCenterFromRadius, Point.wayDoubles_float, Point.wayAlong_float, hquantity,
    hdouble, hsquare, Point.readDoubles_float, hcenter, Point.wayTo, bind, Except.bind]
  by_cases hzero : (Quantity.double radius).isZero = true
  · have hisZero : Scalar.isZero radius = true := hzero
    simp only [hzero, if_true, centerOffsetBy, hisZero]
    rfl
  · simp only [hzero]
    cases centerOffsetBy _ _ radius clockwise <;> rfl

theorem recordCenterCoordinate_float (absolute : Bool) (x : Float) (offset : Option Float) :
    recordCenterCoordinate absolute (.float x) x (optionalField offset) =
      .ok (.float (offsetCoordinate absolute x (specified offset))) := by
  cases offset with
  | none => rfl
  | some y =>
    have hgiven : isGivenOffset (optionalField (some y)) = !y.isNaN := rfl
    rw [recordCenterCoordinate, hgiven, specified, Option.filter_some]
    cases y.isNaN <;> cases absolute <;> rfl

theorem recordCenterFromOffsets_float (offsets : Triple (Option Float)) (absolute : Bool) :
    recordCenterFromOffsets (start.map .float)
        (.array [optionalField offsets.i, optionalField offsets.j, optionalField offsets.k])
        absolute =
      .ok ((centerFromOffsets start
        ⟨specified offsets.i, specified offsets.j, specified offsets.k⟩ absolute).map .float) := by
  have hfirst (i j k : Json) : (Json.array [i, j, k]).item 0 = .ok i := rfl
  have hsecond (i j k : Json) : (Json.array [i, j, k]).item 1 = .ok j := rfl
  have hthird (i j k : Json) : (Json.array [i, j, k]).item 2 = .ok k := rfl
  have hcoordinates : start.map Json.float = ⟨.float start.x, .float start.y, .float start.z⟩ := rfl
  rw [recordCenterFromOffsets, Point.readDoubles_float]
  simp only [hfirst, hsecond, hthird, hcoordinates, recordCenterCoordinate_float, bind, Except.bind]
  rfl

end

namespace Record

variable {t : Token} {target : Target} {words : ArcWords}

theorem plane_ofToken (hbody : t.body = .arc target words) : (ofToken t).plane = words.plane := by
  have hfield : (ofToken t).field "plane" = .text words.plane.code := by
    rw [ofToken, hbody]
    rfl
  rw [plane, hfield, planeOf_code]
  rfl

theorem hasAbsoluteOffsets_ofToken (hbody : t.body = .arc target words) :
    (ofToken t).hasAbsoluteOffsets = (words.offsetMode == .absolute) := by
  have hfield : (ofToken t).field "ijk_mode" = .text words.offsetMode.name := by
    rw [ofToken, hbody]
    rfl
  rw [hasAbsoluteOffsets, hfield, distanceOf_name]
  cases words.offsetMode <;> rfl

/-- The record of an arc has the center of the arc; where the radius fixes no arc it has none. -/
theorem center_ofToken (hbody : t.body = .arc target words) (start stop : Point Float) :
    (ofToken t).center (start.map .float) (stop.map .float) =
      .ok ((Course.centerOf start stop (t.command == .g2) words).toOption.map (·.map .float)) := by
  have hradius : (ofToken t).field "radius" = optionalField words.radius := by
    rw [ofToken, hbody]
    rfl
  have hoffsets : (ofToken t).field "ijk" = .array [optionalField words.offsets.i,
      optionalField words.offsets.j, optionalField words.offsets.k] := by
    rw [ofToken, hbody]
    rfl
  rw [center, hradius, hoffsets, Course.centerOf]
  cases words.radius with
  | none =>
    have hnone : optionalField none = .null := rfl
    simp only [hnone, hasAbsoluteOffsets_ofToken hbody, recordCenterFromOffsets_float, liftM_ok]
    rfl
  | some radius =>
    have hsome : optionalField (some radius) = .float radius := rfl
    have hclockwise : (ofToken t).isClockwise = (t.command == .g2) := rfl
    simp only [hsome, plane_ofToken hbody, hclockwise, recordCenterFromRadius_float, liftM_ok]

end Record

/-! ### The path -/

/-- The bounds of a path as a replay of records holds them. -/
def RecordBounds.ofBounds (b : PathBounds) : RecordBounds :=
  ⟨b.x.asRecord, b.y.asRecord, b.z.asRecord⟩

theorem RecordBounds.add_ofBounds (bounds : Option PathBounds) (p : Point Float) :
    add (bounds.map ofBounds) (p.map .float) = .ok ((PathBounds.add bounds p).map ofBounds) := by
  cases bounds with
  | none => rfl
  | some b =>
    have hpoint : p.map Json.float = ⟨.float p.x, .float p.y, .float p.z⟩ := rfl
    simp only [add, Option.map_some, ofBounds, hpoint, RecordBox.widen_asRecord, bind, Except.bind]
    rfl

theorem RecordBounds.addAll_ofBounds (bounds : Option PathBounds) (points : List (Point Float)) :
    addAll (bounds.map ofBounds) points =
      .ok ((points.foldl PathBounds.add bounds).map ofBounds) := by
  have hfold := foldlM_map_eq_ok add_ofBounds points bounds
  rwa [List.foldlM_map] at hfold

namespace RecordReplay

/-- The replay of tokens as one of their records. -/
def ofReplay (s : Replay) : RecordReplay where
  position := s.course.position.map .float
  distance := s.course.distance
  units := s.course.units
  feedMode := s.course.feedMode
  feed := optionalField s.course.feed
  segments := s.path.segments
  bounds := s.path.bounds.map .ofBounds
  moves := s.path.moves.map .ofMove

variable (s : Replay)

theorem feedInForce_ofReplay :
    (ofReplay s).feedInForce = .ok (optionalField s.course.feedInForce) := by
  obtain ⟨⟨_, _, units, feedMode, feed⟩, _⟩ := s
  cases feed <;> cases feedMode <;> cases units <;> rfl

theorem moveEnd_ofReplay {r : Record} {t : Token} {target : Target} (h : r.HasTarget target)
    (hcommand : r.command = t.command) :
    (ofReplay s).moveEnd r = .ok ((s.course.moveEnd t target).map .float) := by
  rw [moveEnd, hcommand]
  exact h.advance_eq s.course.position _

/-- The move of a record is recorded as that of its token. -/
theorem addMove_ofReplay (t : Token) (stop : Point Float) (distance : Float)
    (arcLength : Option Float) (points : List (Point Float)) :
    (ofReplay s).addMove (.ofToken t) (s.course.position.point.map .float) (stop.map .float)
        distance arcLength =
      .ok ((s.path.moves.push (s.course.drawing t stop distance arcLength points).move).map
        .ofMove) := by
  simp only [addMove, feedInForce_ofReplay, Point.wayAlong_float, bind, Except.bind, Array.map_push]
  rfl

/-- What a drawing that ends at a position adds to a replay. -/
theorem ofReplay_draw {t : Token} {position : AxisValues}
    (hafter : s.course.after t = { s.course with position }) (d : Drawing) :
    ofReplay ⟨s.course.after t, s.path.draw d⟩ =
      { ofReplay s with
        position := position.map .float
        segments := s.path.segments ++ d.segments
        bounds := (d.points.foldl PathBounds.add s.path.bounds).map .ofBounds
        moves := (s.path.moves.push d.move).map .ofMove } := by
  rw [hafter]
  rfl

/-- A straight move of a record is drawn as that of its token. -/
theorem straight_ofToken {t : Token} {target : Target} (h : (Record.ofToken t).HasTarget target)
    (hafter : s.course.after t = { s.course with position := s.course.moveEnd t target })
    (hkind : (s.course.straight t target).kind = straightKind t.command (t.body.kind == .drill)) :
    (ofReplay s).straight (.ofToken t) =
      .ok (ofReplay ⟨s.course.after t, s.path.draw (s.course.straight t target)⟩) := by
  have hposition : (ofReplay s).position.point = s.course.position.point.map .float := rfl
  have hbounds : (ofReplay s).bounds = s.path.bounds.map .ofBounds := rfl
  have hdoubles (p q : Point Float) : endDoubles (p.map .float) (q.map .float) = .ok (p, q) := rfl
  have hmove := addMove_ofReplay s t (s.course.moveEnd t target).point
    (distanceBetween s.course.position.point (s.course.moveEnd t target).point) none
    [s.course.position.point, (s.course.moveEnd t target).point]
  simp only [straight, moveEnd_ofReplay s h rfl, hposition, PerAxis.point_map, hbounds,
    RecordBounds.add_ofBounds, hdoubles, hmove, bind, Except.bind]
  rw [ofReplay_draw s hafter, Drawing.segments, hkind]
  rfl

section

variable {t : Token} {target : Target} {words : ArcWords}

/-- An arc of a record is cut as that of its token, and it fails as that one does. -/
theorem arcAround_ofToken (n : Int) (hbody : t.body = .arc target words) (center : Point Float) :
    let start := s.course.position.point
    let stop := (s.course.moveEnd t target).point
    let length := arcLength start stop center (t.command == .g2) words.plane
    (ofReplay s).arcAround (.int n) (.ofToken t) ((s.course.moveEnd t target).map .float)
        (center.map .float) =
      ((arcPoints start stop center (t.command == .g2) words.plane n).map fun points =>
        ofReplay ⟨s.course.after t,
          s.path.draw (s.course.drawing t stop length (some length) points)⟩).mapError
        .ofResolution := by
  intro start stop length
  have hposition : (ofReplay s).position.point = start.map .float := rfl
  have hclockwise : (Record.ofToken t).isClockwise = (t.command == .g2) := rfl
  have hafter : s.course.after t = { s.course with position := s.course.moveEnd t target } := by
    rw [Course.after, hbody]
  rw [arcAround, hposition, PerAxis.point_map, Record.plane_ofToken hbody, hclockwise,
    recordPoints_float]
  cases arcPoints start stop center (t.command == .g2) words.plane n with
  | error e => rfl
  | ok points =>
    have hbounds : (ofReplay s).bounds = s.path.bounds.map .ofBounds := rfl
    have hkind : (s.course.drawing t stop length (some length) points).kind = .arc := by
      have harc : t.isArc = true := by rw [Token.isArc, hbody]
      exact if_pos harc
    simp only [Except.mapError, Except.map, hbounds, RecordBounds.addAll_ofBounds,
      recordLength_float, liftM_ok, bind, Except.bind]
    rw [addMove_ofReplay s t stop length (some length) points, ofReplay_draw s hafter,
      Drawing.segments, hkind]
    rfl

/-- An arc of a record is cut as that of its token, or left out as it is. -/
theorem arc_ofToken (n : Int) (hbody : t.body = .arc target words) :
    (ofReplay s).arc (.int n) (.ofToken t) =
      ((s.step n t).map ofReplay).mapError .ofResolution := by
  have htarget : (Record.ofToken t).HasTarget target := by
    rw [Record.ofToken, hbody]
    exact ⟨rfl, rfl⟩
  have hposition : (ofReplay s).position.point = s.course.position.point.map .float := rfl
  have hafter : s.course.after t = { s.course with position := s.course.moveEnd t target } := by
    rw [Course.after, hbody]
  have hdrawing : s.course.drawing? n t = s.course.arc n t target words := by
    rw [Course.drawing?, hbody]
  rw [arc, moveEnd_ofReplay s htarget rfl, Replay.step, hdrawing, Course.arc]
  simp only [hposition, PerAxis.point_map, Record.center_ofToken hbody, liftM_ok, bind, Except.bind]
  cases Course.centerOf s.course.position.point _ (t.command == .g2) words with
  | error e =>
    rw [hafter]
    rfl
  | ok center =>
    refine (arcAround_ofToken s n hbody center).trans ?_
    dsimp only
    cases arcPoints s.course.position.point _ center (t.command == .g2) words.plane n <;> rfl

end

/-- One more record changes the replay as its token does. -/
theorem step_ofToken (n : Int) (t : Token) :
    (ofReplay s).step (.int n) (.ofToken t) =
      ((s.step n t).map ofReplay).mapError .ofResolution := by
  obtain ⟨command, line, body⟩ := t
  cases body with
  | arc target words => exact arc_ofToken s n rfl
  | linear target => exact congrArg liftM (straight_ofToken s ⟨rfl, rfl⟩ rfl rfl)
  | drill target words => exact congrArg liftM (straight_ofToken s ⟨rfl, rfl⟩ rfl rfl)
  | spindleSync target pitch => exact congrArg liftM (straight_ofToken s ⟨rfl, rfl⟩ rfl rfl)
  | thread target words => exact congrArg liftM (straight_ofToken s ⟨rfl, rfl⟩ rfl rfl)
  | distance mode => cases mode <;> rfl
  | units units => cases units <;> rfl
  | plain =>
    have hstep : (ofReplay s).step (.int n) (.ofToken ⟨command, line, .plain⟩) =
        .ok { ofReplay s with
          feedMode := (Course.feedModeOf? command).getD (ofReplay s).feedMode } :=
      rfl
    have hafter : s.step n ⟨command, line, .plain⟩ =
        .ok ⟨s.course.after ⟨command, line, .plain⟩, s.path⟩ :=
      rfl
    rw [hstep, hafter, Course.after]
    cases Course.feedModeOf? command <;> rfl
  | coordinates target slot =>
    have htarget : (Record.ofToken ⟨command, line, .coordinates target slot⟩).HasTarget target :=
      ⟨rfl, rfl⟩
    have hadvance := htarget.advance_eq s.course.position .absolute
    have hstep : (ofReplay s).step (.int n) (.ofToken ⟨command, line, .coordinates target slot⟩) =
        if command = .g92 then do
          let position ← Record.advance (.ofToken ⟨command, line, .coordinates target slot⟩)
            (s.course.position.map .float) .absolute
          return { ofReplay s with position }
        else .ok (ofReplay s) :=
      rfl
    have hafter : s.step n ⟨command, line, .coordinates target slot⟩ =
        .ok ⟨s.course.after ⟨command, line, .coordinates target slot⟩, s.path⟩ :=
      rfl
    rw [hstep, hadvance, hafter, Course.after]
    split <;> rfl
  | _ => rfl

theorem run_ofToken (n : Int) (keepRunning : Nat → Bool) (index : Nat) (tokens : List Token) :
    run (.int n) keepRunning index (ofReplay s) (tokens.map .ofToken) =
      ((Replay.run n keepRunning index s tokens).map (·.map ofReplay)).mapError .ofResolution := by
  induction tokens generalizing index s with
  | nil => rfl
  | cons t tokens ih =>
    rw [List.map_cons, run, Replay.run]
    cases keepRunning index with
    | false => rfl
    | true =>
      simp only [if_true, step_ofToken]
      cases s.step n t with
      | error e => rfl
      | ok next => exact ih next (index + 1)

theorem path_ofReplay : (ofReplay s).path = .ok (.ofToolpath s.path) := by
  obtain ⟨_, segments, bounds, moves⟩ := s
  cases bounds <;> rfl

end RecordReplay

/-- The path of the records of tokens is that of the tokens, and where the tokens have none, for
want of a good resolution, the records have none for the same reason. -/
theorem toolpathOfRecords_ofToken (tokens : List Token) (n : Int) (keepRunning : Nat → Bool) :
    toolpathOfRecords (tokens.map .ofToken) (.int n) keepRunning =
      ((buildToolpath tokens n keepRunning).map (·.map .ofToolpath)).mapError .ofResolution := by
  have hrun := RecordReplay.run_ofToken {} n keepRunning 0 tokens
  have hstart : RecordReplay.ofReplay {} = {} := by
    simp [RecordReplay.ofReplay, originRecord, optionalField]
  rw [hstart] at hrun
  rw [toolpathOfRecords, checkResolution_int, buildToolpath]
  by_cases hn : n < 1
  · simp only [if_pos hn]
    rfl
  · simp only [if_neg hn, hrun]
    cases Replay.run n keepRunning 0 {} tokens with
    | error e => rfl
    | ok replay? =>
      cases replay? with
      | none => rfl
      | some replay =>
        simp only [Except.map, Option.map_some, Except.mapError, bind, Except.bind,
          RecordReplay.path_ofReplay, liftM_ok]
        rfl

end NumericControl
