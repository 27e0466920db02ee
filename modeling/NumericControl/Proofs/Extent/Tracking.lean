import NumericControl.Proofs.Extent.Exact
import NumericControl.Proofs.Program.Run

/-!
# What the box of a program sees

The box of a token stream follows the tool by itself, but it passes over moves in step with the
spindle and threading cycles.  From such a move on it takes the tool to be elsewhere along the
axes that the move programs, until an axis is given a position again.  So the box of a program is
the exact extent of what it sees, and along an axis that never goes astray this is the extent of
the positions of the interpreter.

## Main definitions

* `View` : where the box takes the tool to be, and along which axes it may be wrong.
* `Sighting` : an end point of a move in the box, as it is seen and as it is.
* `coordinatesOf` : the coordinates of the interpreter around the lines in the box.

## Main results

* `View.Tracks.after` : along the other axes the view is right after every line.
* `BoxReplay.foldl_step_run` : the box takes in what is seen.
* `boxOf_readLines_iff` : when the box is the extent of the positions of the interpreter.
* `boxOf_run_of_not_programmed` : it is along an axis that no passed over move programs.
-/

namespace NumericControl

namespace Token

/-- Whether the end points of a token belong to the box. -/
def isBoxed (t : Token) : Bool :=
  match t.body with
  | .linear _ | .arc .. | .drill .. => true
  | _ => false

/-- Whether a token is a move that the box passes over. -/
def isPassedOver (t : Token) : Bool :=
  match t.body with
  | .spindleSync .. | .thread .. => true
  | _ => false

/-- The axis values of a token that takes the tool along. -/
def target? (t : Token) : Option Target :=
  t.moveTarget?.or t.shiftTarget?

/-- Whether the axis values of a token are positions, in the distance mode of its line. -/
def isAbsolute (t : Token) (mode : DistanceMode) : Bool :=
  t.shiftTarget?.isSome || t.command == .g53 || mode == .absolute

/-- The axes that a token programs. -/
def programmed (t : Token) : List Axis :=
  (t.target?.map Target.axes).getD []

end Token

/-- The token of a line that takes the tool along. -/
def Passage.travel? (p : Passage) : Option Token :=
  p.tokens.find? fun t => t.target?.isSome

/-- Whether the end points of a line belong to the box. -/
def Passage.isBoxed (p : Passage) : Bool :=
  p.tokens.any Token.isBoxed

/-- Where the box takes the tool to be.  The axes astray are those that a move programmed which
the box passed over and that no line has given a position since. -/
structure View where
  position : AxisValues := .zero
  astray : List Axis := []

/-- The view after a line. -/
def View.after (v : View) (p : Passage) : View :=
  match p.travel? with
  | none => v
  | some t =>
    if t.isPassedOver then { v with astray := v.astray ++ t.programmed }
    else
      { position := t.reach v.position p.after.distance
        astray :=
          if t.isAbsolute p.after.distance then
            v.astray.filter fun axis => !t.programmed.contains axis
          else v.astray }

/-- An end point of a line in the box: where the box sees it, where the interpreter has it, and
the axes astray. -/
structure Sighting where
  seen : AxisValues
  actual : AxisValues
  astray : List Axis

/-- The end points of a line, if they belong to the box. -/
def Passage.sightings (v : View) (p : Passage) : List Sighting :=
  if p.isBoxed then
    [⟨v.position, p.before.position, v.astray⟩,
      ⟨(v.after p).position, p.after.position, (v.after p).astray⟩]
  else []

/-- The end points of the lines in the box. -/
def sightings (v : View) : List Passage → List Sighting
  | [] => []
  | p :: rest => p.sightings v ++ sightings (v.after p) rest

/-- The coordinates of the interpreter along an axis, before and after every line in the box. -/
def coordinatesOf (axis : Axis) (passages : List Passage) : List Float :=
  (passages.filter Passage.isBoxed).flatMap fun p =>
    [p.before.position.get axis, p.after.position.get axis]

/-! ### The view of a line -/

/-- Where a move leads along one axis. -/
theorem get_advance (position values : AxisValues) (axes : List Axis) (mode : DistanceMode)
    (axis : Axis) :
    (advance position values axes mode).get axis =
      if axis ∈ axes then
        if mode == .absolute then values.get axis else position.get axis + values.get axis
      else position.get axis := by
  cases mode <;> simp [advance]

namespace Token

variable {t : Token} {start : AxisValues} {mode : DistanceMode} {axis : Axis}

theorem target?_eq_none_iff : t.target? = none ↔ t.IsStill := by
  simp [target?, IsStill]

theorem isBoxed_of_isPassedOver (h : t.isPassedOver) : t.isBoxed = false := by
  unfold isPassedOver at h
  unfold isBoxed
  split at h <;> simp_all

theorem isBoxed_of_isStill (h : t.IsStill) : t.isBoxed = false := by
  have hmove := h.1
  unfold moveTarget? at hmove
  unfold isBoxed
  split at hmove <;> simp_all

theorem target?_isSome_iff : t.target?.isSome ↔ ¬ t.IsStill := by
  rw [← target?_eq_none_iff, Option.isSome_iff_ne_none]

/-- Where a token that takes the tool along leads along one axis. -/
theorem get_reach (h : ¬ t.IsStill) (mode : DistanceMode) (axis : Axis) :
    ∃ value, ∀ start : AxisValues, (t.reach start mode).get axis =
      if axis ∈ t.programmed then
        if t.isAbsolute mode then value else start.get axis + value
      else start.get axis := by
  cases hmove : t.moveTarget? with
  | some target =>
    refine ⟨target.values.get axis, fun start => ?_⟩
    have hshift : t.shiftTarget? = none := by
      unfold moveTarget? at hmove
      unfold shiftTarget?
      split at hmove <;> simp_all
    rw [reach_of_moveTarget? hmove, get_advance]
    by_cases hcommand : t.command = .g53 <;>
      simp [programmed, target?, isAbsolute, hmove, hshift, hcommand]
  | none =>
    cases hshift : t.shiftTarget? with
    | none => exact absurd ⟨hmove, hshift⟩ h
    | some target =>
      refine ⟨target.values.get axis, fun start => ?_⟩
      rw [reach_of_shiftTarget? hmove hshift, get_advance]
      simp [programmed, target?, isAbsolute, hmove, hshift]

end Token

/-- The token of a line that takes the tool along is that of its route. -/
theorem travel?_of_route {p : Passage} {front back : List Token} {travel : Option Token}
    (htokens : p.tokens = front ++ travel.toList ++ back)
    (h : Route p.before p.after front travel back) : p.travel? = travel := by
  have hstill (t : Token) (ht : t.IsStill) : t.target?.isSome = false := by
    rw [Token.target?_eq_none_iff.mpr ht]
    rfl
  rw [Passage.travel?, ← List.head?_filter, htokens, h.filter_eq hstill]
  cases travel with
  | none => rfl
  | some t =>
    have ht : t.target?.isSome := Token.target?_isSome_iff.mpr (h.travels t rfl).moves
    simp [ht]

/-- A line is in the box if the token that takes the tool along is. -/
theorem isBoxed_of_route {p : Passage} {front back : List Token} {travel : Option Token}
    (htokens : p.tokens = front ++ travel.toList ++ back)
    (h : Route p.before p.after front travel back) : p.isBoxed = travel.any Token.isBoxed := by
  have hany (tokens : List Token) :
      tokens.any Token.isBoxed = (tokens.filter Token.isBoxed).any Token.isBoxed := by
    simp only [List.any_filter, Bool.and_self]
  rw [Passage.isBoxed, htokens, hany, h.filter_eq fun _ => Token.isBoxed_of_isStill, ← hany]
  cases travel <;> simp

/-- The view is right along the axes that are not astray. -/
def View.Tracks (v : View) (s : State) : Prop :=
  ∀ axis, axis ∉ v.astray → v.position.get axis = s.position.get axis

/-- Along the axes that are not astray the view is right after every line. -/
theorem View.Tracks.after {setup : Setup} {p : Passage} {v : View} (hp : p.Lawful setup)
    (h : v.Tracks p.before) : (v.after p).Tracks p.after := by
  obtain ⟨front, travel, back, htokens, hroute⟩ := hp.exists_route
  unfold View.after
  rw [travel?_of_route htokens hroute]
  cases travel with
  | none =>
    intro axis haxis
    rw [hroute.stays rfl]
    exact h axis haxis
  | some t =>
    have ht := hroute.travels t rfl
    intro axis haxis
    obtain ⟨value, hreach⟩ := Token.get_reach ht.moves p.after.distance axis
    rw [← ht.reach, hreach]
    by_cases hover : t.isPassedOver
    · simp only [hover, if_true, List.mem_append, not_or] at haxis ⊢
      rw [if_neg haxis.2]
      exact h axis haxis.1
    · simp only [hover, Bool.false_eq_true, if_false] at haxis ⊢
      rw [hreach]
      by_cases hprogrammed : axis ∈ t.programmed
      · by_cases habsolute : t.isAbsolute p.after.distance
        · simp only [hprogrammed, habsolute, if_true]
        · simp only [habsolute, Bool.false_eq_true, if_false] at haxis
          rw [h axis haxis]
      · have hastray : axis ∉ v.astray := by
          intro hmem
          refine haxis ?_
          split
          · simp [hmem, hprogrammed]
          · exact hmem
        simp only [hprogrammed, if_false, h axis hastray]

/-! ### The box of a line -/

/-- The box that takes in the end points that are seen. -/
def Box.addSeen (box : Box Float) (seen : List Sighting) : Box Float :=
  seen.foldl (fun box m => box.add m.seen.toList) box

theorem Box.get_add (box : Box Float) (position : AxisValues) (axis : Axis) :
    (box.add position.toList).get axis = (box.get axis).widen (position.get axis) := by
  cases axis <;> rfl

theorem Box.get_addSeen (box : Box Float) (seen : List Sighting) (axis : Axis) :
    (box.addSeen seen).get axis =
      (seen.map fun m => m.seen.get axis).foldl Span.widen (box.get axis) := by
  induction seen generalizing box with
  | nil => rfl
  | cons m seen ih =>
    rw [List.map_cons, List.foldl_cons, ← Box.get_add]
    exact ih (box.add m.seen.toList)

namespace BoxReplay

variable {r : BoxReplay} {t : Token} {tokens : List Token}

/-- A token that leaves the tool where it is can only select the distance mode. -/
theorem step_of_isStill (h : t.IsStill) :
    r.step t = { r with distance := t.distance?.getD r.distance } := by
  obtain ⟨command, line, body⟩ := t
  obtain ⟨hmove, hshift⟩ := h
  cases body with
  | linear | arc | drill => cases hmove
  | coordinates target slot =>
    have hcommand : command ≠ .g92 := by
      rintro rfl
      cases hshift
    exact if_neg hcommand
  | _ => rfl

theorem foldl_step_of_isStill (h : ∀ t ∈ tokens, t.IsStill) :
    tokens.foldl step r =
      { r with distance := tokens.foldl (fun mode t => t.distance?.getD mode) r.distance } := by
  induction tokens generalizing r with
  | nil => rfl
  | cons t tokens ih =>
    rw [List.foldl_cons, step_of_isStill (h t List.mem_cons_self),
      ih fun u hu => h u (List.mem_cons_of_mem t hu)]
    rfl

/-- A move that is not one in machine coordinates leads where its token leads. -/
private theorem move_eq {target : Target} (hmove : t.moveTarget? = some target)
    (hcommand : t.command ≠ .g53) :
    r.move target r.distance =
      { r with
        position := t.reach r.position r.distance
        box := (r.box.add r.position.toList).add (t.reach r.position r.distance).toList } := by
  rw [Token.reach_of_moveTarget? hmove, if_neg hcommand]
  rfl

/-- A token that takes the tool along takes the replay along, unless it is passed over. -/
theorem step_of_travels {start stop : AxisValues} (h : Travels start stop r.distance t) :
    r.step t =
      if t.isPassedOver then r
      else
        { r with
          position := t.reach r.position r.distance
          box :=
            if t.isBoxed then
              (r.box.add r.position.toList).add (t.reach r.position r.distance).toList
            else r.box } := by
  obtain ⟨command, line, body⟩ := t
  have hmachine := h.machine
  cases body with
  | linear target => rfl
  | spindleSync | thread => rfl
  | arc target words =>
    have hcommand : command ≠ .g53 := by
      rintro rfl
      obtain ⟨target, hbody⟩ := hmachine rfl
      cases hbody
    exact move_eq (t := ⟨command, line, .arc target words⟩) rfl hcommand
  | drill target words =>
    have hcommand : command ≠ .g53 := by
      rintro rfl
      obtain ⟨target, hbody⟩ := hmachine rfl
      cases hbody
    exact move_eq (t := ⟨command, line, .drill target words⟩) rfl hcommand
  | coordinates target slot =>
    have hcommand : command = .g92 := by
      by_contra hcommand
      exact h.moves ⟨rfl, if_neg hcommand⟩
    subst hcommand
    rfl
  | _ => exact absurd ⟨rfl, rfl⟩ h.moves

/-- A replay that sees the tool as a view does. -/
structure Follows (r : BoxReplay) (v : View) (s : State) : Prop where
  position : r.position = v.position
  distance : r.distance = s.distance

/-- A line takes the replay along with the view, and the box takes in what is seen. -/
theorem foldl_step_passage {setup : Setup} {p : Passage} {v : View} (hp : p.Lawful setup)
    (h : r.Follows v p.before) :
    (p.tokens.foldl step r).Follows (v.after p) p.after ∧
      (p.tokens.foldl step r).box = r.box.addSeen (p.sightings v) := by
  obtain ⟨front, travel, back, htokens, hroute⟩ := hp.exists_route
  have hfront := foldl_step_of_isStill (r := r) hroute.front_still
  rw [h.distance, hroute.front_distance] at hfront
  have hback := foldl_step_of_isStill (r := travel.toList.foldl step (front.foldl step r))
    fun t ht => (hroute.back_steady t ht).1
  rw [foldl_distance_of_isSteady hroute.back_steady] at hback
  rw [Passage.sightings, isBoxed_of_route htokens hroute, View.after,
    travel?_of_route htokens hroute, htokens, List.foldl_append, List.foldl_append, hback, hfront]
  cases travel with
  | none => exact ⟨⟨h.position, rfl⟩, rfl⟩
  | some t =>
    have ht := hroute.travels t rfl
    have hstep := step_of_travels (r := { r with distance := p.after.distance }) ht
    simp only [Option.toList_some, List.foldl_cons, List.foldl_nil, Option.any_some, hstep]
    by_cases hover : t.isPassedOver
    · have hboxed : t.isBoxed = false := Token.isBoxed_of_isPassedOver hover
      simp only [hover, if_true, hboxed, Bool.false_eq_true, if_false]
      exact ⟨⟨h.position, rfl⟩, rfl⟩
    · simp only [hover, Bool.false_eq_true, if_false, h.position]
      refine ⟨⟨rfl, rfl⟩, ?_⟩
      split <;> rfl

/-- A whole run takes the replay along with the view, and the box takes in what is seen. -/
theorem foldl_step_run {setup : Setup} {s u : State} {passages : List Passage} {v : View}
    (hrun : Run setup s passages u) (h : r.Follows v s) :
    ((passages.flatMap Passage.tokens).foldl step r).box =
      r.box.addSeen (sightings v passages) := by
  induction hrun generalizing r v with
  | nil s => rfl
  | cons head tail ih =>
    obtain ⟨hfollows, hbox⟩ := foldl_step_passage head h
    rw [List.flatMap_cons, List.foldl_append, ih hfollows, hbox, sightings, Box.addSeen,
      Box.addSeen, Box.addSeen, List.foldl_append]

end BoxReplay

/-! ### The box of a run -/

/-- What is seen of a line is seen before it or after it. -/
theorem Passage.sightings_cases {p : Passage} {v : View} {m : Sighting} (h : m ∈ p.sightings v) :
    m = ⟨v.position, p.before.position, v.astray⟩ ∨
      m = ⟨(v.after p).position, p.after.position, (v.after p).astray⟩ := by
  rw [sightings] at h
  split at h
  · simpa only [List.mem_cons, List.not_mem_nil, or_false] using h
  · cases h

/-- What is seen along an axis that is not astray is so. -/
theorem seen_eq_actual {setup : Setup} {s u : State} {passages : List Passage} {v : View}
    (hrun : Run setup s passages u) (h : v.Tracks s) {m : Sighting} (hm : m ∈ sightings v passages)
    {axis : Axis} (haxis : axis ∉ m.astray) : m.seen.get axis = m.actual.get axis := by
  induction hrun generalizing v with
  | nil s => cases hm
  | cons head tail ih =>
    rcases List.mem_append.mp hm with hm | hm
    · rcases Passage.sightings_cases hm with rfl | rfl
      · exact h axis haxis
      · exact h.after head axis haxis
    · exact ih (h.after head) hm

/-- The end points in the box are where the interpreter has them. -/
theorem map_actual_sightings (v : View) (passages : List Passage) (axis : Axis) :
    ((sightings v passages).map fun m => m.actual.get axis) = coordinatesOf axis passages := by
  induction passages generalizing v with
  | nil => rfl
  | cons p rest ih =>
    rw [sightings, List.map_append, ih]
    unfold Passage.sightings coordinatesOf
    cases hboxed : p.isBoxed <;> simp [hboxed]

/-- The box of a run is the extent of the positions of the interpreter along an axis if and only
if what is seen astray along the axis stays within these positions, and these positions within
what is seen. -/
theorem boxOf_run_iff {setup : Setup} {u : State} {passages : List Passage}
    (hrun : Run setup .initial passages u) (axis : Axis) :
    ((boxOf (passages.flatMap Passage.tokens)).get axis).IsExtentOf
        (coordinatesOf axis passages) ↔
      ∀ m ∈ sightings {} passages, axis ∈ m.astray →
        Encloses (coordinatesOf axis passages) (m.seen.get axis) ∧
          Encloses ((sightings {} passages).map fun m => m.seen.get axis) (m.actual.get axis) := by
  have hbox := BoxReplay.foldl_step_run (r := {}) (v := {}) hrun ⟨rfl, rfl⟩
  have hextent := Span.isExtentOf_foldl_widen ((sightings {} passages).map fun m => m.seen.get axis)
  rw [boxOf, hbox, Box.get_addSeen]
  have hempty : (Box.empty : Box Float).get axis = .empty := PerAxis.get_replicate _ axis
  rw [hempty, hextent.iff_encloses, ← map_actual_sightings {} passages axis]
  simp only [List.forall_mem_map]
  have htracks : View.Tracks {} State.initial := fun _ _ => rfl
  constructor
  · rintro ⟨hseen, hactual⟩ m hm -
    exact ⟨hseen m hm, hactual m hm⟩
  · intro h
    have hboth : ∀ m ∈ sightings {} passages,
        Encloses ((sightings {} passages).map fun m => m.actual.get axis) (m.seen.get axis) ∧
          Encloses ((sightings {} passages).map fun m => m.seen.get axis)
            (m.actual.get axis) := by
      intro m hm
      by_cases haxis : axis ∈ m.astray
      · exact h m hm haxis
      · have heq := seen_eq_actual hrun htracks hm haxis
        refine ⟨encloses_of_mem ?_, encloses_of_mem ?_⟩
        · rw [heq]
          exact List.mem_map_of_mem hm
        · rw [← heq]
          exact List.mem_map_of_mem hm
    exact ⟨fun m hm => (hboth m hm).1, fun m hm => (hboth m hm).2⟩

/-- A line takes an axis astray only if the box passes over a move that programs it. -/
theorem View.notMem_astray_after {p : Passage} {v : View} {axis : Axis} (h : axis ∉ v.astray)
    (hpassed : ∀ t ∈ p.tokens, t.isPassedOver → axis ∉ t.programmed) :
    axis ∉ (v.after p).astray := by
  unfold View.after
  cases htravel : p.travel? with
  | none => exact h
  | some t =>
    have ht := hpassed t (List.mem_of_find?_eq_some htravel)
    by_cases hover : t.isPassedOver
    · simp [hover, h, ht hover]
    · simp only [hover, Bool.false_eq_true, if_false]
      split
      · exact fun hmem => h (List.mem_filter.mp hmem).1
      · exact h

/-- An axis that no move programs which the box passes over does not go astray. -/
theorem not_mem_astray {passages : List Passage} {v : View} {axis : Axis} (h : axis ∉ v.astray)
    (hpassed : ∀ p ∈ passages, ∀ t ∈ p.tokens, t.isPassedOver → axis ∉ t.programmed) :
    ∀ m ∈ sightings v passages, axis ∉ m.astray := by
  induction passages generalizing v with
  | nil => simp [sightings]
  | cons p rest ih =>
    have hafter := View.notMem_astray_after h (hpassed p List.mem_cons_self)
    intro m hm
    rcases List.mem_append.mp hm with hm | hm
    · rcases Passage.sightings_cases hm with rfl | rfl
      · exact h
      · exact hafter
    · exact ih hafter (fun q hq => hpassed q (List.mem_cons_of_mem p hq)) m hm

/-- Along an axis that no move in step with the spindle and no threading cycle programs, the box
of a run is the extent of the positions of the interpreter. -/
theorem boxOf_run_of_not_programmed {setup : Setup} {u : State} {passages : List Passage}
    (hrun : Run setup .initial passages u) {axis : Axis}
    (h : ∀ p ∈ passages, ∀ t ∈ p.tokens, t.isPassedOver → axis ∉ t.programmed) :
    ((boxOf (passages.flatMap Passage.tokens)).get axis).IsExtentOf
      (coordinatesOf axis passages) := by
  rw [boxOf_run_iff hrun]
  intro m hm haxis
  exact absurd haxis (not_mem_astray List.not_mem_nil h m hm)

/-- When the box of a program is the extent of the positions of the interpreter along an axis. -/
theorem boxOf_readLines_iff (setup : Setup) (lines : List String) (axis : Axis) :
    let passages := Program.empty.passages setup lines
    let seen := sightings {} passages
    ((boxOf (Program.empty.readLines setup 0 lines).1.tokens.toList).get axis).IsExtentOf
        (coordinatesOf axis passages) ↔
      ∀ m ∈ seen, axis ∈ m.astray →
        Encloses (coordinatesOf axis passages) (m.seen.get axis) ∧
          Encloses (seen.map fun m => m.seen.get axis) (m.actual.get axis) := by
  intro passages seen
  have htokens : (Program.empty.readLines setup 0 lines).1.tokens.toList =
      passages.flatMap Passage.tokens :=
    Program.tokens_readLines setup Program.empty 0 lines
  rw [htokens]
  exact boxOf_run_iff (Program.run_passages setup Program.empty 0 lines) axis

/-- A program whose box is too small: the second line starts where the move in step with the
spindle has taken the tool, and the box takes it to be where it was before. -/
def spindleSyncFirst : List String :=
  ["G33 Z-10 K1", "G0 X5"]

theorem not_isExtentOf_spindleSyncFirst :
    (Program.empty.readLines {} 0 spindleSyncFirst).2.2 = none ∧
      ¬ ((boxOf (Program.empty.readLines {} 0 spindleSyncFirst).1.tokens.toList).get .z).IsExtentOf
        (coordinatesOf .z (Program.empty.passages {} spindleSyncFirst)) := by
  refine ⟨Option.isNone_iff_eq_none.mp (by decide +kernel), fun h => ?_⟩
  have hcoordinates : coordinatesOf .z (Program.empty.passages {} spindleSyncFirst) =
      [-10.0, -10.0] := by decide +kernel
  obtain ⟨hlow, -⟩ := h.encloses (-10.0) (by rw [hcoordinates]; exact List.mem_cons_self)
    (by decide +kernel)
  exact absurd hlow (by decide +kernel)

end NumericControl
