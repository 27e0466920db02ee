import Mathlib.Data.List.Forall2
import NumericControl.Proofs.Execution.Route
import NumericControl.Proofs.Extent.Exact
import NumericControl.Proofs.Outcome
import NumericControl.Toolpath

/-!
# How a toolpath is drawn

Segments, bounds and moves of a toolpath are three lists that grow side by side.  They stem from
one list of drawings: every token that is recorded as a move draws some points, its segments are the
chords between consecutive points, and the bounds take in every point.  An arc draws as many chords
as the resolution says and every other move draws one, from the exact start of the move to its exact
end.  A number of chords beyond all doubles divides no angle: it ends the replay at the first arc.

## Main definitions

* `Leads` : segments each of which starts where the one before it ends.
* `Course.visits` : the moves that are recorded, each with the course in front of it.
* `Course.drawings` : the drawings of a token stream.
* `Drawing.Spans`, `Drawing.IsAt` : how a drawing fits the resolution, and the course in front of
  it.
* `IsCuttable` : tokens of which the arcs can be cut into a number of chords.
* `endPoints` : all points at which a segment starts or ends.

## Main results

* `Course.draws_drawing?` : what the replay of one token adds.
* `Course.drawings_cases`, `Replay.run_eq` : what the replay of a stream adds, and when it fails.
* `Drawing.Spans.leads` : the segments of a drawing lead from the start of its move to the end.
* `PathBounds.foldl_add` : the bounds of points are their exact extents.
* `buildToolpath_drawings` : the segments, the moves and the bounds of a toolpath.
-/

namespace NumericControl

/-- Segments that lead from one point to another, each of which starts where the one before it
ends. -/
inductive Leads : Point Float → List Segment → Point Float → Prop
  | nil (p : Point Float) : Leads p [] p
  | cons (s : Segment) {rest : List Segment} {stop : Point Float}
      (tail : Leads s.stop rest stop) : Leads s.start (s :: rest) stop

/-- All points at which a segment starts or ends. -/
def endPoints (segments : List Segment) : List (Point Float) :=
  segments.flatMap fun s => [s.start, s.stop]

namespace Token

/-- Whether a token is a move. -/
def isMove (t : Token) : Bool :=
  t.moveTarget?.isSome

/-- Whether a token is an arc with a radius, which may fix no arc. -/
def isRadiusArc (t : Token) : Bool :=
  match t.body with
  | .arc _ words => words.radius.isSome
  | _ => false

theorem isMove_of_isArc {t : Token} (h : t.isArc = true) : t.isMove = true := by
  obtain ⟨command, line, body⟩ := t
  cases body with
  | arc => rfl
  | _ => cases h

end Token

/-- The arcs among some tokens can be cut into so many chords: a double stands for the number, or
there is no arc. -/
def IsCuttable (resolution : Int) (tokens : List Token) : Prop :=
  resolution < Number.wholeLimit ∨ ∀ t ∈ tokens, t.isArc = false

namespace Drawing

/-- How many segments there are. -/
def count (resolution : Int) (d : Drawing) : Nat :=
  if d.token.isArc then resolution.toNat else 1

/-- The points of a drawing are the exact ends of its move and those between. -/
structure Spans (resolution : Int) (d : Drawing) : Prop where
  command : d.move.command = d.token.command
  line : d.move.line = d.token.line
  points : ∃ between, d.points = d.move.start :: between ++ [d.move.stop] ∧
    between.length + 1 = d.count resolution

/-- The move of a drawing leads from the position of a course to the one behind its token, with the
feed that is in force there. -/
structure IsAt (c : Course) (t : Token) (d : Drawing) : Prop where
  token : d.token = t
  start : d.move.start = c.position.point
  stop : d.move.stop = (c.after t).position.point
  feedMode : d.move.feedMode = c.feedMode
  feed : d.move.feed = c.feedInForce

end Drawing

namespace Course

/-- If a token is an arc, it has a center when the replay has come to it. -/
def Resolves (c : Course) (t : Token) : Prop :=
  ∀ target words, t.body = .arc target words →
    ∃ p, centerOf c.position.point (c.moveEnd t target).point (t.command == .g2) words = .ok p

/-- Every arc of a token stream has a center when the replay has come to it. -/
def ResolvesAll (c : Course) : List Token → Prop
  | [] => True
  | t :: tokens => c.Resolves t ∧ (c.after t).ResolvesAll tokens

/-- Whether a token is recorded as a move: an arc only if it has a center. -/
def records (c : Course) (t : Token) : Bool :=
  match t.body with
  | .arc target words =>
    (centerOf c.position.point (c.moveEnd t target).point (t.command == .g2) words).isOk
  | _ => t.isMove

/-- The moves of a token stream that are recorded, each with the course in front of it. -/
def visits (c : Course) : List Token → List (Course × Token)
  | [] => []
  | t :: tokens => (if c.records t then [(c, t)] else []) ++ (c.after t).visits tokens

/-- The tokens that are recorded as moves. -/
def recorded (c : Course) (tokens : List Token) : List Token :=
  (c.visits tokens).map Prod.snd

/-- What a token stream adds to the path. -/
def drawings (resolution : Int) (c : Course) : List Token → Except BadResolution (List Drawing)
  | [] => .ok []
  | t :: tokens => do
    let drawing? ← c.drawing? resolution t
    let rest ← drawings resolution (c.after t) tokens
    return drawing?.toList ++ rest

end Course

/-! ### Chords -/

section Chords

variable {kind : SegmentKind} {start stop p : Point Float} {points between : List (Point Float)}

theorem leads_chords (kind : SegmentKind) (start stop : Point Float)
    (between : List (Point Float)) :
    Leads start (chords kind (start :: between ++ [stop])) stop := by
  induction between generalizing start with
  | nil => exact .cons ⟨start, stop, kind⟩ (.nil stop)
  | cons p between ih => exact .cons ⟨start, p, kind⟩ (ih p)

/-- There is one chord less than there are points. -/
theorem map_kind_chords (kind : SegmentKind) (start stop : Point Float)
    (between : List (Point Float)) :
    (chords kind (start :: between ++ [stop])).map Segment.kind =
      List.replicate (between.length + 1) kind := by
  induction between generalizing start with
  | nil => rfl
  | cons p between ih => exact congrArg (kind :: ·) (ih p)

theorem head?_chords (kind : SegmentKind) (start stop : Point Float)
    (between : List (Point Float)) :
    (chords kind (start :: between ++ [stop])).head?.map Segment.start = some start := by
  cases between <;> rfl

/-- The chords of two or more points start and end at all of them. -/
theorem mem_endPoints_chords (kind : SegmentKind) (start stop : Point Float)
    (between : List (Point Float)) :
    p ∈ endPoints (chords kind (start :: between ++ [stop])) ↔ p ∈ start :: between ++ [stop] := by
  induction between generalizing start with
  | nil => simp [chords, endPoints]
  | cons q between ih =>
    have hcons : endPoints (chords kind (start :: (q :: between) ++ [stop])) =
        start :: q :: endPoints (chords kind (q :: between ++ [stop])) := rfl
    rw [hcons, List.mem_cons, List.mem_cons, ih q, List.cons_append, List.mem_cons]
    simp

end Chords

/-! ### Drawings -/

namespace Drawing

variable {resolution : Int} {d : Drawing} {p : Point Float}

/-- The segments of a drawing lead from the exact start of its move to the exact end. -/
theorem Spans.leads (h : d.Spans resolution) : Leads d.move.start d.segments d.move.stop := by
  obtain ⟨between, hpoints, -⟩ := h.points
  rw [segments, hpoints]
  exact leads_chords d.kind d.move.start d.move.stop between

theorem Spans.map_kind (h : d.Spans resolution) :
    d.segments.map Segment.kind = List.replicate (d.count resolution) d.kind := by
  obtain ⟨between, hpoints, hcount⟩ := h.points
  rw [segments, hpoints, map_kind_chords, hcount]

theorem Spans.mem_endPoints (h : d.Spans resolution) :
    p ∈ endPoints d.segments ↔ p ∈ d.points := by
  obtain ⟨between, hpoints, -⟩ := h.points
  rw [segments, hpoints, mem_endPoints_chords]

/-- The first segment of a drawing starts at its first point. -/
theorem Spans.head? (h : d.Spans resolution) :
    d.segments.head?.map Segment.start = some d.move.start ∧
      d.points.head? = some d.move.start := by
  obtain ⟨between, hpoints, -⟩ := h.points
  rw [segments, hpoints]
  exact ⟨head?_chords d.kind d.move.start d.move.stop between, rfl⟩

end Drawing

/-! ### One token -/

theorem Chords.exists_ofInt_eq {resolution : Int} (hone : 1 ≤ resolution)
    (h : resolution < Number.wholeLimit) :
    ∃ chords, Chords.ofInt resolution = .ok chords ∧ chords.count = resolution.toNat := by
  have hlt : resolution.toNat < Number.wholeLimit := by omega
  refine ⟨⟨resolution.toNat, Number.nearestBinary resolution.toNat 0⟩, ?_, rfl⟩
  rw [Chords.ofInt, if_neg (Int.not_lt.mpr hone), Number.nearestWhole?, if_pos hlt]

theorem Chords.ofInt_eq_error {resolution : Int} (hone : 1 ≤ resolution)
    (h : ¬ resolution < Number.wholeLimit) : Chords.ofInt resolution = .error .tooLarge := by
  have hge : ¬ resolution.toNat < Number.wholeLimit := by omega
  rw [Chords.ofInt, if_neg (Int.not_lt.mpr hone), Number.nearestWhole?, if_neg hge]

namespace Course

variable {resolution : Int} {c : Course} {t : Token} {tokens : List Token} {d : Drawing}

/-- What the replay of one token may add to the path: nothing, or the drawing of a move; an arc that
cannot be cut ends the replay. -/
inductive Draws (resolution : Int) (c : Course) (t : Token) :
    Except BadResolution (Option Drawing) → Prop
  | nothing (skipped : c.records t = false) : Draws resolution c t (.ok none)
  | drawing {d : Drawing} (recorded : c.records t = true) (cuttable : IsCuttable resolution [t])
      (spans : d.Spans resolution) (place : d.IsAt c t) : Draws resolution c t (.ok (some d))
  | uncut (recorded : c.records t = true) (beyond : ¬ IsCuttable resolution [t]) :
      Draws resolution c t (.error .tooLarge)

/-- A straight move draws one segment. -/
theorem draws_straight (resolution : Int) {target : Target}
    (harc : t.isArc = false) (hafter : c.after t = { c with position := c.moveEnd t target })
    (hrecords : c.records t = true) :
    Draws resolution c t (.ok (some (c.straight t target))) := by
  refine .drawing hrecords (.inr ?_) ⟨rfl, rfl, [], rfl, ?_⟩ ⟨rfl, rfl, ?_, rfl, rfl⟩
  · simpa using harc
  · simp [Drawing.count, straight, Course.drawing, harc]
  · rw [hafter]
    rfl

/-- An arc with a center draws as many segments as the resolution says, unless that is too many. -/
theorem draws_arc (hone : 1 ≤ resolution) {target : Target} {words : ArcWords}
    (hbody : t.body = .arc target words) :
    Draws resolution c t (c.arc resolution t target words) := by
  have harc : t.isArc = true := by rw [Token.isArc, hbody]
  have hafter : c.after t = { c with position := c.moveEnd t target } := by rw [after, hbody]
  unfold Course.arc
  dsimp only
  cases hcenter : centerOf c.position.point (c.moveEnd t target).point (t.command == .g2) words with
  | error e =>
    exact .nothing (by simp [records, hbody, hcenter, Except.isOk, Except.toBool])
  | ok center =>
    have hrecords : c.records t = true := by
      simp [records, hbody, hcenter, Except.isOk, Except.toBool]
    by_cases hlt : resolution < Number.wholeLimit
    · obtain ⟨chords, hchords, hcount⟩ := Chords.exists_ofInt_eq hone hlt
      dsimp only
      rw [arcPoints, hchords]
      refine .drawing hrecords (.inl hlt) ⟨rfl, rfl, _, rfl, ?_⟩ ⟨rfl, rfl, ?_, rfl, rfl⟩
      · simp [Drawing.count, Course.drawing, harc, hcount]
        omega
      · rw [hafter]
        rfl
    · dsimp only
      rw [arcPoints, Chords.ofInt_eq_error hone hlt]
      exact .uncut hrecords (by simp [IsCuttable, hlt, harc])

/-- What the replay of one token adds to the path. -/
theorem draws_drawing? (hone : 1 ≤ resolution) (c : Course) (t : Token) :
    Draws resolution c t (c.drawing? resolution t) := by
  obtain ⟨command, line, body⟩ := t
  cases body with
  | arc target words => exact draws_arc hone rfl
  | linear target | drill target | spindleSync target | thread target =>
    exact draws_straight resolution rfl rfl rfl
  | _ => exact .nothing rfl

theorem isMove_of_records (h : c.records t = true) : t.isMove = true := by
  obtain ⟨command, line, body⟩ := t
  cases body with
  | arc => rfl
  | _ => exact h

/-- A move is recorded if it has a center in case it is an arc. -/
theorem records_of_resolves (hmove : t.isMove = true) (h : c.Resolves t) : c.records t = true := by
  obtain ⟨command, line, body⟩ := t
  cases body with
  | arc target words =>
    obtain ⟨center, hcenter⟩ := h target words rfl
    simp only [records, hcenter]
    rfl
  | _ => exact hmove

/-- An arc has a center unless it is one with a radius. -/
theorem resolves_of_not_isRadiusArc (h : t.isRadiusArc = false) : c.Resolves t := by
  intro target words hbody
  have hnone : words.radius = none := by simpa [Token.isRadiusArc, hbody] using h
  simp [centerOf, hnone]

/-! ### Token streams -/

theorem recorded_cons (c : Course) (t : Token) (tokens : List Token) :
    c.recorded (t :: tokens) =
      (if c.records t then [t] else []) ++ (c.after t).recorded tokens := by
  rw [recorded, visits, List.map_append]
  cases c.records t <;> rfl

/-- Moves are recorded in the order of their tokens. -/
theorem recorded_sublist (c : Course) (tokens : List Token) :
    (c.recorded tokens).Sublist (tokens.filter Token.isMove) := by
  induction tokens generalizing c with
  | nil => exact .slnil
  | cons t tokens ih =>
    rw [recorded_cons, List.filter_cons]
    cases hrecords : c.records t with
    | false =>
      refine (ih (c.after t)).trans ?_
      split
      · exact List.sublist_cons_self t _
      · exact List.Sublist.refl _
    | true =>
      rw [if_pos (isMove_of_records hrecords)]
      exact (ih (c.after t)).cons_cons t

/-- No move is left out but an arc with a radius. -/
theorem sublist_recorded (c : Course) (tokens : List Token) :
    (tokens.filter fun t => t.isMove && !t.isRadiusArc).Sublist (c.recorded tokens) := by
  induction tokens generalizing c with
  | nil => exact .slnil
  | cons t tokens ih =>
    rw [recorded_cons, ← List.singleton_append, List.filter_append]
    refine List.Sublist.append ?_ (ih _)
    by_cases hmove : t.isMove = true ∧ t.isRadiusArc = false
    · simp [hmove, records_of_resolves hmove.1 (resolves_of_not_isRadiusArc hmove.2)]
    · simp [hmove]

/-- Where every arc has a center all moves are recorded. -/
theorem recorded_of_resolvesAll (h : c.ResolvesAll tokens) :
    c.recorded tokens = tokens.filter Token.isMove := by
  induction tokens generalizing c with
  | nil => rfl
  | cons t tokens ih =>
    rw [recorded_cons, ih h.2, List.filter_cons]
    cases hmove : t.isMove with
    | true => simp [records_of_resolves hmove h.1]
    | false =>
      have hrecords : c.records t = false :=
        Bool.eq_false_iff.mpr fun hrecords => by simp [isMove_of_records hrecords] at hmove
      simp [hrecords]

end Course

theorem isCuttable_append_iff {resolution : Int} {tokens tokens' : List Token} :
    IsCuttable resolution (tokens ++ tokens') ↔
      IsCuttable resolution tokens ∧ IsCuttable resolution tokens' := by
  simp only [IsCuttable, List.forall_mem_append, or_and_left]

/-- Only moves count, since an arc is one. -/
theorem isCuttable_filter_isMove_iff {resolution : Int} {tokens : List Token} :
    IsCuttable resolution (tokens.filter Token.isMove) ↔ IsCuttable resolution tokens := by
  refine or_congr_right ⟨fun h t ht => ?_, fun h t ht => h t (List.mem_of_mem_filter ht)⟩
  by_contra harc
  rw [Bool.not_eq_false] at harc
  have hnone := h t (List.mem_filter.mpr ⟨ht, Token.isMove_of_isArc harc⟩)
  rw [harc] at hnone
  cases hnone

theorem isCuttable_nil (resolution : Int) : IsCuttable resolution [] :=
  .inr (List.forall_mem_nil _)

namespace Course

variable {resolution : Int} {c : Course} {t : Token} {tokens : List Token}

/-- What a token stream adds to the path: a drawing for every move that is recorded, unless arcs are
recorded that cannot be cut. -/
theorem drawings_cases (hone : 1 ≤ resolution) (c : Course) (tokens : List Token) :
    (IsCuttable resolution (c.recorded tokens) ∧ ∃ ds, c.drawings resolution tokens = .ok ds ∧
        (∀ d ∈ ds, d.Spans resolution) ∧
        List.Forall₂ (fun visit d => d.IsAt visit.1 visit.2) (c.visits tokens) ds) ∨
      ¬ IsCuttable resolution (c.recorded tokens) ∧
        c.drawings resolution tokens = .error .tooLarge := by
  induction tokens generalizing c with
  | nil => exact .inl ⟨isCuttable_nil resolution, [], rfl, List.forall_mem_nil _, .nil⟩
  | cons t tokens ih =>
    rw [recorded_cons, isCuttable_append_iff, drawings, visits]
    have hdraws := draws_drawing? hone c t
    generalize c.drawing? resolution t = drawing? at hdraws ⊢
    cases hdraws with
    | uncut hrecords hbeyond =>
      exact .inr ⟨fun h => hbeyond (by simpa [hrecords] using h.1), rfl⟩
    | nothing hrecords =>
      rw [hrecords]
      rcases ih (c.after t) with ⟨hcut, ds, hds, hspans, hplaces⟩ | ⟨hbeyond, hds⟩
      · exact .inl ⟨⟨isCuttable_nil resolution, hcut⟩, ds, by rw [hds]; rfl, hspans, hplaces⟩
      · exact .inr ⟨fun h => hbeyond h.2, by rw [hds]; rfl⟩
    | @drawing d hrecords hcut hspan hplace =>
      rw [hrecords]
      rcases ih (c.after t) with ⟨hcut', ds, hds, hspans, hplaces⟩ | ⟨hbeyond, hds⟩
      · exact .inl ⟨⟨hcut, hcut'⟩, d :: ds, by rw [hds]; rfl, List.forall_mem_cons.mpr
          ⟨hspan, hspans⟩, .cons hplace hplaces⟩
      · exact .inr ⟨fun h => hbeyond h.2, by rw [hds]; rfl⟩

/-- Drawings are of the tokens that are recorded. -/
theorem map_token_of_isAt {visits : List (Course × Token)} {ds : List Drawing}
    (h : List.Forall₂ (fun visit d => d.IsAt visit.1 visit.2) visits ds) :
    ds.map Drawing.token = visits.map Prod.snd := by
  induction h with
  | nil => rfl
  | cons hplace _ ih => rw [List.map_cons, List.map_cons, hplace.token, ih]

end Course

/-- A replay that nothing stops adds the drawings of its tokens to the path. -/
theorem Replay.run_eq {resolution : Int} {keepRunning : Nat → Bool} {index : Nat} {r : Replay}
    {tokens : List Token} (hkeep : ∀ i, keepRunning i = true) :
    Replay.run resolution keepRunning index r tokens =
      (r.course.drawings resolution tokens).map fun ds =>
        some ⟨tokens.foldl Course.after r.course, ds.foldl Toolpath.draw r.path⟩ := by
  induction tokens generalizing r index with
  | nil => rfl
  | cons t tokens ih =>
    rw [Replay.run, if_pos (hkeep index), Course.drawings, Replay.step]
    cases r.course.drawing? resolution t with
    | error fault => rfl
    | ok drawing? =>
      simp only [bind, Except.bind, pure, Except.pure]
      rw [ih]
      cases (r.course.after t).drawings resolution tokens with
      | error fault => rfl
      | ok ds => cases drawing? <;> rfl

/-- Segments and moves of a path to which drawings are added. -/
theorem Toolpath.foldl_draw (path : Toolpath) (ds : List Drawing) :
    (ds.foldl draw path).segments.toList = path.segments.toList ++ ds.flatMap Drawing.segments ∧
      (ds.foldl draw path).moves.toList = path.moves.toList ++ ds.map Drawing.move ∧
      (ds.foldl draw path).bounds =
        (ds.flatMap Drawing.points).foldl PathBounds.add path.bounds := by
  induction ds generalizing path with
  | nil => simp
  | cons d ds ih =>
    obtain ⟨hsegments, hmoves, hbounds⟩ := ih (path.draw d)
    rw [List.foldl_cons, hsegments, hmoves, hbounds]
    simp [draw, List.foldl_append]

/-! ### Bounds -/

namespace PathBounds

/-- The bounds along a coordinate. -/
def along (b : PathBounds) : Coordinate → Span Float
  | .x => b.x
  | .y => b.y
  | .z => b.z

theorem foldl_add_some (b : PathBounds) (points : List (Point Float)) :
    ∃ b', points.foldl add (some b) = some b' ∧
      ∀ c, b'.along c = (points.map (·.get c)).foldl Span.widen (b.along c) := by
  induction points generalizing b with
  | nil => exact ⟨b, rfl, fun _ => rfl⟩
  | cons p points ih =>
    obtain ⟨b', hb', halong⟩ := ih ⟨b.x.widen p.x, b.y.widen p.y, b.z.widen p.z⟩
    refine ⟨b', hb', fun c => ?_⟩
    rw [halong]
    cases c <;> rfl

/-- There are bounds as soon as there is a point, and each of them is the extent of one coordinate,
unless the first value is no number. -/
theorem foldl_add (p : Point Float) (points : List (Point Float)) :
    ∃ b, (p :: points).foldl add none = some b ∧
      ∀ c, ¬ (p.get c).isNaN → (b.along c).IsExtentOf ((p :: points).map (·.get c)) ∧
        (b.along c).low ∈ (p :: points).map (·.get c) ∧
        (b.along c).high ∈ (p :: points).map (·.get c) := by
  obtain ⟨b, hb, halong⟩ := foldl_add_some ⟨.single p.x, .single p.y, .single p.z⟩ points
  refine ⟨b, hb, fun c hc => ?_⟩
  have hsingle : (⟨.single p.x, .single p.y, .single p.z⟩ : PathBounds).along c =
      .single (p.get c) := by
    cases c <;> rfl
  rw [halong, hsingle, List.map_cons]
  exact ⟨(Span.isExtentOf_single hc).foldl_widen,
    Span.ends_mem_foldl_widen (.single (p.get c)) (points.map (·.get c))⟩

end PathBounds

/-- The segments of drawings start and end at all of their points. -/
theorem mem_endPoints_flatMap {resolution : Int} {ds : List Drawing}
    (h : ∀ d ∈ ds, d.Spans resolution) (p : Point Float) :
    p ∈ endPoints (ds.flatMap Drawing.segments) ↔ p ∈ ds.flatMap Drawing.points := by
  rw [endPoints, List.flatMap_assoc, List.mem_flatMap, List.mem_flatMap]
  exact exists_congr fun d => and_congr_right fun hd => (h d hd).mem_endPoints

/-- The bounds of drawings are the exact extents of the points at which their segments start or
end. -/
theorem bounds_of_spans {resolution : Int} {ds : List Drawing} (h : ∀ d ∈ ds, d.Spans resolution) :
    let segments := ds.flatMap Drawing.segments
    let bounds := (ds.flatMap Drawing.points).foldl PathBounds.add none
    (bounds = none ↔ segments = []) ∧
      ∀ b ∈ bounds, ∀ c, (∀ first ∈ segments.head?, ¬ (first.start.get c).isNaN) →
        let values := (endPoints segments).map (·.get c)
        (b.along c).IsExtentOf values ∧ (b.along c).low ∈ values ∧ (b.along c).high ∈ values := by
  cases ds with
  | nil => exact ⟨iff_of_true rfl rfl, nofun⟩
  | cons d ds =>
    intro segments bounds
    obtain ⟨first, hfirst, hstart⟩ :=
      Option.map_eq_some_iff.mp (h d List.mem_cons_self).head?.1
    have hhead : segments.head? = some first := by
      change (d.segments ++ ds.flatMap Drawing.segments).head? = some first
      rw [List.head?_append, hfirst, Option.some_or]
    obtain ⟨p, points, hpoints, rfl⟩ :
        ∃ p points, (d :: ds).flatMap Drawing.points = p :: points ∧ p = d.move.start := by
      obtain ⟨between, hbetween, -⟩ := (h d List.mem_cons_self).points
      exact ⟨_, _, by rw [List.flatMap_cons, hbetween]; rfl, rfl⟩
    obtain ⟨b, hb, hextent⟩ := PathBounds.foldl_add d.move.start points
    have hbounds : bounds = some b := by rw [← hb, ← hpoints]
    have hnonempty : segments ≠ [] := fun hnil => by simp [hnil] at hhead
    refine ⟨iff_of_false (by simp [hbounds]) hnonempty, ?_⟩
    intro b' hb' c hnumber
    rw [hbounds] at hb'
    cases hb'
    have hvalues (v : Float) : v ∈ (endPoints segments).map (·.get c) ↔
        v ∈ (d.move.start :: points).map (·.get c) := by
      rw [← hpoints, List.mem_map, List.mem_map]
      exact exists_congr fun p => and_congr_left' (mem_endPoints_flatMap h p)
    obtain ⟨hexact, hlow, hhigh⟩ := hextent c (hstart ▸ hnumber first hhead)
    exact ⟨hexact.of_mem_iff hvalues, (hvalues _).mpr hlow, (hvalues _).mpr hhigh⟩

/-! ### Toolpaths -/

/-- A toolpath that nothing stops consists of the drawings of its tokens. -/
theorem buildToolpath_eq {tokens : List Token} {resolution : Int} {keepRunning : Nat → Bool}
    (hresolution : 1 ≤ resolution) (hkeep : ∀ i, keepRunning i = true) :
    buildToolpath tokens resolution keepRunning =
      (Course.drawings resolution {} tokens).map fun ds => some (ds.foldl Toolpath.draw {}) := by
  rw [buildToolpath, if_neg (Int.not_lt.mpr hresolution), Replay.run_eq hkeep]
  cases Course.drawings resolution {} tokens <;> rfl

/-- Where all arcs can be cut the toolpath is that of the drawings of its tokens. -/
theorem exists_buildToolpath_eq {tokens : List Token} {resolution : Int} {keepRunning : Nat → Bool}
    (hresolution : 1 ≤ resolution) (hkeep : ∀ i, keepRunning i = true)
    (hcut : IsCuttable resolution (Course.recorded {} tokens)) :
    ∃ ds, buildToolpath tokens resolution keepRunning = .ok (some (ds.foldl Toolpath.draw {})) ∧
      (∀ d ∈ ds, d.Spans resolution) ∧
      List.Forall₂ (fun visit d => d.IsAt visit.1 visit.2) (Course.visits {} tokens) ds := by
  rw [buildToolpath_eq hresolution hkeep]
  rcases Course.drawings_cases hresolution {} tokens with
    ⟨-, ds, hds, hspans, hplaces⟩ | ⟨hbeyond, -⟩
  · exact ⟨ds, by rw [hds]; rfl, hspans, hplaces⟩
  · exact absurd hcut hbeyond

/-- An arc that cannot be cut leaves no toolpath. -/
theorem buildToolpath_eq_error {tokens : List Token} {resolution : Int} {keepRunning : Nat → Bool}
    (hresolution : 1 ≤ resolution) (hkeep : ∀ i, keepRunning i = true)
    (hbeyond : ¬ IsCuttable resolution (Course.recorded {} tokens)) :
    buildToolpath tokens resolution keepRunning = .error .tooLarge := by
  rw [buildToolpath_eq hresolution hkeep]
  rcases Course.drawings_cases hresolution {} tokens with ⟨hcut, -⟩ | ⟨-, hds⟩
  · exact absurd hcut hbeyond
  · rw [hds]
    rfl

/-- The segments of a toolpath split into one chain for each recorded move, which leads from the
exact start of the move to its exact end: as many chords as the resolution says for an arc, and one
segment for every other move.  No move is left out but an arc with a radius.  There are no bounds
exactly if there are no segments, and otherwise they are the least and the greatest value of all
points at which a segment starts or ends, along every coordinate that starts with a number.  There
is no toolpath if there is no double for the number of chords and an arc is recorded. -/
theorem buildToolpath_drawings (tokens : List Token) {resolution : Int} {keepRunning : Nat → Bool}
    (hresolution : 1 ≤ resolution) (hkeep : ∀ i, keepRunning i = true) :
    let recorded := Course.recorded {} tokens
    recorded.Sublist (tokens.filter Token.isMove) ∧
      (tokens.filter fun t => t.isMove && !t.isRadiusArc).Sublist recorded ∧
      (¬ IsCuttable resolution recorded →
        buildToolpath tokens resolution keepRunning = .error .tooLarge) ∧
      (IsCuttable resolution recorded → ∃ (path : Toolpath) (ds : List Drawing),
        buildToolpath tokens resolution keepRunning = .ok (some path) ∧
        ds.map Drawing.token = recorded ∧
        path.moves.toList = ds.map Drawing.move ∧
        path.segments.toList = ds.flatMap Drawing.segments ∧
        (∀ d ∈ ds, d.move.command = d.token.command ∧ d.move.line = d.token.line ∧
          Leads d.move.start d.segments d.move.stop ∧
          d.segments.map Segment.kind =
            if d.token.isArc then List.replicate resolution.toNat .arc
            else [straightKind d.token.command d.token.isDrill]) ∧
        (path.bounds = none ↔ path.segments.toList = []) ∧
        ∀ b ∈ path.bounds, ∀ c,
          (∀ first ∈ path.segments.toList.head?, ¬ (first.start.get c).isNaN) →
            let values := (endPoints path.segments.toList).map (·.get c)
            (b.along c).IsExtentOf values ∧ (b.along c).low ∈ values ∧
              (b.along c).high ∈ values) := by
  intro recorded
  refine ⟨Course.recorded_sublist {} tokens, Course.sublist_recorded {} tokens,
    buildToolpath_eq_error hresolution hkeep, fun hcut => ?_⟩
  obtain ⟨ds, hbuild, hspans, hplaces⟩ := exists_buildToolpath_eq hresolution hkeep hcut
  obtain ⟨hsegments, hmoves, hbounds⟩ := Toolpath.foldl_draw {} ds
  refine ⟨_, ds, hbuild, Course.map_token_of_isAt hplaces, hmoves, hsegments, ?_, ?_⟩
  · intro d hd
    have h := hspans d hd
    refine ⟨h.command, h.line, h.leads, ?_⟩
    rw [h.map_kind, Drawing.count, Drawing.kind]
    split <;> rfl
  · rw [hbounds, hsegments]
    exact bounds_of_spans hspans

/-- A full circle. -/
def circle : Token :=
  ⟨.g2, 1, .arc ⟨.zero, []⟩ ⟨⟨some 1.0, none, none⟩, none, .incremental, .xy⟩⟩

theorem buildToolpath_uncutCircle :
    (1 : Int) ≤ Number.wholeLimit ∧ circle.isArc = true ∧
      buildToolpath [circle] Number.wholeLimit (fun _ => true) = .error .tooLarge := by
  have hone : (1 : Int) ≤ Number.wholeLimit := Int.ofNat_le.mpr (by decide +kernel)
  refine ⟨hone, rfl, buildToolpath_eq_error hone (fun _ => rfl) ?_⟩
  have hrecorded : Course.recorded {} [circle] = [circle] := rfl
  rw [hrecorded]
  rintro (hlt | hnone)
  · exact absurd hlt (Int.lt_irrefl _)
  · cases hnone circle List.mem_cons_self

/-- A full circle that rises, a straight move and a drilling cycle. -/
def helixFirst : List Token :=
  [⟨.g2, 1, .arc ⟨AxisValues.zero.set .z 3.0, [.z]⟩
      ⟨⟨some 1.0, none, none⟩, none, .incremental, .xy⟩⟩,
    ⟨.g1, 2, .linear ⟨AxisValues.zero.set .x 2.0, [.x]⟩⟩,
    ⟨.g81, 3, .drill ⟨AxisValues.zero.set .z (-1.0), [.z]⟩ ⟨1.0, 1, 0.0, 0.0⟩⟩]

/-- Where the first segment of a path starts. -/
def Toolpath.origin? (path : Toolpath) : Option (Point Float) :=
  path.segments.toList.head?.map Segment.start

theorem buildToolpath_helixFirst :
    (1 : Int) ≤ 4 ∧ IsCuttable 4 (Course.recorded {} helixFirst) ∧
      ∃ (path : Toolpath) (ds : List Drawing) (b : PathBounds),
        buildToolpath helixFirst 4 (fun _ => true) = .ok (some path) ∧
        ds.map Drawing.token = helixFirst ∧ path.moves.toList = ds.map Drawing.move ∧
        path.segments.toList = ds.flatMap Drawing.segments ∧
        (∀ d ∈ ds, Leads d.move.start d.segments d.move.stop ∧
          d.segments.map Segment.kind =
            if d.token.isArc then [.arc, .arc, .arc, .arc]
            else [straightKind d.token.command d.token.isDrill]) ∧
        path.bounds = some b ∧
        ∀ c, (b.along c).IsExtentOf ((endPoints path.segments.toList).map (·.get c)) := by
  have hcut : IsCuttable 4 (Course.recorded {} helixFirst) :=
    .inl (Int.ofNat_lt.mpr (show 4 < Number.wholeLimit by decide +kernel))
  obtain ⟨-, -, -, hdrawn⟩ :=
    buildToolpath_drawings helixFirst (show (1 : Int) ≤ 4 by decide) (fun _ => rfl)
  obtain ⟨path, ds, hbuild, htokens, hmoves, hsegments, hchains, hnone, hbounds⟩ := hdrawn hcut
  have horigin : (buildToolpath helixFirst 4 fun _ => true).toOption.join.bind Toolpath.origin? =
      some ⟨0.0, 0.0, 0.0⟩ := by
    decide +kernel
  rw [hbuild] at horigin
  obtain ⟨first, hfirst, hstart⟩ := Option.map_eq_some_iff.mp horigin
  have hnumber (c : Coordinate) : ∀ first ∈ path.segments.toList.head?,
      ¬ (first.start.get c).isNaN := by
    intro first' hfirst'
    cases hfirst.symm.trans hfirst'
    rw [hstart]
    cases c <;> decide +kernel
  cases hb : path.bounds with
  | none =>
    rw [hnone.mp hb] at hfirst
    cases hfirst
  | some b =>
    exact ⟨by decide, hcut, path, ds, b, hbuild, htokens.trans rfl, hmoves, hsegments,
      fun d hd => (hchains d hd).2.2, hb, fun c => (hbounds b hb c (hnumber c)).1⟩

end NumericControl
