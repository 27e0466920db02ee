import NumericControl.Proofs.Program.Run
import NumericControl.Proofs.Toolpath.Drawings

/-!
# The moves of a toolpath

The tokens of a program are enough to find every position of the tool again: the course of a
program is at the position of the interpreter after every line.  So the replay records one move for
every move of the program, between the positions around the line of the move, and no arc of a
program is left out.

## Main definitions

* `Passage.moves` : the moves of a line, between the positions around it.
* `Course.Follows` : a course that is where the interpreter is.
* `Course.moveEnds` : the end points of the moves that are recorded.

## Main results

* `Course.foldl_after_passage` : a line takes the course along with the interpreter.
* `Course.foldl_after_run` : so does a whole run.
* `buildToolpath_of_readLines` : the moves of the toolpath of a program.
-/

namespace NumericControl

/-- The command, the line and the end points of a recorded move. -/
def Move.ends (m : Move) : Command × Nat × Point Float × Point Float :=
  (m.command, m.line, m.start, m.stop)

/-- The moves of a line: one for each of its tokens that is a move, between the positions before
and after the line. -/
def Passage.moves (p : Passage) : List (Command × Nat × Point Float × Point Float) :=
  (p.tokens.filter Token.isMove).map fun t =>
    (t.command, t.line, p.before.position.point, p.after.position.point)

namespace Course

/-- The end points of the moves that are recorded. -/
def moveEnds (c : Course) (tokens : List Token) :
    List (Command × Nat × Point Float × Point Float) :=
  (c.visits tokens).map fun (d, t) =>
    (t.command, t.line, d.position.point, (d.after t).position.point)

/-- A course that is where the interpreter is. -/
structure Follows (c : Course) (s : State) : Prop where
  position : c.position = s.position
  distance : c.distance = s.distance

variable {c : Course} {t : Token} {tokens : List Token}

theorem visits_append (c : Course) (tokens tokens' : List Token) :
    c.visits (tokens ++ tokens') = c.visits tokens ++ (tokens.foldl after c).visits tokens' := by
  induction tokens generalizing c with
  | nil => rfl
  | cons t tokens ih =>
    rw [List.cons_append, visits, visits, ih, List.append_assoc, List.foldl_cons]

theorem moveEnds_append (c : Course) (tokens tokens' : List Token) :
    c.moveEnds (tokens ++ tokens') =
      c.moveEnds tokens ++ (tokens.foldl after c).moveEnds tokens' := by
  rw [moveEnds, visits_append, List.map_append]
  rfl

theorem resolvesAll_append {tokens₁ tokens₂ : List Token} :
    c.ResolvesAll (tokens₁ ++ tokens₂) ↔
      c.ResolvesAll tokens₁ ∧ (tokens₁.foldl after c).ResolvesAll tokens₂ := by
  induction tokens₁ generalizing c with
  | nil => simp [ResolvesAll]
  | cons t tokens₁ ih => simp only [List.cons_append, ResolvesAll, ih, List.foldl_cons, and_assoc]

/-! ### Tokens that leave the tool where it is -/

theorem resolves_of_isStill (h : t.IsStill) : c.Resolves t := by
  intro target words hbody
  have hmove := h.1
  simp [Token.moveTarget?, hbody] at hmove

theorem isMove_eq_false_of_isStill (h : t.IsStill) : t.isMove = false := by
  rw [Token.isMove, h.1]
  rfl

theorem records_eq_false (h : t.isMove = false) : c.records t = false :=
  Bool.eq_false_iff.mpr fun hrecords => by simp [isMove_of_records hrecords] at h

/-- A token that leaves the tool where it is can only select the distance mode. -/
theorem after_of_isStill (h : t.IsStill) :
    (c.after t).position = c.position ∧ (c.after t).distance = t.distance?.getD c.distance := by
  obtain ⟨command, line, body⟩ := t
  obtain ⟨hmove, hshift⟩ := h
  cases body with
  | linear | arc | drill | spindleSync | thread => cases hmove
  | coordinates target slot =>
    have hcommand : command ≠ .g92 := by
      rintro rfl
      cases hshift
    have hafter : c.after ⟨command, line, .coordinates target slot⟩ = c := if_neg hcommand
    rw [hafter]
    exact ⟨rfl, rfl⟩
  | plain =>
    unfold after
    dsimp only
    split <;> exact ⟨rfl, rfl⟩
  | _ => exact ⟨rfl, rfl⟩

theorem foldl_after_of_isStill (h : ∀ t ∈ tokens, t.IsStill) :
    (tokens.foldl after c).position = c.position ∧
      (tokens.foldl after c).distance =
        tokens.foldl (fun mode t => t.distance?.getD mode) c.distance ∧
      c.moveEnds tokens = [] ∧ c.ResolvesAll tokens := by
  induction tokens generalizing c with
  | nil => exact ⟨rfl, rfl, rfl, trivial⟩
  | cons t tokens ih =>
    have ht : t.IsStill := h t List.mem_cons_self
    obtain ⟨hposition, hdistance⟩ := after_of_isStill (c := c) ht
    obtain ⟨hposition', hdistance', hends', hresolves⟩ :=
      ih (c := c.after t) fun u hu => h u (List.mem_cons_of_mem t hu)
    refine ⟨hposition'.trans hposition, ?_, ?_, resolves_of_isStill ht, hresolves⟩
    · rw [List.foldl_cons, hdistance', hdistance, List.foldl_cons]
    · rw [moveEnds, visits, records_eq_false (isMove_eq_false_of_isStill ht)]
      exact hends'

/-! ### Tokens that take the tool along -/

/-- The center of an arc with offsets is always known, that of one with a radius if the radius
fixes an arc between the two positions. -/
theorem resolves_of_travels {start stop : AxisValues} (h : Travels start stop c.distance t)
    (hposition : c.position = start) : c.Resolves t := by
  intro target words hbody
  have hmove : t.moveTarget? = some target := by simp only [Token.moveTarget?, hbody]
  have hend : c.moveEnd t target = stop := by
    rw [← h.reach, Token.reach_of_moveTarget? hmove, ← hposition]
    rfl
  unfold centerOf
  cases hradius : words.radius with
  | none => exact ⟨_, rfl⟩
  | some radius =>
    rw [hend, hposition]
    exact h.center hbody hradius

theorem after_of_moveTarget? {target : Target} (h : t.moveTarget? = some target) :
    c.after t = { c with position := c.moveEnd t target } := by
  obtain ⟨command, line, body⟩ := t
  cases body with
  | linear | arc | drill | spindleSync | thread =>
    cases h
    rfl
  | _ => cases h

theorem after_of_shiftTarget? {target : Target} (h : t.shiftTarget? = some target) :
    c.after t = { c with position := advance c.position target.values target.axes .absolute } := by
  obtain ⟨command, line, body⟩ := t
  cases body with
  | coordinates target' slot =>
    obtain ⟨rfl, htarget⟩ := Option.ite_none_right_eq_some.mp h
    cases htarget
    rfl
  | _ => cases h

/-- A token that takes the tool along takes the course along. -/
theorem after_of_travels {start stop : AxisValues} (h : Travels start stop c.distance t)
    (hposition : c.position = start) :
    (c.after t).position = stop ∧ (c.after t).distance = c.distance := by
  have hreach := h.reach
  rw [← hposition] at hreach
  cases hmove : t.moveTarget? with
  | some target =>
    rw [Token.reach_of_moveTarget? hmove] at hreach
    rw [after_of_moveTarget? hmove]
    exact ⟨hreach, rfl⟩
  | none =>
    cases hshift : t.shiftTarget? with
    | none => exact absurd ⟨hmove, hshift⟩ h.moves
    | some target =>
      rw [Token.reach_of_shiftTarget? hmove hshift] at hreach
      rw [after_of_shiftTarget? hshift]
      exact ⟨hreach, rfl⟩

/-! ### Lines and runs -/

/-- The only move of a line is the token that takes the tool along, if it is a move at all. -/
private theorem moves_of_route {p : Passage} {front back : List Token} {travel : Option Token}
    (htokens : p.tokens = front ++ travel.toList ++ back)
    (h : Route p.before p.after front travel back) :
    p.moves = (travel.toList.filter Token.isMove).map fun t =>
      (t.command, t.line, p.before.position.point, p.after.position.point) := by
  rw [Passage.moves, htokens, h.filter_eq fun _ => isMove_eq_false_of_isStill]

/-- The token that takes the tool along takes the course along, and it is recorded if it is a
move. -/
private theorem foldl_after_travel {start stop : AxisValues} {travel : Option Token}
    (htravels : ∀ t ∈ travel, Travels start stop c.distance t)
    (hstays : travel = none → stop = start) (hposition : c.position = start) :
    (travel.toList.foldl after c).position = stop ∧
      (travel.toList.foldl after c).distance = c.distance ∧
      c.moveEnds travel.toList = (travel.toList.filter Token.isMove).map (fun t =>
        (t.command, t.line, start.point, stop.point)) ∧
      c.ResolvesAll travel.toList := by
  cases travel with
  | none => exact ⟨hposition.trans (hstays rfl).symm, rfl, rfl, trivial⟩
  | some t =>
    have ht := htravels t rfl
    have hresolves := resolves_of_travels ht hposition
    obtain ⟨hstop, hdistance⟩ := after_of_travels ht hposition
    refine ⟨hstop, hdistance, ?_, hresolves, trivial⟩
    cases hmove : t.isMove with
    | false => simp [moveEnds, visits, hmove, records_eq_false hmove]
    | true =>
      simp [moveEnds, visits, hmove, records_of_resolves hmove hresolves, hposition, hstop]

/-- The tokens behind the one that takes the tool along change nothing that the course shares with
the interpreter. -/
theorem foldl_after_of_isSteady (h : ∀ t ∈ tokens, t.IsSteady) :
    (tokens.foldl after c).position = c.position ∧
      (tokens.foldl after c).distance = c.distance ∧
      c.moveEnds tokens = [] ∧ c.ResolvesAll tokens := by
  obtain ⟨hposition, hdistance, hends, hresolves⟩ :=
    foldl_after_of_isStill (c := c) fun t ht => (h t ht).1
  refine ⟨hposition, ?_, hends, hresolves⟩
  rw [hdistance, foldl_distance_of_isSteady h]

/-- A line takes the course along with the interpreter, and the moves of the line are recorded. -/
theorem foldl_after_passage {setup : Setup} {p : Passage} (hp : p.Lawful setup)
    (h : c.Follows p.before) :
    (p.tokens.foldl after c).Follows p.after ∧ c.moveEnds p.tokens = p.moves ∧
      c.ResolvesAll p.tokens := by
  obtain ⟨front, travel, back, htokens, hroute⟩ := hp.exists_route
  obtain ⟨hposition₁, hdistance₁, hends₁, hresolves₁⟩ :=
    foldl_after_of_isStill (c := c) hroute.front_still
  rw [h.position] at hposition₁
  rw [h.distance, hroute.front_distance] at hdistance₁
  obtain ⟨hposition₂, hdistance₂, hends₂, hresolves₂⟩ :=
    foldl_after_travel (by rw [hdistance₁]; exact hroute.travels) hroute.stays hposition₁
  obtain ⟨hposition₃, hdistance₃, hends₃, hresolves₃⟩ :=
    foldl_after_of_isSteady hroute.back_steady
      (c := travel.toList.foldl after (front.foldl after c))
  rw [moves_of_route htokens hroute, htokens, List.foldl_append, List.foldl_append,
    resolvesAll_append, resolvesAll_append, List.foldl_append, moveEnds_append, moveEnds_append,
    List.foldl_append, hends₁, hends₂, hends₃, List.nil_append, List.append_nil]
  exact ⟨⟨hposition₃.trans hposition₂, hdistance₃.trans (hdistance₂.trans hdistance₁)⟩, rfl,
    ⟨hresolves₁, hresolves₂⟩, hresolves₃⟩

/-- A whole run takes the course along with the interpreter, and its moves are recorded. -/
theorem foldl_after_run {setup : Setup} {s u : State} {passages : List Passage}
    (hrun : Run setup s passages u) (h : c.Follows s) :
    ((passages.flatMap Passage.tokens).foldl after c).Follows u ∧
      c.moveEnds (passages.flatMap Passage.tokens) = passages.flatMap Passage.moves ∧
      c.ResolvesAll (passages.flatMap Passage.tokens) := by
  induction hrun generalizing c with
  | nil s => exact ⟨h, rfl, trivial⟩
  | cons head tail ih =>
    obtain ⟨hfollows, hends, hresolves⟩ := foldl_after_passage head h
    obtain ⟨hfollows', hends', hresolves'⟩ := ih hfollows
    simp only [List.flatMap_cons, List.foldl_append, resolvesAll_append]
    refine ⟨hfollows', ?_, hresolves, hresolves'⟩
    rw [moveEnds_append, hends, hends']

/-- Drawings are recorded between the end points of their moves. -/
theorem map_ends_of_isAt {visits : List (Course × Token)} {resolution : Int} {ds : List Drawing}
    (hspans : ∀ d ∈ ds, d.Spans resolution)
    (h : List.Forall₂ (fun visit d => d.IsAt visit.1 visit.2) visits ds) :
    ds.map (fun d => d.move.ends) = visits.map fun (d, t) =>
      (t.command, t.line, d.position.point, (d.after t).position.point) := by
  induction h with
  | nil => rfl
  | cons hplace _ ih =>
    obtain ⟨hspan, hspans⟩ := List.forall_mem_cons.mp hspans
    rw [List.map_cons, List.map_cons, ih hspans, Move.ends, hspan.command, hspan.line,
      hplace.token, hplace.start, hplace.stop]

end Course

/-- Every arc of a program has a center when the replay comes to it, so all of them are recorded. -/
theorem resolvesAll_readLines (setup : Setup) (lines : List String) :
    Course.ResolvesAll {} (Program.empty.readLines setup 0 lines).1.tokens.toList := by
  rw [Program.tokens_readLines setup Program.empty 0 lines]
  exact (Course.foldl_after_run (Program.run_passages setup Program.empty 0 lines)
    ⟨rfl, rfl⟩).2.2

theorem isCuttable_recorded_readLines (setup : Setup) (lines : List String) (resolution : Int) :
    let tokens := (Program.empty.readLines setup 0 lines).1.tokens.toList
    IsCuttable resolution (Course.recorded {} tokens) ↔ IsCuttable resolution tokens := by
  intro tokens
  rw [Course.recorded_of_resolvesAll (resolvesAll_readLines setup lines),
    isCuttable_filter_isMove_iff]

/-- The toolpath of a program that is accepted as a whole: it has one move for every move of the
program, in the order of the tokens, between the positions of the interpreter around its line, and
every arc of the program has a center when the replay comes to it.  There is no toolpath if there is
no double for the number of chords and the program has an arc. -/
theorem buildToolpath_of_readLines (setup : Setup) (lines : List String) (resolution : Int)
    (keepRunning : Nat → Bool) (hread : (Program.empty.readLines setup 0 lines).2.2 = none)
    (hresolution : 1 ≤ resolution) (hkeep : ∀ i, keepRunning i = true) :
    let tokens := (Program.empty.readLines setup 0 lines).1.tokens.toList
    let passages := Program.empty.passages setup lines
    passages.length = lines.length ∧
      (∀ i (h : i < passages.length),
        passages[i].before = (Program.empty.readLines setup 0 (lines.take i)).1.state ∧
          passages[i].after = (Program.empty.readLines setup 0 (lines.take (i + 1))).1.state) ∧
      tokens = passages.flatMap Passage.tokens ∧
      Course.ResolvesAll {} tokens ∧
      (IsCuttable resolution tokens →
        ∃ path, buildToolpath tokens resolution keepRunning = .ok (some path) ∧
          path.moves.toList.map Move.ends = passages.flatMap Passage.moves) ∧
      (¬ IsCuttable resolution tokens →
        buildToolpath tokens resolution keepRunning = .error .tooLarge) := by
  intro tokens passages
  have htokens : tokens = passages.flatMap Passage.tokens :=
    Program.tokens_readLines setup Program.empty 0 lines
  obtain ⟨-, hends, -⟩ := Course.foldl_after_run (c := {})
    (Program.run_passages setup Program.empty 0 lines) ⟨rfl, rfl⟩
  rw [← htokens] at hends
  have hcut_iff := isCuttable_recorded_readLines setup lines resolution
  refine ⟨Program.length_passages hread, Program.around_passages setup Program.empty 0 lines,
    htokens, resolvesAll_readLines setup lines, fun hcut => ?_, fun hbeyond =>
      buildToolpath_eq_error hresolution hkeep (mt hcut_iff.mp hbeyond)⟩
  obtain ⟨ds, hbuild, hspans, hplaces⟩ :=
    exists_buildToolpath_eq hresolution hkeep (hcut_iff.mpr hcut)
  refine ⟨_, hbuild, ?_⟩
  rw [(Toolpath.foldl_draw {} ds).2.1, ← hends]
  exact (List.map_map ..).trans (Course.map_ends_of_isAt hspans hplaces)

/-- A program with a radius arc, a move in step with the spindle, a shift of the program position
and a move to a stored position. -/
def mixedMoves : List String :=
  ["G91", "G2 X2 R1", "G33 Z-1 K0.5", "G92 X0", "G90 G28 X1"]

theorem buildToolpath_mixedMoves :
    (Program.empty.readLines {} 0 mixedMoves).2.2 = none ∧ (1 : Int) ≤ 4 ∧
      IsCuttable 4 (Program.empty.readLines {} 0 mixedMoves).1.tokens.toList ∧
      ∃ path,
        buildToolpath (Program.empty.readLines {} 0 mixedMoves).1.tokens.toList 4 (fun _ => true) =
            .ok (some path) ∧
          path.moves.toList.map Move.ends =
            [(.g2, 2, ⟨0.0, 0.0, 0.0⟩, ⟨2.0, 0.0, 0.0⟩),
              (.g33, 3, ⟨2.0, 0.0, 0.0⟩, ⟨2.0, 0.0, -1.0⟩),
              (.g28, 5, ⟨0.0, 0.0, -1.0⟩, ⟨1.0, 0.0, -1.0⟩)] := by
  have hread : (Program.empty.readLines {} 0 mixedMoves).2.2 = none :=
    Option.isNone_iff_eq_none.mp (by decide +kernel)
  have hmoves : (Program.empty.passages {} mixedMoves).flatMap Passage.moves =
      [(.g2, 2, ⟨0.0, 0.0, 0.0⟩, ⟨2.0, 0.0, 0.0⟩),
        (.g33, 3, ⟨2.0, 0.0, 0.0⟩, ⟨2.0, 0.0, -1.0⟩),
        (.g28, 5, ⟨0.0, 0.0, -1.0⟩, ⟨1.0, 0.0, -1.0⟩)] := by
    decide +kernel
  have hcut : IsCuttable 4 (Program.empty.readLines {} 0 mixedMoves).1.tokens.toList :=
    .inl (Int.ofNat_lt.mpr (show 4 < Number.wholeLimit by decide +kernel))
  obtain ⟨-, -, -, -, hbuild, -⟩ :=
    buildToolpath_of_readLines {} mixedMoves 4 (fun _ => true) hread (by decide) (fun _ => rfl)
  obtain ⟨path, hpath, hends⟩ := hbuild hcut
  exact ⟨hread, by decide, hcut, path, hpath, hends.trans hmoves⟩

/-- A program with an arc. -/
def oneArc : List String :=
  ["G2 X2 I1"]

/-- An arc that is to be cut into more chords than any double counts leaves no toolpath. -/
theorem buildToolpath_uncutArc :
    (Program.empty.readLines {} 0 oneArc).2.2 = none ∧ (1 : Int) ≤ Nat.pow 10 400 ∧
      buildToolpath (Program.empty.readLines {} 0 oneArc).1.tokens.toList (Nat.pow 10 400)
        (fun _ => true) = .error .tooLarge := by
  have hone : (1 : Int) ≤ Nat.pow 10 400 := Int.ofNat_le.mpr (by decide +kernel)
  have harc : ((Course.recorded {} (Program.empty.readLines {} 0 oneArc).1.tokens.toList).all
      fun t => !t.isArc) = false := by
    decide +kernel
  refine ⟨Option.isNone_iff_eq_none.mp (by decide +kernel), hone,
    buildToolpath_eq_error hone (fun _ => rfl) ?_⟩
  rintro (hlt | hnone)
  · have hbeyond : Number.wholeLimit ≤ Nat.pow 10 400 := by decide +kernel
    exact absurd (Int.ofNat_lt.mp hlt) (Nat.not_lt.mpr hbeyond)
  · rw [List.all_eq_false] at harc
    obtain ⟨t, ht, hmem⟩ := harc
    exact hmem (by rw [hnone t ht]; rfl)

end NumericControl
