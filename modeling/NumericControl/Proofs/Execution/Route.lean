import NumericControl.Proofs.Execution.Stages

/-!
# The way of the tool along a line

At most one token of a line takes the tool along, and the token of the distance mode stands before
it.  So the position after the line can be found from the tokens: it is where that one token leads
from the position before the line, in the distance mode after the line.

## Main definitions

* `Token.moveTarget?`, `Token.shiftTarget?`, `Token.distance?` : the axis values of a move and of
  a shift of the program position, and the distance mode that a token selects.
* `Token.reach` : the position to which a token leads.
* `Travels` : a token that takes the tool from one position to another.
* `Route` : the tokens of a line around the one that takes the tool along.

## Main results

* `Route.filter_eq` : the other tokens of a line leave the tool where it is.
* `Execution.exists_parts`, `Execution.exists_route` : the tokens of every block by their stages,
  and their route.
-/

namespace NumericControl

namespace Token

/-- The axis values of a move. -/
def moveTarget? (t : Token) : Option Target :=
  match t.body with
  | .linear target | .arc target _ | .drill target _ | .spindleSync target _ | .thread target _ =>
    some target
  | _ => none

/-- The axis values of a shift of the program position. -/
def shiftTarget? (t : Token) : Option Target :=
  match t.body with
  | .coordinates target _ => if t.command = .g92 then some target else none
  | _ => none

/-- The distance mode that a token selects. -/
def distance? (t : Token) : Option DistanceMode :=
  match t.body with
  | .distance mode => some mode
  | _ => none

/-- The position to which a token leads.  Shifts and moves in machine coordinates have positions
in every distance mode. -/
def reach (t : Token) (position : AxisValues) (distance : DistanceMode) : AxisValues :=
  match t.moveTarget?, t.shiftTarget? with
  | some target, _ =>
    advance position target.values target.axes
      (if t.command = .g53 then .absolute else distance)
  | none, some target => advance position target.values target.axes .absolute
  | none, none => position

/-- A token that leaves the tool where it is. -/
def IsStill (t : Token) : Prop :=
  t.moveTarget? = none ∧ t.shiftTarget? = none

/-- A token that says nothing about positions. -/
def IsSteady (t : Token) : Prop :=
  t.IsStill ∧ t.distance? = none

theorem not_isStill_of_move {t : Token} {target : Target} (h : t.moveTarget? = some target) :
    ¬ t.IsStill := by
  rintro ⟨hmove, -⟩
  simp [hmove] at h

theorem not_isStill_of_shift {t : Token} {target : Target} (h : t.shiftTarget? = some target) :
    ¬ t.IsStill := by
  rintro ⟨-, hshift⟩
  simp [hshift] at h

theorem reach_of_moveTarget? {t : Token} {target : Target} (h : t.moveTarget? = some target)
    (position : AxisValues) (distance : DistanceMode) :
    t.reach position distance =
      advance position target.values target.axes
        (if t.command = .g53 then .absolute else distance) := by
  simp only [reach, h]

theorem reach_of_shiftTarget? {t : Token} {target : Target} (hmove : t.moveTarget? = none)
    (hshift : t.shiftTarget? = some target) (position : AxisValues) (distance : DistanceMode) :
    t.reach position distance = advance position target.values target.axes .absolute := by
  simp only [reach, hmove, hshift]

end Token

/-- Tokens that say nothing about positions leave the distance mode as it is. -/
theorem foldl_distance_of_isSteady {tokens : List Token} (h : ∀ t ∈ tokens, t.IsSteady)
    (mode : DistanceMode) : tokens.foldl (fun mode t => t.distance?.getD mode) mode = mode := by
  induction tokens generalizing mode with
  | nil => rfl
  | cons t tokens ih =>
    rw [List.foldl_cons, (h t List.mem_cons_self).2]
    exact ih (fun u hu => h u (List.mem_cons_of_mem t hu)) mode

/-- A token that takes the tool from one position to another. -/
structure Travels (start stop : AxisValues) (distance : DistanceMode) (t : Token) : Prop where
  moves : ¬ t.IsStill
  /-- Only a straight move can be one in machine coordinates. -/
  machine : t.command = .g53 → ∃ target, t.body = .linear target
  reach : t.reach start distance = stop
  /-- A radius fixes an arc between the two positions. -/
  center {target : Target} {words : ArcWords} {radius : Float} (hbody : t.body = .arc target words)
    (hradius : words.radius = some radius) :
    ∃ c, centerFromRadius start.point stop.point radius (t.command == .g2) words.plane = .ok c

/-- The tokens of a line around the one that takes the tool along, if there is one. -/
structure Route (before after : State) (front : List Token) (travel : Option Token)
    (back : List Token) : Prop where
  front_still : ∀ t ∈ front, t.IsStill
  front_distance :
    front.foldl (fun mode t => t.distance?.getD mode) before.distance = after.distance
  travels : ∀ t ∈ travel, Travels before.position after.position after.distance t
  stays : travel = none → after.position = before.position
  back_steady : ∀ t ∈ back, t.IsSteady

/-- A line without tokens has a route if it leaves position and distance mode as they are. -/
theorem Route.of_stays {before after : State} (hposition : after.position = before.position)
    (hdistance : after.distance = before.distance) : Route before after [] none [] where
  front_still := by simp
  front_distance := hdistance.symm
  travels := by simp
  stays _ := hposition
  back_steady := by simp

/-- What only holds of tokens that take the tool along holds at most of the one in the route. -/
theorem Route.filter_eq {before after : State} {front back : List Token} {travel : Option Token}
    (h : Route before after front travel back) {p : Token → Bool}
    (hp : ∀ t : Token, t.IsStill → p t = false) :
    (front ++ travel.toList ++ back).filter p = travel.toList.filter p := by
  have hstill (tokens : List Token) (htokens : ∀ t ∈ tokens, t.IsStill) :
      tokens.filter p = [] := by
    rw [List.filter_eq_nil_iff]
    intro t ht
    rw [hp t (htokens t ht)]
    exact Bool.false_ne_true
  rw [List.filter_append, List.filter_append, hstill front h.front_still,
    hstill back fun t ht => (h.back_steady t ht).1, List.nil_append, List.append_nil]

namespace Execution

variable (ex : Execution)

/-- The stages in front of the one of the distance mode. -/
def settingStages : List (Execution → Except Failure (Option Token)) :=
  [messageStage, feedModeStage, feedStage, spindleSpeedModeStage, spindleSpeedStage,
    toolSelectStage, toolChangeStage, spindleStage, coolantStage, overrideStage, userStage,
    dwellStage, planeStage, latheStage, unitsStage, scalingStage, cutterStage, toolLengthStage,
    coordinateSystemStage, pathStage]

/-- The stages between the one of the distance mode and those that take the tool along. -/
def arcSettingStages : List (Execution → Except Failure (Option Token)) :=
  [arcDistanceStage, retractStage]

theorem stages_eq :
    stages = settingStages ++ ([distanceStage] ++ (arcSettingStages ++
      ([positioningStage] ++ ([motionStage] ++ [flowStage])))) :=
  rfl

variable {ex}

private theorem isSteady_of_messageStage {t : Token} (h : ex.messageStage = .ok (some t)) :
    t.IsSteady := by
  rcases messageStage_cases h with h | ⟨text, h⟩ <;> cases h
  exact ⟨⟨rfl, rfl⟩, rfl⟩

private theorem isSteady_of_toolSelectStage {t : Token} (h : ex.toolSelectStage = .ok (some t)) :
    t.IsSteady := by
  obtain ⟨o, -, h⟩ := bind_eq_ok_iff.mp h
  exact forall_of_map (fun _ => ⟨⟨rfl, rfl⟩, rfl⟩) h

private theorem isSteady_of_toolChangeStage {t : Token} (h : ex.toolChangeStage = .ok (some t)) :
    t.IsSteady := by
  rcases toolChangeStage_cases h with ⟨-, h | h⟩ | ⟨tool, -, h⟩ <;> cases h
  · exact ⟨⟨rfl, rfl⟩, rfl⟩
  · exact ⟨⟨rfl, rfl⟩, rfl⟩

private theorem isSteady_of_dwellStage {t : Token} (h : ex.dwellStage = .ok (some t)) :
    t.IsSteady := by
  rcases dwellStage_cases h with h | ⟨seconds, h⟩ <;> cases h
  exact ⟨⟨rfl, rfl⟩, rfl⟩

private theorem isSteady_of_toolLengthStage {t : Token} (h : ex.toolLengthStage = .ok (some t)) :
    t.IsSteady := by
  rcases toolLengthStage_cases h with ⟨-, h⟩ | ⟨-, h⟩ | ⟨-, h⟩ | ⟨number, -, ⟨-, h⟩ | ⟨-, h⟩⟩ <;>
    cases h
  · exact ⟨⟨rfl, rfl⟩, rfl⟩
  · exact ⟨⟨rfl, rfl⟩, rfl⟩
  · exact ⟨⟨rfl, rfl⟩, rfl⟩
  · exact ⟨⟨rfl, rfl⟩, rfl⟩

/-- The stages in front of the distance mode yield tokens that say nothing about positions. -/
theorem isSteady_of_mem_settingStages {stage : Execution → Except Failure (Option Token)}
    (hstage : stage ∈ settingStages) {t : Token} (h : stage ex = .ok (some t)) :
    t.IsSteady := by
  simp only [settingStages, List.mem_cons, List.not_mem_nil, or_false] at hstage
  rcases hstage with rfl | rfl | rfl | rfl | rfl | rfl | rfl | rfl | rfl | rfl | rfl | rfl | rfl |
    rfl | rfl | rfl | rfl | rfl | rfl | rfl
  any_goals exact forall_of_map (fun _ => ⟨⟨rfl, rfl⟩, rfl⟩) h
  · exact isSteady_of_messageStage h
  · exact isSteady_of_toolSelectStage h
  · exact isSteady_of_toolChangeStage h
  · exact isSteady_of_dwellStage h
  · exact isSteady_of_toolLengthStage h

theorem isSteady_of_mem_arcSettingStages {stage : Execution → Except Failure (Option Token)}
    (hstage : stage ∈ arcSettingStages) {t : Token} (h : stage ex = .ok (some t)) :
    t.IsSteady := by
  simp only [arcSettingStages, List.mem_cons, List.not_mem_nil, or_false] at hstage
  rcases hstage with rfl | rfl
  · exact forall_of_map (fun _ => ⟨⟨rfl, rfl⟩, rfl⟩) h
  · exact forall_of_map (fun _ => ⟨⟨rfl, rfl⟩, rfl⟩) h

/-- The token of the distance mode selects the mode in force, and without a token the mode stays
what it was. -/
theorem distance_of_distanceStage {o : Option Token} (h : ex.distanceStage = .ok o) :
    (∀ t ∈ o, t.IsStill) ∧
      o.toList.foldl (fun mode t => t.distance?.getD mode) ex.state.distance = ex.distance := by
  unfold distanceStage at h
  unfold distance
  cases hmode : ex.distance? with
  | none =>
    rw [hmode] at h
    cases h
    simp
  | some mode =>
    rw [hmode] at h
    cases h
    simp [token, Token.IsStill, Token.moveTarget?, Token.shiftTarget?, Token.distance?]

/-! ### Moves -/

/-- A token of the move in force: it has the axis values of the block, and if it is an arc with a
radius, the radius fixes an arc between the ends of the move. -/
structure IsMove (ex : Execution) (t : Token) : Prop where
  target : t.moveTarget? = some ex.target
  command : t.command ≠ .g53
  center {target : Target} {words : ArcWords} {radius : Float} (hbody : t.body = .arc target words)
    (hradius : words.radius = some radius) :
    ∃ c, centerFromRadius ex.state.position.point ex.moveEnd.point radius (t.command == .g2)
      words.plane = .ok c

theorem arcCommand_eq_g2 (clockwise : Bool) : (arcCommand clockwise == .g2) = clockwise := by
  cases clockwise <;> rfl

private theorem arcCommand_ne_g53 (clockwise : Bool) : arcCommand clockwise ≠ .g53 := by
  cases clockwise <;> decide

private theorem drillCommand_ne_g53 (cycle : DrillCycle) : drillCommand cycle ≠ .g53 := by
  cases cycle <;> decide

private theorem probeCommand_ne_g53 (mode : ProbeMode) : probeCommand mode ≠ .g53 := by
  cases mode <;> decide

private theorem isMove_of_arcMove {clockwise : Bool} {t : Token}
    (h : ex.arcMove clockwise = .ok t) : ex.IsMove t := by
  rcases arcMove_cases h with ⟨radius, center, hcenter, rfl⟩ | ⟨-, rfl⟩
  · refine ⟨rfl, arcCommand_ne_g53 clockwise, ?_⟩
    intro target words radius hbody hradius
    cases hbody
    cases hradius
    exact ⟨center, (arcCommand_eq_g2 clockwise).symm ▸ hcenter⟩
  · refine ⟨rfl, arcCommand_ne_g53 clockwise, ?_⟩
    intro target words radius hbody hradius
    cases hbody
    cases hradius

/-- A token with the axis values of the block that is no arc is a token of the move. -/
private theorem isMove_token {command : Command} {body : Token.Body} (hcommand : command ≠ .g53)
    (htarget : (ex.token command body).moveTarget? = some ex.target)
    (hbody : ∀ target words, body ≠ .arc target words) : ex.IsMove (ex.token command body) :=
  ⟨htarget, hcommand, fun h _ => absurd h (hbody _ _)⟩

/-- In a motion mode that is not cancelled there is a move. -/
theorem isMove_of_move {o : Option Token} (hmotion : ex.motion ≠ .cancelled)
    (h : ex.move = .ok o) : ∃ t, o = some t ∧ ex.IsMove t := by
  unfold move at h
  split at h
  · cases h
    exact ⟨_, rfl, isMove_token (by decide) rfl (fun _ _ h => by cases h)⟩
  · cases h
    exact ⟨_, rfl, isMove_token (by decide) rfl (fun _ _ h => by cases h)⟩
  · cases h
    rename_i mode _
    exact ⟨_, rfl, isMove_token (probeCommand_ne_g53 mode) rfl (fun _ _ h => by cases h)⟩
  · obtain ⟨t, ht, rfl⟩ := map_eq_ok_iff.mp h
    exact ⟨t, rfl, isMove_of_arcMove ht⟩
  · obtain ⟨t, ht, rfl⟩ := map_eq_ok_iff.mp h
    obtain ⟨pitch, rfl⟩ := spindleSyncMove_cases ht
    exact ⟨_, rfl, isMove_token (by decide) rfl (fun _ _ h => by cases h)⟩
  · obtain ⟨t, ht, rfl⟩ := map_eq_ok_iff.mp h
    obtain ⟨words, rfl⟩ := threadMove_cases ht
    exact ⟨_, rfl, isMove_token (by decide) rfl (fun _ _ h => by cases h)⟩
  · rename_i cycle _
    obtain ⟨t, ht, rfl⟩ := map_eq_ok_iff.mp h
    obtain ⟨repeats, peck, -, rfl⟩ := drillMove_cases ht
    exact ⟨_, rfl, isMove_token (drillCommand_ne_g53 cycle) rfl (fun _ _ h => by cases h)⟩
  · exact absurd ‹_› hmotion

theorem IsMove.travels {t : Token} (h : ex.IsMove t) :
    Travels ex.state.position ex.moveEnd ex.distance t where
  moves := Token.not_isStill_of_move h.target
  machine hcommand := absurd hcommand h.command
  reach := by
    rw [Token.reach_of_moveTarget? h.target, if_neg h.command]
    rfl
  center := h.center

/-! ### Positions and offsets -/

private theorem isSteady_of_setDataStage {t : Token} (h : ex.setDataStage = .ok (some t)) :
    t.IsSteady := by
  obtain ⟨choice?, -, ⟨-, h⟩ | ⟨form, -, h⟩⟩ := setDataStage_cases h
  · cases h
    exact ⟨⟨rfl, rfl⟩, rfl⟩
  · cases h
    exact ⟨⟨rfl, rfl⟩, rfl⟩

/-- The token of a positioning code takes the tool to where the code leads, or else the code leads
nowhere. -/
theorem positioningStage_cases {o : Option Token} (h : ex.positioningStage = .ok o) :
    (ex.positioned = ex.state.position ∧ ∀ t ∈ o, t.IsSteady) ∨
      (ex.positioning?.isSome ∧
        ∃ t, o = some t ∧ Travels ex.state.position ex.positioned ex.distance t) := by
  unfold positioningStage at h
  unfold positioned
  cases hp : ex.positioning? with
  | none =>
    rw [hp] at h
    cases h
    exact .inl ⟨rfl, by simp⟩
  | some p =>
    rw [hp] at h
    cases p with
    | setData =>
      refine .inl ⟨rfl, ?_⟩
      rintro t rfl
      exact isSteady_of_setDataStage h
    | goFirst | goSecond =>
      cases h
      exact .inr ⟨rfl, _, rfl, ⟨Token.not_isStill_of_move rfl, nofun, rfl, nofun⟩⟩
    | machine =>
      cases h
      exact .inr ⟨rfl, _, rfl, ⟨Token.not_isStill_of_move rfl, fun _ => ⟨_, rfl⟩, rfl, nofun⟩⟩
    | setOffset =>
      cases h
      exact .inr ⟨rfl, _, rfl, ⟨Token.not_isStill_of_shift rfl, nofun, rfl, nofun⟩⟩
    | storeFirst | storeSecond | clearOffset | suspendOffset | restoreOffset =>
      cases h
      refine .inl ⟨rfl, ?_⟩
      rintro t ⟨⟩
      exact ⟨⟨rfl, rfl⟩, rfl⟩

/-- The token of the motion in force takes the tool along exactly if the block moves it. -/
theorem motionStage_cases {o : Option Token} (h : ex.motionStage = .ok o) :
    (ex.moves = false ∧ ∀ t ∈ o, t.IsSteady) ∨
      (ex.moves = true ∧ ∃ t, o = some t ∧ ex.IsMove t) := by
  unfold motionStage at h
  split at h
  · rename_i hmotion
    cases h
    refine .inl ⟨by simp [moves, motion, hmotion], ?_⟩
    rintro t ⟨⟩
    exact ⟨⟨rfl, rfl⟩, rfl⟩
  · split at h
    · rename_i hmoves
      have hmotion : ex.motion ≠ .cancelled := by
        intro hmotion
        simp [moves, hmotion] at hmoves
      exact .inr ⟨hmoves, isMove_of_move hmotion h⟩
    · rename_i hmoves
      cases h
      exact .inl ⟨by simpa using hmoves, by simp⟩

/-- The tokens of positioning and motion take the tool from the position before the block to the
one after it, by at most one token. -/
private theorem exists_travel {o₁ o₂ : Option Token} (h₁ : ex.positioningStage = .ok o₁)
    (h₂ : ex.motionStage = .ok o₂) :
    ∃ (front : List Token) (travel : Option Token) (back : List Token),
      o₁.toList ++ o₂.toList = front ++ travel.toList ++ back ∧
      (∀ t ∈ front, t.IsSteady) ∧ (∀ t ∈ back, t.IsSteady) ∧
      (∀ t ∈ travel, Travels ex.state.position ex.position ex.distance t) ∧
      (travel = none → ex.position = ex.state.position) := by
  rcases positioningStage_cases h₁ with ⟨hpositioned, hsteady⟩ | ⟨hcode, t, rfl, ht⟩
  · rcases motionStage_cases h₂ with ⟨hmoves, hsteady'⟩ | ⟨hmoves, t, rfl, ht⟩
    · refine ⟨o₁.toList, none, o₂.toList, by simp, by simpa using hsteady, by simpa using hsteady',
        by simp, fun _ => ?_⟩
      simp only [position, hmoves, Bool.false_eq_true, if_false, hpositioned]
    · refine ⟨o₁.toList, some t, [], by simp, by simpa using hsteady, by simp, ?_, nofun⟩
      rintro _ ⟨⟩
      simpa only [position, hmoves, if_true] using ht.travels
  · have hmoves : ex.moves = false := by
      rw [moves, Option.isNone_eq_false_iff.mpr hcode]
      rfl
    rcases motionStage_cases h₂ with ⟨-, hsteady⟩ | ⟨hmoves', -⟩
    · refine ⟨[], some t, o₂.toList, by simp, by simp, by simpa using hsteady, ?_, nofun⟩
      rintro _ ⟨⟩
      simpa only [position, hmoves, Bool.false_eq_true, if_false] using ht
    · rw [hmoves] at hmoves'
      cases hmoves'

/-- The tokens of a block by their stages: all but those of the distance mode, of positioning and of
motion say nothing about positions. -/
theorem exists_parts {tokens : List Token} (h : ex.tokensOf stages = .ok tokens) :
    ∃ settings mode arcSettings o₁ o₂ flow,
      tokens = settings ++ (mode.toList ++ (arcSettings ++ (o₁.toList ++ (o₂.toList ++ flow)))) ∧
      ex.distanceStage = .ok mode ∧ ex.positioningStage = .ok o₁ ∧ ex.motionStage = .ok o₂ ∧
      (∀ t ∈ settings, t.IsSteady) ∧ (∀ t ∈ arcSettings, t.IsSteady) ∧
      ∀ t ∈ flow, t.IsSteady := by
  rw [stages_eq, tokensOf_append_eq_ok_iff] at h
  obtain ⟨settings, _, hsettings, h, rfl⟩ := h
  rw [List.singleton_append, tokensOf_cons_eq_ok_iff] at h
  obtain ⟨mode, _, hmode, h, rfl⟩ := h
  rw [tokensOf_append_eq_ok_iff] at h
  obtain ⟨arcSettings, _, harcSettings, h, rfl⟩ := h
  rw [List.singleton_append, tokensOf_cons_eq_ok_iff] at h
  obtain ⟨o₁, _, h₁, h, rfl⟩ := h
  rw [List.singleton_append, tokensOf_cons_eq_ok_iff] at h
  obtain ⟨o₂, flow, h₂, hflow, rfl⟩ := h
  refine ⟨settings, mode, arcSettings, o₁, o₂, flow, rfl, hmode, h₁, h₂,
    forall_mem_of_tokensOf (fun _ hs _ => isSteady_of_mem_settingStages hs) hsettings,
    forall_mem_of_tokensOf (fun _ hs _ => isSteady_of_mem_arcSettingStages hs) harcSettings,
    forall_mem_of_tokensOf (fun stage hstage t ht => ?_) hflow⟩
  rw [List.mem_singleton] at hstage
  subst hstage
  exact forall_of_map (fun _ => ⟨⟨rfl, rfl⟩, rfl⟩) ht

/-- The tokens of every block have a route. -/
theorem exists_route {tokens : List Token} {next : State} {tools : List Int}
    (h : ex.run = .ok (tokens, next, tools)) :
    ∃ front travel back, tokens = front ++ travel.toList ++ back ∧
      Route ex.state next front travel back := by
  obtain ⟨htokens, -, number, tool, -, -, rfl⟩ := run_eq_ok_iff.mp h
  obtain ⟨settings, mode, arcSettings, o₁, o₂, flow, rfl, hmode, h₁, h₂, hsettings, harcSettings,
    hflow⟩ := exists_parts htokens
  obtain ⟨hstill, hdistance⟩ := distance_of_distanceStage hmode
  obtain ⟨front, travel, back, heq, hfront, hback, htravels, hstays⟩ := exists_travel h₁ h₂
  refine ⟨settings ++ mode.toList ++ arcSettings ++ front, travel, back ++ flow,
    by simp only [List.append_assoc, ← List.append_assoc o₁.toList, heq], ?_⟩
  refine ⟨?_, ?_, htravels, hstays, ?_⟩
  · intro t ht
    simp only [List.mem_append, Option.mem_toList] at ht
    rcases ht with ((ht | ht) | ht) | ht
    · exact (hsettings t ht).1
    · exact hstill t ht
    · exact (harcSettings t ht).1
    · exact (hfront t ht).1
  · simp only [List.foldl_append, foldl_distance_of_isSteady hsettings, hdistance,
      foldl_distance_of_isSteady harcSettings, foldl_distance_of_isSteady hfront]
    rfl
  · intro t ht
    rcases List.mem_append.mp ht with ht | ht
    · exact hback t ht
    · exact hflow t ht

end Execution

end NumericControl
