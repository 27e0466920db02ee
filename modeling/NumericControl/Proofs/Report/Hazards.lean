import NumericControl.Proofs.Execution.Emission
import NumericControl.Proofs.Program.Readings
import NumericControl.Report.Basic

/-!
# The hazards of a report

A report lists hazards by the tokens of the lines that are read.  A line brings the token of a mode
exactly if it selects the mode, and no line leaves a mode in force that was not in force before and
has no token.  So the modes that are reported are those that some line leaves in force.

Scaling is different: its token tells that it is switched on, with factors that may all be one.

## Main definitions

* `Hazard.Holds` : a state is in the mode that a hazard warns of.
* `Report.after` : a report after one more reading.

## Main results

* `Execution.Emits.holds`, `Execution.holds_cases` : tokens and modes of one block.
* `Program.exists_token_of_holds` : a mode in force after a line was brought by a token.
* `Report.mem_hazards_readings_iff` : a report lists what the tokens of the readings bring.
* `validate_hazards_iff` : the modes that a report lists are those that are in force at some time.
-/

namespace NumericControl

namespace Hazard

/-- The state is in the mode that a hazard warns of.  Offsets are no mode of the state. -/
def Holds : Hazard → State → Prop
  | incremental, s => s.distance = .incremental
  | inverseTime, s => s.feedMode = .inverseTime
  | inches, s => s.units = .imperial
  | scaling, s => ∃ axis, (s.scaleFactors.get axis != 1.0) = true
  | offsets, _ => False

/-- Whether a hazard is a mode that its token selects. -/
def isMode : Hazard → Bool
  | incremental | inverseTime | inches => true
  | scaling | offsets => false

theorem not_holds_initial (hazard : Hazard) : ¬ hazard.Holds .initial := by
  cases hazard with
  | scaling =>
    rintro ⟨axis, haxis⟩
    rw [State.initial, AxisValues.one, PerAxis.get_replicate] at haxis
    exact absurd haxis (by decide)
  | incremental | inverseTime | inches | offsets => nofun

end Hazard

/-! ### One block -/

namespace Execution

variable {ex : Execution} {stage : Stage} {t : Token} {hazard : Hazard} {tokens : List Token}
  {next : State} {tools : List Int}

/-- After a block that emits the token of a mode the mode is in force. -/
theorem Emits.holds (h : ex.Emits stage t) (hhazard : t.hazard? = some hazard)
    (hmode : hazard.isMode = true) (number tool : Int) : hazard.Holds (ex.next number tool) := by
  cases h with
  | @feedMode mode code =>
    cases mode <;> cases hhazard
    simp [Hazard.Holds, next, code]
  | @units units code =>
    cases units <;> cases hhazard
    simp [Hazard.Holds, next, Execution.units, code]
  | @distance mode code =>
    cases mode <;> cases hhazard
    simp [Hazard.Holds, next, Execution.distance, code]
  | @scaling active code =>
    cases active <;> cases hhazard
    cases hmode
  | move moves =>
    obtain ⟨mode, htoken⟩ := exists_isMoveToken moves
    cases htoken <;> cases hhazard
  | setOffset | clearOffset | suspendOffset | restoreOffset =>
    cases hhazard
    cases hmode
  | spindleSpeedMode | override | path | retract | flow =>
    rename_i mode _
    cases mode <;> cases hhazard
  | @coordinateSystem slot =>
    change Token.hazard? ⟨coordinateSystemCommand slot, _, .plain⟩ = _ at hhazard
    unfold coordinateSystemCommand at hhazard
    split at hhazard <;> cases hhazard
  | _ => cases hhazard

/-- A mode in force is the one before or is selected. -/
private theorem mode_cases {α : Type} {mode? : Option α} {before mode : α}
    (h : mode?.getD before = mode) : before = mode ∨ mode? = some mode := by
  cases mode? with
  | none => exact .inl h
  | some selected => exact .inr (congrArg some h)

/-- A mode that is in force after a block was in force before it or is brought by a token. -/
theorem holds_cases (hrun : ex.run = .ok (tokens, next, tools)) (h : hazard.Holds next) :
    hazard.Holds ex.state ∨ ∃ t ∈ tokens, t.hazard? = some hazard := by
  have hbrings (run : Execution → Except Failure (Option Token)) (t : Token)
      (hstage : run ∈ stages) (ht : run ex = .ok (some t)) (hhazard : t.hazard? = some hazard) :
      ∃ t ∈ tokens, t.hazard? = some hazard :=
    ⟨t, mem_of_run hrun hstage ht, hhazard⟩
  obtain ⟨-, -, number, tool, -, -, rfl⟩ := run_eq_ok_iff.mp hrun
  cases hazard with
  | incremental =>
    refine (mode_cases h).imp_right fun hcode =>
      hbrings distanceStage (ex.token .g91 (.distance .incremental)) (by simp [stages]) ?_ rfl
    rw [distanceStage, hcode]
    rfl
  | inverseTime =>
    refine (mode_cases h).imp_right fun hcode =>
      hbrings feedModeStage (ex.token .g93 .plain) (by simp [stages]) ?_ rfl
    rw [feedModeStage, hcode]
    rfl
  | inches =>
    refine (mode_cases h).imp_right fun hcode =>
      hbrings unitsStage (ex.token .g20 (.units .imperial)) (by simp [stages]) ?_ rfl
    rw [unitsStage, hcode]
    rfl
  | scaling =>
    obtain ⟨axis, haxis⟩ := h
    change (ex.scaleFactors.get axis != 1.0) = true at haxis
    cases hcode : ex.scaling? with
    | none =>
      rw [scaleFactors, hcode] at haxis
      exact .inl ⟨axis, haxis⟩
    | some active =>
      cases active with
      | true =>
        refine .inr (hbrings scalingStage
          (ex.token .g51 (.scaling ⟨ex.scaleFactors, ex.axisWords.given⟩)) (by simp [stages]) ?_
          rfl)
        rw [scalingStage, hcode]
        rfl
      | false =>
        -- without scaling all factors are one
        rw [scaleFactors, hcode] at haxis
        exact absurd ⟨axis, haxis⟩ (Hazard.not_holds_initial .scaling)
  | offsets => exact h.elim

end Execution

/-! ### Several lines -/

/-- After a line that brings the token of a mode the mode is in force. -/
theorem Passage.Lawful.holds {setup : Setup} {r : Passage} (h : r.Lawful setup) {t : Token}
    {hazard : Hazard} (ht : t ∈ r.tokens) (hhazard : t.hazard? = some hazard)
    (hmode : hazard.isMode = true) : hazard.Holds r.after := by
  cases h with
  | idle | demarcation => cases ht
  | block hex hrun =>
    obtain ⟨-, -, number, tool, -, -, rfl⟩ := Execution.run_eq_ok_iff.mp hrun
    exact (Execution.emits_of_run hrun t ht).holds hhazard hmode number tool

/-- A mode that is in force after a line was in force before it or is brought by a token. -/
theorem Passage.Lawful.holds_cases {setup : Setup} {r : Passage} (h : r.Lawful setup)
    {hazard : Hazard} (hholds : hazard.Holds r.after) :
    hazard.Holds r.before ∨ ∃ t ∈ r.tokens, t.hazard? = some hazard := by
  cases h with
  | idle s => exact .inl hholds
  | demarcation s programEnd => exact .inl (by cases hazard <;> exact hholds)
  | block hex hrun =>
    rw [← state_of_executionOf hex]
    exact Execution.holds_cases hrun hholds

namespace Program

variable {setup : Setup} {p : Program} {lines : List String} {hazard : Hazard}

/-- A mode that is in force after some line was in force before all lines or is brought by a
token of one of them. -/
theorem exists_token_of_holds {r : Reading} (hr : r ∈ p.readings setup lines)
    (hholds : hazard.Holds r.after.state) :
    hazard.Holds p.state ∨
      ∃ r ∈ p.readings setup lines, ∃ t ∈ r.tokens, t.hazard? = some hazard := by
  induction lines generalizing p with
  | nil => cases hr
  | cons text rest ih =>
    have hfirst (h : hazard.Holds (p.reading setup text).after.state) :
        hazard.Holds p.state ∨
          ∃ r ∈ p.readings setup (text :: rest), ∃ t ∈ r.tokens, t.hazard? = some hazard :=
      ((p.lawful_reading setup text).holds_cases h).imp_right fun ht =>
        ⟨_, List.mem_cons_self, ht⟩
    rcases List.mem_cons.mp hr with rfl | hr
    · exact hfirst hholds
    · rcases ih hr with h | ⟨r, hr, ht⟩
      · exact hfirst h
      · exact .inr ⟨r, List.mem_cons_of_mem _ hr, ht⟩

/-- From a program before its first line, the modes that tokens bring are those in force at some
time. -/
theorem exists_token_iff_exists_holds (hmode : hazard.isMode = true) :
    (∃ r ∈ empty.readings setup lines, ∃ t ∈ r.tokens, t.hazard? = some hazard) ↔
      ∃ r ∈ empty.readings setup lines, hazard.Holds r.after.state := by
  constructor
  · rintro ⟨r, hr, t, ht, hhazard⟩
    obtain ⟨p, text, -, rfl⟩ := exists_reading_of_mem hr
    exact ⟨_, hr, (p.lawful_reading setup text).holds ht hhazard hmode⟩
  · rintro ⟨r, hr, hholds⟩
    exact (exists_token_of_holds hr hholds).resolve_left hazard.not_holds_initial

end Program

/-! ### The report -/

/-- The hazards of tokens are those that are known or that one of the tokens brings. -/
theorem mem_append_newHazards_iff {known : List Hazard} {tokens : List Token} {hazard : Hazard} :
    hazard ∈ known ++ newHazards known tokens ↔
      hazard ∈ known ∨ ∃ t ∈ tokens, t.hazard? = some hazard := by
  induction tokens generalizing known with
  | nil => simp [newHazards]
  | cons t tokens ih =>
    simp only [newHazards, List.mem_cons, exists_eq_or_imp]
    cases hbrings : t.hazard? with
    | none => simp [ih]
    | some other =>
      simp only [Option.some.injEq]
      by_cases hknown : other ∈ known
      · have himp : other = hazard → hazard ∈ known := fun h => h ▸ hknown
        rw [if_pos (List.contains_iff_mem.mpr hknown), ih, ← or_assoc, or_iff_left_of_imp himp]
      · rw [if_neg (mt List.contains_iff_mem.mp hknown), List.append_cons, ih, List.mem_append,
          List.mem_singleton, or_assoc, @eq_comm _ hazard]

namespace Report

variable {config : Config} {report : Report} {p : Program} {lines : List String} {hazard : Hazard}

/-- A report after one more reading. -/
def after (report : Report) (r : Reading) : Report :=
  match r.outcome with
  | .ok (_, handled) => report.accept r.text handled r.tokens
  | .error (.refused e) => report.refuse r.text e
  | .error _ => report

theorem hazards_record (number : Nat) (text : String) (issues : List String) :
    (report.record number text issues).hazards = report.hazards := by
  unfold record
  repeat' split
  all_goals rfl

/-- A reading adds the hazards that its tokens bring. -/
theorem mem_hazards_after_iff (setup : Setup) (p : Program) (text : String) :
    hazard ∈ (report.after (p.reading setup text)).hazards ↔
      hazard ∈ report.hazards ∨
        ∃ t ∈ (p.reading setup text).tokens, t.hazard? = some hazard := by
  cases h : p.readLine setup text with
  | error failure =>
    have hnone := Program.tokens_reading_of_error h
    have hsame : (report.after (p.reading setup text)).hazards = report.hazards := by
      rw [Program.reading_of_error h, after]
      cases failure with
      | refused e => exact hazards_record _ _ _
      | notWhole | textualAxisCount => rfl
    simp [hnone, hsame]
  | ok result =>
    obtain ⟨q, handled⟩ := result
    rw [Program.reading_of_ok h]
    change hazard ∈ (report.accept text handled _).hazards ↔ _
    rw [accept, hazards_record]
    exact mem_append_newHazards_iff

/-- A report lists the hazards that the tokens of the readings bring. -/
theorem mem_hazards_readings_iff {setup : Setup} :
    hazard ∈ ((p.readings setup lines).foldl after report).hazards ↔
      hazard ∈ report.hazards ∨
        ∃ r ∈ p.readings setup lines, ∃ t ∈ r.tokens, t.hazard? = some hazard := by
  induction lines generalizing p report with
  | nil => simp [Program.readings]
  | cons text rest ih =>
    rw [Program.readings, List.foldl_cons, ih, mem_hazards_after_iff, or_assoc]
    simp only [List.mem_cons, exists_eq_or_imp]

/-- A validation takes in one reading after another. -/
theorem validateFrom_eq_foldl (hlines : p.RefusesOnly ⟨config, {}⟩ lines) :
    validateFrom config p report lines =
      .ok (p.skim ⟨config, {}⟩ lines, (p.readings ⟨config, {}⟩ lines).foldl after report) := by
  induction lines generalizing p report with
  | nil => rfl
  | cons text rest ih =>
    have hrest := hlines.tail
    rw [validateFrom, Program.skim, Program.readings, List.foldl_cons]
    cases hline : p.readLine ⟨config, {}⟩ text with
    | error failure =>
      obtain ⟨e, rfl⟩ := hlines.head failure hline
      rw [Program.reading_of_error hline] at hrest ⊢
      exact ih hrest
    | ok result =>
      obtain ⟨q, handled⟩ := result
      rw [Program.reading_of_ok hline] at hrest ⊢
      have htokens : (q.tokens.extract p.tokens.size q.tokens.size).toList =
          Reading.tokens ⟨p, text, .ok (q, handled)⟩ := by
        rw [Array.toList_extract, List.extract_eq_take_drop]
        exact List.take_of_length_le (by simp)
      dsimp only
      rw [htokens]
      exact ih hrest

end Report

/-- The modes that a report lists are those in force after some line, on lines that fail by refusal
only: incremental distances, inches and inverse time feeds are reported exactly if they are in force
at some time, and scaling is reported if some factor differs from one at some time. -/
theorem validate_hazards_iff (config : Config) (lines : List String)
    (hlines : Program.empty.RefusesOnly ⟨config, {}⟩ lines) :
    let readings := Program.empty.readings ⟨config, {}⟩ lines
    ∃ report, validate config lines = .ok report ∧
      (.incremental ∈ report.hazards ↔
        ∃ r ∈ readings, r.after.state.distance = .incremental) ∧
      (.inches ∈ report.hazards ↔ ∃ r ∈ readings, r.after.state.units = .imperial) ∧
      (.inverseTime ∈ report.hazards ↔
        ∃ r ∈ readings, r.after.state.feedMode = .inverseTime) ∧
      ((∃ r ∈ readings, ∃ axis, (r.after.state.scaleFactors.get axis != 1.0) = true) →
        .scaling ∈ report.hazards) := by
  have hlists (hazard : Hazard) :
      hazard ∈ ((Program.empty.readings ⟨config, {}⟩ lines).foldl Report.after
          { dialect := config.dialect }).hazards ↔
        ∃ r ∈ Program.empty.readings ⟨config, {}⟩ lines,
          ∃ t ∈ r.tokens, t.hazard? = some hazard := by
    rw [Report.mem_hazards_readings_iff]
    exact or_iff_right List.not_mem_nil
  have hmode (hazard : Hazard) (hmode : hazard.isMode = true) :=
    (hlists hazard).trans (Program.exists_token_iff_exists_holds hmode)
  have hvalidate : validate config lines = .ok
      { (Program.empty.readings ⟨config, {}⟩ lines).foldl Report.after
          { dialect := config.dialect } with
        warnings := (Program.empty.skim ⟨config, {}⟩ lines).warnings.toList
        programEnd := (Program.empty.skim ⟨config, {}⟩ lines).state.programEnd } := by
    rw [validate, Report.validateFrom_eq_foldl hlines]
    rfl
  refine ⟨_, hvalidate, hmode .incremental rfl, hmode .inches rfl, hmode .inverseTime rfl, ?_⟩
  rintro ⟨r, hr, hscaled⟩
  have hholds : Hazard.scaling.Holds r.after.state := hscaled
  exact (hlists .scaling).mpr
    ((Program.exists_token_of_holds hr hholds).resolve_left (Hazard.not_holds_initial .scaling))

/-- A program that has left its modes again when it ends, with a line that is refused. -/
def modesInBetween : List String :=
  ["G91", "G0 G1", "G51 X2", "G90 G50", "M30"]

theorem validate_hazards_modesInBetween :
    Program.empty.RefusesOnly ⟨{}, {}⟩ modesInBetween ∧
      ∃ report, validate {} modesInBetween = .ok report ∧ .incremental ∈ report.hazards ∧
        .scaling ∈ report.hazards ∧ .inches ∉ report.hazards ∧ .inverseTime ∉ report.hazards := by
  have hlines : Program.empty.RefusesOnly ⟨{}, {}⟩ modesInBetween := by decide +kernel
  obtain ⟨report, hreport, hincremental, hinches, hinverseTime, hscaling⟩ :=
    validate_hazards_iff {} modesInBetween hlines
  have hscaled : ∃ r ∈ Program.empty.readings ⟨{}, {}⟩ modesInBetween,
      (r.after.state.scaleFactors.get .x != 1.0) = true := by decide +kernel
  obtain ⟨r, hr, hx⟩ := hscaled
  exact ⟨hlines, report, hreport, hincremental.mpr (by decide +kernel), hscaling ⟨r, hr, .x, hx⟩,
    mt hinches.mp (by decide +kernel), mt hinverseTime.mp (by decide +kernel)⟩

end NumericControl
