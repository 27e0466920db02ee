import NumericControl.Proofs.Job.Skipping
import NumericControl.Proofs.Report.Hazards

/-!
# What a report says about a load

A validation reads the lines of a program as a load does that skips the lines that are refused.
Both are told by the same readings: what the report counts is what the load skips and keeps.

## Main definitions

* `Tally.Counts` : a tally counts a list of names.
* `Program.refusals` : the refusals of lines, in order.
* `Report.Tells` : a report tells how many lines are kept and which are refused.
* `LoadPolicy.AbortsAll` : decisions that end a load at the first line that is refused.

## Main results

* `Tally.Counts.add` : a tally counts what is added to it.
* `Report.Tells.after`, `Report.Tells.validateFrom` : a report tells one more reading, and those of
  all lines.
* `Job.loadQuestions_eq` : a load asks about every refusal.
* `Job.exists_loadLines_iff` : when a load that ends at the first refusal is finished.
* `validate_predicts_loadLines` : a report tells what a load does.
-/

namespace NumericControl

namespace Tally

/-- The tally has every name that occurs, with the number of times it occurs. -/
def Counts (t : Tally) (names : List String) : Prop :=
  ∀ name, t.lookup name = if name ∈ names then some (names.count name) else none

theorem lookup_add (name other : String) (t : Tally) :
    (add name t).lookup other =
      if other = name then some ((t.lookup name).getD 0 + 1) else t.lookup other := by
  induction t with
  | nil =>
    by_cases h : other = name
    · simp [add, h]
    · have hne : (other == name) = false := by simpa using h
      simp [add, List.lookup_cons, h, hne]
  | cons entry rest ih =>
    obtain ⟨n, count⟩ := entry
    by_cases hn : n = name
    · subst hn
      by_cases h : other = n
      · simp [add, h]
      · have hne : (other == n) = false := by simpa using h
        simp [add, List.lookup_cons, h, hne]
    · have hname : (name == n) = false := by simpa using Ne.symm hn
      by_cases h : other = n
      · subst h
        simp [add, hn]
      · have hne : (other == n) = false := by simpa using h
        simp [add, List.lookup_cons, hn, hname, hne, ih]

theorem counts_nil : Counts [] [] := by
  intro name
  simp

/-- A tally counts what is added to it. -/
theorem Counts.add {t : Tally} {names : List String} (h : t.Counts names) (name : String) :
    (Tally.add name t).Counts (names ++ [name]) := by
  intro other
  rw [lookup_add, h name, h other]
  by_cases hother : other = name
  · subst hother
    by_cases hmem : other ∈ names
    · simp [hmem]
    · simp [hmem, List.count_eq_zero_of_not_mem hmem]
  · have hname : name ≠ other := Ne.symm hother
    simp [hother, hname, List.count_append]

end Tally

namespace Program

variable {setup : Setup} {p : Program} {lines : List String}

/-- The refusals of lines, in order. -/
def refusals (setup : Setup) (p : Program) (lines : List String) : List ParseError :=
  (p.readings setup lines).filterMap Reading.refusal?

/-- Where lines fail by refusal only, their failures are their refusals. -/
theorem RefusesOnly.failuresOf_eq (h : p.RefusesOnly setup lines) :
    failuresOf (p.readings setup lines) = (p.refusals setup lines).map Failure.refused := by
  rw [refusals, List.map_filterMap]
  refine List.filterMap_congr fun r hr => ?_
  have hfails := h r hr
  unfold Reading.failure? Reading.refusal?
  cases houtcome : r.outcome with
  | ok result => rfl
  | error failure =>
    obtain ⟨e, rfl⟩ := hfails failure houtcome
    rfl

end Program

/-- Where nobody is asked whether to remove a code, no word is asked about. -/
theorem Block.questions_eq_nil {ctx : BlockContext} (hctx : ctx.operator.strips? = none) (b : Block)
    (words : List Word) : b.questions ctx words = [] := by
  have hask (number : Int) : ctx.question? number = none := by
    rw [BlockContext.question?, hctx]
    split <;> simp_all
  induction words generalizing b with
  | nil => rfl
  | cons word words ih =>
    cases hcode : splitCode word.value <;> cases hadd : b.add ctx word <;>
      simp [Block.questions, hcode, hadd, hask, ih]

/-- Without an operator nobody is asked while a line is read. -/
theorem Program.questions_eq_nil (config : Config) (p : Program) (text : String) :
    p.questions ⟨config, {}⟩ text = [] := by
  have hline (line : Line) : questionsOf config {} p.state line = [] := by
    unfold questionsOf
    split
    · have hwords : Block.questions (blockContext config {} p.state line) {} line.words = [] :=
        Block.questions_eq_nil rfl {} line.words
      simp only [hwords, toolQuestions, List.nil_append]
      split <;> rfl
    · rfl
  unfold Program.questions
  split
  · rfl
  · split
    · exact hline _
    · rfl

namespace Report

variable {config : Config} {report : Report} {kept : Nat} {refusals : List ParseError}
  {p : Program} {lines : List String}

/-- A report that tells how many lines are kept, and these refusals. -/
structure Tells (report : Report) (kept : Nat) (refusals : List ParseError) : Prop where
  programLines : report.programLines = kept
  errorCount : report.errorCount = refusals.length
  errors : report.errors.Counts (refusals.map fun e => e.cause.kind.name)

theorem errors_record (number : Nat) (text : String) (issues : List String) :
    (report.record number text issues).errors = report.errors := by
  unfold record
  repeat' split
  all_goals rfl

theorem programLines_record (number : Nat) (text : String) (issues : List String) :
    (report.record number text issues).programLines = report.programLines := by
  unfold record
  repeat' split
  all_goals rfl

theorem Tells.accept (h : report.Tells kept refusals) (text : String) (handled : Bool)
    (tokens : List Token) :
    (report.accept text handled tokens).Tells (if handled then kept + 1 else kept) refusals where
  programLines := by rw [Report.accept, programLines_record, ← h.programLines]
  errorCount := by rw [Report.errorCount, Report.accept, errors_record]; exact h.errorCount
  errors := by rw [Report.accept, errors_record]; exact h.errors

theorem Tells.refuse (h : report.Tells kept refusals) (text : String) (e : ParseError) :
    (report.refuse text e).Tells kept (refusals ++ [e]) where
  programLines := by rw [Report.refuse, programLines_record]; exact h.programLines
  errorCount := by
    rw [Report.errorCount, Report.refuse, errors_record, Tally.total_add, List.length_append,
      List.length_singleton]
    exact congrArg (· + 1) h.errorCount
  errors := by
    rw [Report.refuse, errors_record, List.map_append]
    exact h.errors.add _

/-- A report tells one more reading. -/
theorem Tells.after (h : report.Tells kept refusals) {r : Reading}
    (hrefuses : FailsOnly Failure.IsRefusal r.outcome) :
    (report.after r).Tells (kept + (entriesOf [r]).length)
      (refusals ++ [r].filterMap Reading.refusal?) := by
  obtain ⟨before, text, outcome⟩ := r
  cases outcome with
  | error failure =>
    obtain ⟨e, rfl⟩ := hrefuses failure rfl
    exact h.refuse text e
  | ok result =>
    obtain ⟨q, handled⟩ := result
    have haccept := h.accept text handled (Reading.tokens ⟨before, text, .ok (q, handled)⟩)
    rw [← List.append_nil refusals] at haccept
    cases handled <;> exact haccept

/-- A report tells one reading after another. -/
theorem Tells.foldl_after (h : report.Tells kept refusals) {readings : List Reading}
    (hrefuses : ∀ r ∈ readings, FailsOnly Failure.IsRefusal r.outcome) :
    (readings.foldl Report.after report).Tells (kept + (entriesOf readings).length)
      (refusals ++ readings.filterMap Reading.refusal?) := by
  induction readings generalizing report kept refusals with
  | nil => simpa [entriesOf] using h
  | cons r rest ih =>
    obtain ⟨hhead, htail⟩ := List.forall_mem_cons.mp hrefuses
    have hrest := ih (h.after hhead) htail
    rw [Nat.add_assoc, List.append_assoc, entriesOf, entriesOf, ← List.length_append,
      ← List.filterMap_append, ← List.filterMap_append, List.singleton_append] at hrest
    exact hrest

/-- A report on lines that fail by refusal only tells their readings. -/
theorem Tells.validateFrom (h : report.Tells kept refusals)
    (hlines : p.RefusesOnly ⟨config, {}⟩ lines) :
    ∃ report', NumericControl.validateFrom config p report lines =
        .ok (p.skim ⟨config, {}⟩ lines, report') ∧
      report'.Tells (kept + (entriesOf (p.readings ⟨config, {}⟩ lines)).length)
        (refusals ++ p.refusals ⟨config, {}⟩ lines) :=
  ⟨_, validateFrom_eq_foldl hlines, h.foldl_after hlines⟩

end Report

/-- A load under the policy is not cancelled and ends at the first line that is refused. -/
structure LoadPolicy.AbortsAll (policy : LoadPolicy) : Prop where
  runs : policy.NeverCancels
  aborts : ∀ skipped e, policy.skips skipped e = false

namespace Job

variable {setup : Setup} {config : Config} {policy : LoadPolicy} {job next : Job}
  {text : String} {lines : List String}

/-- A line that is refused ends a load whose policy says so. -/
theorem takeLine_of_aborts (hpolicy : policy.AbortsAll) {failure : Failure}
    (hline : job.program.readLine setup text = .error failure) :
    job.takeLine setup policy text = .error failure := by
  have happend : job.append setup text = .error failure := by
    rw [append, hline]
    rfl
  rw [takeLine, happend]
  cases failure with
  | refused e => exact if_neg (by rw [hpolicy.aborts]; exact Bool.false_ne_true)
  | notWhole fault => rfl
  | textualAxisCount => rfl

/-- Lines that are all taken under a policy that skips nothing do not fail. -/
theorem failure?_of_takeLines (hpolicy : policy.AbortsAll) (hloading : job.loading = true)
    (hpending : job.pending = []) {index : Nat}
    (h : (takeLines setup policy index job lines).2.isNone) :
    ∀ r ∈ job.program.readings setup lines, r.failure? = none := by
  induction lines generalizing job index with
  | nil => exact fun r hr => absurd hr List.not_mem_nil
  | cons text rest ih =>
    cases hline : job.program.readLine setup text with
    | error failure =>
      rw [takeLines_of_error (hpolicy.runs index) (takeLine_of_aborts hpolicy hline)] at h
      cases h
    | ok result =>
      have hreading : (job.program.reading setup text).failure? = none := by
        rw [Program.reading, hline]
        rfl
      have hskips : FailsOnly policy.SkipsFailure (job.program.readLine setup text) := by
        rw [hline]
        exact .ok result
      rw [takeLines_of_ok (hpolicy.runs index) (takeLine_eq hloading hpending hskips)] at h
      have hrest := @ih (job.extend (job.program.reading setup text).after
        [job.program.reading setup text]) hloading hpending (index + 1) h
      exact List.forall_mem_cons.mpr ⟨hreading, hrest⟩

/-- A load that ends at the first refusal is finished exactly if no line fails and the rows of the
program can be written in bytes. -/
theorem exists_loadLines_iff (hpolicy : policy.AbortsAll) (job : Job) (name : String) :
    (∃ last summary, job.loadLines setup policy name lines = (last, .ok summary)) ↔
      (∀ r ∈ Program.empty.readings setup lines, r.failure? = none) ∧
        linesEncodingFault? (job.loaded setup name lines).storedLines = none := by
  constructor
  · rintro ⟨last, summary, hload⟩
    have htake : (takeLines setup policy 0 (job.start name) lines).2.isNone := by
      unfold loadLines at hload
      split at hload
      · rename_i htake
        rw [htake]
        rfl
      · cases (Prod.mk.inj hload).2
    have hlines :=
      @failure?_of_takeLines setup policy (job.start name) lines hpolicy rfl rfl 0 htake
    rw [loadLines_of_succeeds hpolicy.runs hlines job name] at hload
    exact ⟨hlines, (summary_eq_ok_iff _).mp ⟨summary, mapError_eq_ok_iff.mp (Prod.mk.inj hload).2⟩⟩
  · rintro ⟨hlines, hencodable⟩
    obtain ⟨summary, hsummary⟩ := (summary_eq_ok_iff _).mpr hencodable
    refine ⟨job.loaded setup name lines, summary, ?_⟩
    rw [loadLines_of_succeeds hpolicy.runs hlines job name, hsummary]
    rfl

/-- Without an operator, a load that skips the lines that are refused asks about every refusal and
about nothing else. -/
theorem linesQuestions_eq (hpolicy : policy.SkipsAll) (hasks : policy.decides?.isSome)
    (hloading : job.loading = true) (hpending : job.pending = [])
    (hlines : job.program.RefusesOnly ⟨config, {}⟩ lines) (index : Nat) :
    linesQuestions ⟨config, {}⟩ policy index job lines =
      (job.program.refusals ⟨config, {}⟩ lines).map fun e => .skip e.text := by
  obtain ⟨decides, hdecides⟩ := Option.isSome_iff_exists.mp hasks
  induction lines generalizing job index with
  | nil => rfl
  | cons text rest ih =>
    have hskips : FailsOnly policy.SkipsFailure (job.program.readLine ⟨config, {}⟩ text) := by
      intro failure hfailure
      obtain ⟨e, rfl⟩ := hlines.head failure hfailure
      exact ⟨e, rfl, fun skipped => hpolicy.skips skipped e⟩
    have htake := takeLine_eq hloading hpending hskips
    have hrest := @ih (job.extend (job.program.reading ⟨config, {}⟩ text).after
      [job.program.reading ⟨config, {}⟩ text]) hloading hpending hlines.tail (index + 1)
    have hquestions : linesQuestions ⟨config, {}⟩ policy index job (text :: rest) =
        job.lineQuestions ⟨config, {}⟩ policy text ++
          ((job.program.reading ⟨config, {}⟩ text).after.refusals ⟨config, {}⟩ rest).map
            fun e => .skip e.text := by
      rw [linesQuestions, hpolicy.runs index, htake]
      exact congrArg (job.lineQuestions ⟨config, {}⟩ policy text ++ ·) hrest
    rw [hquestions, lineQuestions, Program.questions_eq_nil, hdecides, append]
    simp only [Program.refusals, Program.readings]
    cases hline : job.program.readLine ⟨config, {}⟩ text with
    | error failure =>
      obtain ⟨e, rfl⟩ := hlines.head failure hline
      rw [Program.reading_of_error hline]
      rfl
    | ok result =>
      obtain ⟨q, handled⟩ := result
      rw [Program.reading_of_ok hline]
      cases handled <;> rfl

/-- Without an operator, a load that skips the lines that are refused asks about every refusal. -/
theorem loadQuestions_eq (hpolicy : policy.SkipsAll) (hasks : policy.decides?.isSome)
    (hlines : Program.empty.RefusesOnly ⟨config, {}⟩ lines) (job : Job) (name : String) :
    job.loadQuestions ⟨config, {}⟩ policy name lines =
      (Program.empty.refusals ⟨config, {}⟩ lines).map fun e => .skip e.text :=
  @linesQuestions_eq config policy (job.start name) lines hpolicy hasks rfl rfl hlines 0

end Job

/-- A validation foretells a load.  On lines that fail by refusal only and without an operator, the
report and a load that skips the refused lines agree: as many errors as skipped lines, counted by
the kinds of the refusals that the load asks about; as many lines of the program as rows; and the
same program end.  The load yields its figures unless a row of the program cannot be written in
bytes.  So a load that ends at the first refusal is finished exactly if there are no errors and no
such row. -/
theorem validate_predicts_loadLines (config : Config) (policy : LoadPolicy)
    (hpolicy : policy.SkipsAll) (job : Job) (name : String) (lines : List String)
    (hlines : Program.empty.RefusesOnly ⟨config, {}⟩ lines) :
    ∃ report last, validate config lines = .ok report ∧
      job.loadLines ⟨config, {}⟩ policy name lines =
        (last, last.summary.mapError .notEncodable) ∧
      ((∃ summary, last.summary = .ok summary) ↔ linesEncodingFault? last.storedLines = none) ∧
      report.errorCount = last.skipped ∧
      (∀ summary, last.summary = .ok summary → report.errorCount = summary.skipped) ∧
      report.errors.Counts
        ((Program.empty.refusals ⟨config, {}⟩ lines).map fun e => e.cause.kind.name) ∧
      (policy.decides?.isSome → job.loadQuestions ⟨config, {}⟩ policy name lines =
        (Program.empty.refusals ⟨config, {}⟩ lines).map fun e => .skip e.text) ∧
      report.programLines = last.rows.size ∧
      report.programEnd = last.program.state.programEnd ∧
      ∀ policy' : LoadPolicy, policy'.AbortsAll →
        ((∃ last' summary', job.loadLines ⟨config, {}⟩ policy' name lines = (last', .ok summary')) ↔
          report.errorCount = 0 ∧ linesEncodingFault? last.storedLines = none) := by
  have htells : ({ dialect := config.dialect } : Report).Tells 0 [] :=
    ⟨rfl, rfl, Tally.counts_nil⟩
  obtain ⟨report, hreport, htells⟩ := htells.validateFrom hlines
  have hload := Job.loadLines_of_skipsAll hpolicy hlines job name
  have hcount : (failuresOf (Program.empty.readings ⟨config, {}⟩ lines)).length =
      (Program.empty.refusals ⟨config, {}⟩ lines).length := by
    rw [hlines.failuresOf_eq, List.length_map]
  have hvalidate : validate config lines = .ok
      { report with
        warnings := (Program.empty.skim ⟨config, {}⟩ lines).warnings.toList
        programEnd := (Program.empty.skim ⟨config, {}⟩ lines).state.programEnd } := by
    rw [validate, hreport]
    rfl
  have hskipped : report.errorCount = (job.loaded ⟨config, {}⟩ name lines).skipped := by
    rw [Job.skipped_loaded, hcount]
    exact htells.errorCount
  refine ⟨_, _, hvalidate, hload, Job.summary_eq_ok_iff _, hskipped, ?_, htells.errors, ?_, ?_, ?_,
    ?_⟩
  · intro summary hsummary
    obtain ⟨hash?, -, rfl⟩ := map_eq_ok_iff.mp hsummary
    exact hskipped
  · intro hasks
    exact Job.loadQuestions_eq hpolicy hasks hlines job name
  · rw [Job.rows_loaded, List.size_toArray, length_rowsFrom]
    exact htells.programLines.trans (Nat.zero_add _)
  · rw [Job.program_loaded]
  · intro policy' hpolicy'
    rw [Job.exists_loadLines_iff hpolicy']
    have hzero : report.errorCount = 0 ↔
        failuresOf (Program.empty.readings ⟨config, {}⟩ lines) = [] := by
      rw [← List.length_eq_zero_iff, hcount]
      exact Eq.congr_left htells.errorCount
    exact and_congr_left' (hzero.trans List.filterMap_eq_nil_iff).symm

/-- A load of a program in which a line is refused, and whose end comes before its last line. -/
theorem validate_predicts_refusedBetween :
    Job.skipPolicy.SkipsAll ∧ Program.empty.RefusesOnly ⟨{}, {}⟩ Job.refusedBetween ∧
      ∃ report last summary, validate {} Job.refusedBetween = .ok report ∧
        Job.new.loadLines ⟨{}, {}⟩ Job.skipPolicy "a.nc" Job.refusedBetween = (last, .ok summary) ∧
        report.errorCount = summary.skipped ∧ report.programLines = last.rows.size ∧
        ∀ policy' : LoadPolicy, policy'.AbortsAll → ((∃ last' summary',
          Job.new.loadLines ⟨{}, {}⟩ policy' "a.nc" Job.refusedBetween = (last', .ok summary')) ↔
            report.errorCount = 0) := by
  have hlines : Program.empty.RefusesOnly ⟨{}, {}⟩ Job.refusedBetween := by decide +kernel
  obtain ⟨report, last, hreport, hload, hencodable, -, hcount, -, -, hrows, -, habort⟩ :=
    validate_predicts_loadLines {} Job.skipPolicy Job.skipsAll_skipPolicy .new "a.nc"
      Job.refusedBetween hlines
  have hok :
      (Job.new.loadLines ⟨{}, {}⟩ Job.skipPolicy "a.nc" Job.refusedBetween).2.isOk = true := by
    decide +kernel
  rw [hload] at hok
  obtain ⟨summary, hsummary⟩ := Job.exists_summary_of_isOk hok
  have hbytes := hencodable.mp ⟨summary, hsummary⟩
  rw [hsummary] at hload
  refine ⟨Job.skipsAll_skipPolicy, hlines, report, last, summary, hreport, hload,
    hcount summary hsummary, hrows, fun policy' hpolicy' => ?_⟩
  rw [habort policy' hpolicy']
  exact and_iff_left hbytes

end NumericControl
