import NumericControl.Proofs.Job.Load
import NumericControl.Proofs.Program.Readings

/-!
# Loads that skip the lines that fail

A load that is not cancelled and skips every line that fails takes all lines.  Its job is told by
the readings of the lines: the program after them, one row for each line that is kept, and the
number of lines that failed.

## Main definitions

* `LoadPolicy.NeverCancels`, `LoadPolicy.SkipsAll` : loads that take all lines.
* `Entry.row`, `rowsFrom` : the rows of lines that are kept.
* `Job.loaded` : the job that holds what was read.
* `Job.SameContent` : jobs that hold the same.

## Main results

* `Job.takeLines_eq`, `Job.loadLines_eq` : what a load that skips the lines that fail leads to.
* `Job.loadLines_keptLines` : refused lines, lines that are passed over and lines after the program
  end leave no trace.
-/

namespace NumericControl

/-- A load under the policy is not cancelled. -/
def LoadPolicy.NeverCancels (policy : LoadPolicy) : Prop :=
  ∀ index, policy.keepsRunning index = true

/-- A load under the policy is not cancelled and skips every line that is refused. -/
structure LoadPolicy.SkipsAll (policy : LoadPolicy) : Prop where
  runs : policy.NeverCancels
  skips : ∀ skipped e, policy.skips skipped e = true

/-- The failure of a line that the policy skips, however many lines were skipped before. -/
def LoadPolicy.SkipsFailure (policy : LoadPolicy) (failure : Failure) : Prop :=
  ∃ e, failure = .refused e ∧ ∀ skipped, policy.skips skipped e = true

/-- The row of a line that is kept. -/
def Entry.row (entry : Entry) (number : Nat) : Row :=
  { number, text := entry.text, length := entry.text.length + 1, endsProgram := entry.endsProgram }

/-- The rows of lines that are kept, after so many other rows. -/
def rowsFrom (count : Nat) : List Entry → List Row
  | [] => []
  | entry :: rest => entry.row (count + 1) :: rowsFrom (count + 1) rest

theorem rowsFrom_append (count : Nat) (entries entries' : List Entry) :
    rowsFrom count (entries ++ entries') =
      rowsFrom count entries ++ rowsFrom (count + entries.length) entries' := by
  induction entries generalizing count with
  | nil => rfl
  | cons entry rest ih =>
    rw [List.cons_append, rowsFrom, rowsFrom, ih, List.length_cons, List.cons_append]
    congr 3
    omega

/-- Rows keep the number of their lines. -/
theorem length_rowsFrom (count : Nat) (entries : List Entry) :
    (rowsFrom count entries).length = entries.length := by
  induction entries generalizing count with
  | nil => rfl
  | cons entry rest ih => rw [rowsFrom, List.length_cons, List.length_cons, ih]

/-- Rows keep the texts of their lines, all of them as lines of the program. -/
theorem texts_rowsFrom (count : Nat) (entries : List Entry) :
    ((rowsFrom count entries).filter Row.isFile).map Row.text = entries.map Entry.text := by
  induction entries generalizing count with
  | nil => rfl
  | cons entry rest ih =>
    rw [rowsFrom, List.filter_cons_of_pos rfl, List.map_cons, List.map_cons, ih]
    rfl

/-- The lines that are kept. -/
def entriesOf (readings : List Reading) : List Entry :=
  readings.filterMap Reading.entry?

/-- The lines that failed. -/
def failuresOf (readings : List Reading) : List Failure :=
  readings.filterMap Reading.failure?

@[simp]
theorem entriesOf_append (rs rs' : List Reading) :
    entriesOf (rs ++ rs') = entriesOf rs ++ entriesOf rs' :=
  List.filterMap_append

@[simp]
theorem failuresOf_append (rs rs' : List Reading) :
    failuresOf (rs ++ rs') = failuresOf rs ++ failuresOf rs' :=
  List.filterMap_append

namespace Job

variable {setup : Setup} {policy : LoadPolicy} {job : Job} {text name : String}
  {lines : List String}

/-- The job after more lines were taken. -/
def extend (job : Job) (program : Program) (readings : List Reading) : Job :=
  { job with
    program
    rows := job.rows ++ (rowsFrom job.rows.size (entriesOf readings)).toArray
    skipped := job.skipped + (failuresOf readings).length }

/-- The finished job after a load that takes all lines. -/
def loaded (setup : Setup) (job : Job) (name : String) (lines : List String) : Job :=
  ((job.start name).extend (Program.empty.skim setup lines)
    (Program.empty.readings setup lines)).finish.1

section

variable (setup job name lines)

@[simp]
theorem program_loaded :
    (job.loaded setup name lines).program = Program.empty.skim setup lines := by
  simp [loaded, extend]

@[simp]
theorem rows_loaded : (job.loaded setup name lines).rows =
    (rowsFrom 0 (entriesOf (Program.empty.readings setup lines))).toArray := by
  simp [loaded, extend, start, cleared]

@[simp]
theorem skipped_loaded : (job.loaded setup name lines).skipped =
    (failuresOf (Program.empty.readings setup lines)).length := by
  rw [loaded, finish_fst]
  exact Nat.zero_add _

@[simp]
theorem name_loaded : (job.loaded setup name lines).name = name := by
  rw [loaded, finish_fst]
  rfl

@[simp]
theorem box_loaded : (job.loaded setup name lines).box =
    (boxOf (Program.empty.skim setup lines).tokens.toList).normalize := by
  rw [loaded, finish_fst]
  rfl

@[simp]
theorem feeds_loaded : (job.loaded setup name lines).feeds =
    feedsOf .empty (Program.empty.skim setup lines).tokens.toList := by
  rw [loaded, finish_fst]
  rfl

end

/-! ### All lines are taken -/

/-- A line of a load without queued lines adds its row, or is skipped. -/
theorem takeLine_eq (hloading : job.loading = true) (hpending : job.pending = [])
    (hskips : FailsOnly policy.SkipsFailure (job.program.readLine setup text)) :
    job.takeLine setup policy text =
      .ok (job.extend (job.program.reading setup text).after [job.program.reading setup text]) := by
  unfold takeLine append
  cases hline : job.program.readLine setup text with
  | error failure =>
    obtain ⟨e, rfl, hskip⟩ := hskips failure hline
    simp [bind, Except.bind, hskip, Program.reading, hline, extend, Reading.after, entriesOf,
      Reading.entry?, Reading.isHandled, rowsFrom, failuresOf, Reading.failure?]
  | ok result =>
    obtain ⟨q, handled⟩ := result
    cases handled with
    | false =>
      simp [bind, Except.bind, pure, Except.pure, Program.reading, hline, extend, Reading.after,
        entriesOf, Reading.entry?, Reading.isHandled, rowsFrom, failuresOf, Reading.failure?]
    | true =>
      simp [bind, Except.bind, pure, Except.pure, Program.reading, hline, extend, Reading.after,
        entriesOf, Reading.entry?, Reading.isHandled, rowsFrom, failuresOf, Reading.failure?,
        addRow, flush, hloading, hpending, Entry.row]

/-- Lines that are taken one after another are taken together. -/
private theorem extend_extend (job : Job) (p q : Program) (rs rs' : List Reading) :
    (job.extend p rs).extend q rs' = job.extend q (rs ++ rs') := by
  have hsize : (job.rows ++ (rowsFrom job.rows.size (entriesOf rs)).toArray).size =
      job.rows.size + (entriesOf rs).length := by
    simp [length_rowsFrom]
  have hrows : job.rows ++ (rowsFrom job.rows.size (entriesOf rs)).toArray ++
      (rowsFrom (job.rows.size + (entriesOf rs).length) (entriesOf rs')).toArray =
      job.rows ++ (rowsFrom job.rows.size (entriesOf (rs ++ rs'))).toArray := by
    simp [rowsFrom_append]
  have hskipped : job.skipped + (failuresOf rs).length + (failuresOf rs').length =
      job.skipped + (failuresOf (rs ++ rs')).length := by
    rw [failuresOf_append, List.length_append, Nat.add_assoc]
  simp only [extend, hsize, hrows, hskipped]

/-- A load that skips the lines that fail takes all lines. -/
theorem takeLines_eq (hruns : policy.NeverCancels) (hloading : job.loading = true)
    (hpending : job.pending = [])
    (hskips : ∀ r ∈ job.program.readings setup lines, FailsOnly policy.SkipsFailure r.outcome)
    (index : Nat) :
    takeLines setup policy index job lines =
      (job.extend (job.program.skim setup lines) (job.program.readings setup lines), none) := by
  induction lines generalizing job index with
  | nil => simp [takeLines, extend, Program.skim, Program.readings, entriesOf, rowsFrom, failuresOf]
  | cons text rest ih =>
    have hline := takeLine_eq hloading hpending (hskips _ List.mem_cons_self)
    have hrest := fun r (hr : r ∈ (job.program.reading setup text).after.readings setup rest) =>
      hskips r (List.mem_cons_of_mem (job.program.reading setup text) hr)
    have htake := @ih (job.extend (job.program.reading setup text).after
      [job.program.reading setup text]) hloading hpending hrest (index + 1)
    rw [takeLines_of_ok (hruns index) hline, htake, extend_extend]
    rfl

/-- A load that takes all lines yields figures only if there are any. -/
theorem exists_summary_of_isOk (h : (job.summary.mapError JobFault.notEncodable).isOk = true) :
    ∃ summary, job.summary = .ok summary := by
  cases hsummary : job.summary with
  | ok summary => exact ⟨summary, rfl⟩
  | error fault =>
    rw [hsummary] at h
    cases h

/-- A load that skips the lines that fail takes them all, and it yields the figures of its job if
there are any. -/
theorem loadLines_eq (hruns : policy.NeverCancels)
    (hskips : ∀ r ∈ Program.empty.readings setup lines,
      FailsOnly policy.SkipsFailure r.outcome) (job : Job) (name : String) :
    job.loadLines setup policy name lines =
      (job.loaded setup name lines,
        (job.loaded setup name lines).summary.mapError .notEncodable) := by
  have htake := @takeLines_eq setup policy (job.start name) lines hruns rfl rfl hskips 0
  rw [loadLines, htake]
  dsimp only
  rw [finish_snd]
  rfl

/-- Under a policy that skips all refused lines, a load of lines that fail by refusal only takes all
of them. -/
theorem loadLines_of_skipsAll (hpolicy : policy.SkipsAll)
    (hlines : Program.empty.RefusesOnly setup lines) (job : Job) (name : String) :
    job.loadLines setup policy name lines =
      (job.loaded setup name lines,
        (job.loaded setup name lines).summary.mapError .notEncodable) := by
  refine loadLines_eq hpolicy.runs (fun r hr failure hfailure => ?_) job name
  obtain ⟨e, rfl⟩ := hlines r hr failure hfailure
  exact ⟨e, rfl, fun skipped => hpolicy.skips skipped e⟩

/-- A load of lines none of which fails takes all of them, whatever its policy says about lines that
fail. -/
theorem loadLines_of_succeeds (hruns : policy.NeverCancels)
    (hlines : ∀ r ∈ Program.empty.readings setup lines, r.failure? = none) (job : Job)
    (name : String) :
    job.loadLines setup policy name lines =
      (job.loaded setup name lines,
        (job.loaded setup name lines).summary.mapError .notEncodable) := by
  refine loadLines_eq hruns (fun r hr failure hfailure => ?_) job name
  have hnone := hlines r hr
  rw [Reading.failure?, hfailure] at hnone
  cases hnone

/-! ### Lines that do not count -/

/-- A job that follows another one holds the same rows if it keeps the same lines. -/
theorem entriesOf_eq_of_forall₂ {rs rs' : List Reading}
    (h : List.Forall₂ (fun r r' => r'.entry? = r.entry?) rs rs') :
    entriesOf rs' = entriesOf rs := by
  unfold entriesOf
  induction h with
  | nil => rfl
  | cons hentry _ ih => rw [List.filterMap_cons, List.filterMap_cons, hentry, ih]

/-- Two jobs that hold the same, whatever was told about them before. -/
structure SameContent (job job' : Job) : Prop where
  rows : job'.rows = job.rows
  program : job.program.SameRecord job'.program
  box : job'.box = job.box
  feeds : job'.feeds = job.feeds

/-- Jobs with the same rows, as many tokens, the same box and the same feeds have the same figures
but for the name and the number of skipped lines. -/
theorem summary_eq_map {job job' : Job} (hrows : job'.rows = job.rows)
    (htokens : job'.program.tokens.size = job.program.tokens.size) (hbox : job'.box = job.box)
    (hfeeds : job'.feeds = job.feeds) :
    job'.summary = job.summary.map fun summary =>
      { summary with name := job'.name, skipped := job'.skipped } := by
  rw [summary, summary, storedLines, storedLines, hrows, htokens, hbox, hfeeds]
  cases linesHash? ((job.rows.toList.filter Row.isFile).map Row.text) <;> rfl

/-- Lines that do not count leave no trace.  A load that skips the lines that fail holds the same as
a load of the lines that neither fail nor are blank, for the controller or after the program end;
only the number of skipped lines differs.  Both yield the figures of their jobs, unless the same
line of both cannot be written in bytes. -/
theorem loadLines_keptLines (setup : Setup) (policy policy' : LoadPolicy)
    (hpolicy : policy.SkipsAll) (hruns : policy'.NeverCancels) (job job' : Job) (name : String)
    (lines : List String) (hlines : Program.empty.RefusesOnly setup lines) :
    ∃ last last',
      job.loadLines setup policy name lines = (last, last.summary.mapError .notEncodable) ∧
        job'.loadLines setup policy' name (Program.empty.keptLines setup lines) =
          (last', last'.summary.mapError .notEncodable) ∧
        last.SameContent last' ∧
        last'.summary = last.summary.map (fun summary => { summary with skipped := 0 }) ∧
        ((∃ summary, last.summary = .ok summary) ↔
          linesEncodingFault? last.storedLines = none) := by
  have hfollows := Program.follows_keptLines setup .empty lines
  have hload := loadLines_of_skipsAll hpolicy hlines job name
  have hload' := loadLines_of_succeeds hruns hfollows.succeeds job' name
  have hentries : entriesOf (Program.empty.readings setup (Program.empty.keptLines setup lines)) =
      entriesOf (Program.empty.readings setup lines) :=
    (entriesOf_eq_of_forall₂ hfollows.readings).trans
      (Program.filterMap_entry?_readings setup .empty lines).symm
  have hfailures : failuresOf (Program.empty.readings setup (Program.empty.keptLines setup lines)) =
      [] :=
    List.filterMap_eq_nil_iff.mpr hfollows.succeeds
  have hcontent : (job.loaded setup name lines).SameContent
      (job'.loaded setup name (Program.empty.keptLines setup lines)) := by
    refine ⟨?_, ?_, ?_, ?_⟩
    · rw [rows_loaded, rows_loaded, hentries]
    · rw [program_loaded, program_loaded]
      exact hfollows.last
    · rw [box_loaded, box_loaded, hfollows.last.tokens]
    · rw [feeds_loaded, feeds_loaded, hfollows.last.tokens]
  refine ⟨_, _, hload, hload', hcontent, ?_, summary_eq_ok_iff _⟩
  rw [summary_eq_map hcontent.rows (congrArg Array.size hcontent.program.tokens) hcontent.box
    hcontent.feeds, skipped_loaded, hfailures, name_loaded, summary, name_loaded]
  cases linesHash? (job.loaded setup name lines).storedLines <;> rfl

/-- A policy that skips refused lines. -/
def skipPolicy : LoadPolicy :=
  { decides? := some fun _ _ => true }

theorem skipsAll_skipPolicy : skipPolicy.SkipsAll :=
  ⟨fun _ => rfl, fun _ _ => rfl⟩

/-- A program with lines that do not count between those that do. -/
def refusedBetween : List String :=
  ["G0 X1 F100", "G0 G1", "", "$H", "T1 M6", "M30", "G1 X9"]

theorem loadLines_refusedBetween :
    skipPolicy.SkipsAll ∧ ({} : LoadPolicy).NeverCancels ∧
      Program.empty.RefusesOnly {} refusedBetween ∧
      Program.empty.keptLines {} refusedBetween = ["G0 X1 F100", "T1 M6", "M30"] ∧
      ∃ last summary last',
        Job.new.loadLines {} skipPolicy "a.nc" refusedBetween = (last, .ok summary) ∧
          Job.new.loadLines {} {} "a.nc" (Program.empty.keptLines {} refusedBetween) =
            (last', .ok { summary with skipped := 0 }) ∧
          last.SameContent last' := by
  have hruns : ({} : LoadPolicy).NeverCancels := fun _ => rfl
  have hlines : Program.empty.RefusesOnly {} refusedBetween := by decide +kernel
  obtain ⟨last, last', hload, hload', hcontent, hsummary, -⟩ := loadLines_keptLines {} skipPolicy {}
    skipsAll_skipPolicy hruns .new .new "a.nc" refusedBetween hlines
  have hok : (Job.new.loadLines {} skipPolicy "a.nc" refusedBetween).2.isOk = true := by
    decide +kernel
  rw [hload] at hok
  obtain ⟨summary, hfigures⟩ := exists_summary_of_isOk hok
  rw [hfigures] at hload hsummary
  rw [hsummary] at hload'
  exact ⟨skipsAll_skipPolicy, hruns, hlines, by decide +kernel, last, summary, last', hload, hload',
    hcontent⟩

end Job

end NumericControl
