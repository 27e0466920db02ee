import NumericControl.Proofs.Job.Skipping
import NumericControl.Proofs.Program.Storage

/-!
# Loading the rows of a job

The rows of a job hold its program.  A load of their texts, with the same configuration and the same
decisions about removals, is finished without a skipped line.  It holds the same rows, state, box
and feeds, and the same tokens but for the texts of the messages on lines from which words were
removed.

## Main definitions

* `Job.Restores` : a job that holds what another one holds, but for the texts of messages.

## Main results

* `boxOf_eq_of_mute`, `feedsOf_eq_of_mute` : the texts of messages do not count for box and feeds.
* `Job.storedLines_loaded` : the rows of a program hold the kept lines.
* `Job.loadLines_storedLines` : a load of the rows of a job leads to the same job.
-/

namespace NumericControl

/-! ### Tokens without messages -/

theorem BoxReplay.step_mute (r : BoxReplay) (token : Token) : r.step token.mute = r.step token := by
  obtain ⟨command, line, body⟩ := token
  cases body <;> rfl

theorem Job.feedOf?_mute (token : Token) : Job.feedOf? token.mute = Job.feedOf? token := by
  obtain ⟨command, line, body⟩ := token
  cases body <;> rfl

variable {tokens tokens' : List Token}

/-- The texts of messages do not count for a box. -/
theorem boxOf_eq_of_mute (h : tokens'.map Token.mute = tokens.map Token.mute) :
    boxOf tokens' = boxOf tokens := by
  have hmute (tokens : List Token) : boxOf (tokens.map Token.mute) = boxOf tokens := by
    simp only [boxOf, List.foldl_map, BoxReplay.step_mute]
  rw [← hmute, h, hmute]

/-- The texts of messages do not count for the extremes of feeds. -/
theorem feedsOf_eq_of_mute (feeds : Span Float)
    (h : tokens'.map Token.mute = tokens.map Token.mute) :
    Job.feedsOf feeds tokens' = Job.feedsOf feeds tokens := by
  have hmute (tokens : List Token) :
      (tokens.map Token.mute).filterMap Job.feedOf? = tokens.filterMap Job.feedOf? := by
    rw [List.filterMap_map]
    exact List.filterMap_congr fun token _ => Job.feedOf?_mute token
  have hfeeds : tokens'.filterMap Job.feedOf? = tokens.filterMap Job.feedOf? := by
    rw [← hmute, h, hmute]
  rw [Job.feedsOf, Job.feedsOf, hfeeds]

namespace Program

variable {setup : Setup} {p : Program}

/-- A line that does not count adds no tokens. -/
theorem tokens_reading_of_not_counts {text : String} (h : (p.reading setup text).counts = false) :
    (p.reading setup text).tokens = [] := by
  rw [counts_reading] at h
  cases hline : p.readLine setup text with
  | error failure =>
    simp [reading_of_error hline, Reading.tokens, Reading.after]
  | ok result =>
    obtain ⟨q, handled⟩ := result
    rw [reading_of_ok hline] at h ⊢
    cases h
    have htokens := (sameRecord_of_not_handled hline).tokens
    simp [Reading.tokens, Reading.after, htokens]

/-- The tokens of a program are those of the lines that count. -/
theorem flatMap_tokens_filter_counts (setup : Setup) (p : Program) (lines : List String) :
    ((p.readings setup lines).filter Reading.counts).flatMap Reading.tokens =
      (p.readings setup lines).flatMap Reading.tokens := by
  induction lines generalizing p with
  | nil => rfl
  | cons text rest ih =>
    rw [readings, List.flatMap_cons, ← ih]
    by_cases hcounts : (p.reading setup text).counts
    · rw [List.filter_cons_of_pos hcounts, List.flatMap_cons]
    · have hnone := tokens_reading_of_not_counts (Bool.eq_false_iff.mpr hcounts)
      rw [List.filter_cons_of_neg hcounts, hnone, List.nil_append]

/-- Readings that restore others add the same tokens, but for the texts of messages. -/
theorem map_mute_flatMap_tokens {rs rs' : List Reading} (h : List.Forall₂ Reading.Restores rs rs') :
    (rs'.flatMap Reading.tokens).map Token.mute = (rs.flatMap Reading.tokens).map Token.mute := by
  induction h with
  | nil => rfl
  | cons hrestores _ ih =>
    simp only [List.flatMap_cons, List.map_append, hrestores.muted, ih]

/-- The kept lines are those of the entries. -/
theorem texts_entriesOf (setup : Setup) (p : Program) (lines : List String) :
    (entriesOf (p.readings setup lines)).map Entry.text =
      p.standIns setup (fun r => r.after.lastLine) lines := by
  have hentry : ∀ r ∈ (p.readings setup lines).filter Reading.counts,
      r.entry?.map Entry.text = some r.after.lastLine := by
    intro r hr
    obtain ⟨hmem, hcounts⟩ := List.mem_filter.mp hr
    obtain ⟨q, text, -, rfl⟩ := exists_reading_of_mem hmem
    rw [counts_reading] at hcounts
    rw [Reading.entry?, if_pos hcounts]
    rfl
  rw [entriesOf, filterMap_entry?_readings, List.map_filterMap, standIns]
  rw [← List.filterMap_eq_map]
  exact List.filterMap_congr hentry

end Program

namespace Job

variable {setup setup' : Setup} {policy policy' : LoadPolicy}

/-- The rows of a program hold the kept lines. -/
theorem storedLines_loaded (setup : Setup) (job : Job) (name : String) (lines : List String) :
    (job.loaded setup name lines).storedLines =
      Program.empty.standIns setup (fun r => r.after.lastLine) lines := by
  rw [storedLines, rows_loaded, texts_rowsFrom, Program.texts_entriesOf]

/-- The tokens of a loaded program are those of its lines. -/
theorem tokens_loaded (setup : Setup) (job : Job) (name : String) (lines : List String) :
    (job.loaded setup name lines).program.tokens.toList =
      (Program.empty.readings setup lines).flatMap Reading.tokens := by
  rw [program_loaded, Program.tokens_skim]
  rfl

/-- A job that restores another one: it holds the same rows, the same state of the program, the same
box and the same feeds.  The tokens of both are those of `readings` and `readings'`, which agree
line by line but for the texts of messages where words were removed. -/
structure Restores (readings readings' : List Reading) (job job' : Job) : Prop where
  rows : job'.rows = job.rows
  state : job'.program.state = job.program.state
  box : job'.box = job.box
  feeds : job'.feeds = job.feeds
  tokens : job.program.tokens.toList = readings.flatMap Reading.tokens
  tokens' : job'.program.tokens.toList = readings'.flatMap Reading.tokens
  readings : List.Forall₂ Reading.Restores readings readings'

/-- The rows of a job hold the job.  A load of their texts, with the same configuration and the same
decisions about removals, skips no line, and it restores the job.  Both yield the figures of their
jobs, unless one of these lines cannot be written in bytes. -/
theorem loadLines_storedLines (hconfig : setup'.config = setup.config)
    (hoperator : setup'.operator.strips? = setup.operator.strips?) (hpolicy : policy.SkipsAll)
    (hruns : policy'.NeverCancels) (job job' : Job) (name name' : String) (lines : List String)
    (hends : ∀ text ∈ lines, IsOneLine text) (hlines : Program.empty.RefusesOnly setup lines) :
    ∃ last last',
      job.loadLines setup policy name lines = (last, last.summary.mapError .notEncodable) ∧
        job'.loadLines setup' policy' name' last.storedLines =
          (last', last'.summary.mapError .notEncodable) ∧
        last.Restores ((Program.empty.readings setup lines).filter Reading.counts)
          (Program.empty.readings setup' last.storedLines) last' ∧
        last'.summary = last.summary.map (fun summary =>
          { summary with name := name', skipped := 0 }) ∧
        ((∃ summary, last.summary = .ok summary) ↔
          linesEncodingFault? last.storedLines = none) := by
  have hfollows := @Program.follows_lastLines setup setup' .empty .empty hconfig hoperator lines
    hends rfl
  have hload := loadLines_of_skipsAll hpolicy hlines job name
  have hload' := loadLines_of_succeeds hruns hfollows.succeeds job' name'
  have hfailures := List.filterMap_eq_nil_iff.mpr hfollows.succeeds
  rw [← storedLines_loaded setup job name lines] at hfollows hload' hfailures
  have hentries :
      entriesOf (Program.empty.readings setup' (job.loaded setup name lines).storedLines) =
        entriesOf (Program.empty.readings setup lines) :=
    (entriesOf_eq_of_forall₂ (hfollows.readings.imp fun _ _ h => h.entry)).trans
      (Program.filterMap_entry?_readings setup .empty lines).symm
  have htokens : (job.loaded setup name lines).program.tokens.toList =
      ((Program.empty.readings setup lines).filter Reading.counts).flatMap Reading.tokens := by
    rw [tokens_loaded, Program.flatMap_tokens_filter_counts]
  have htokens' := tokens_loaded setup' job' name' (job.loaded setup name lines).storedLines
  have hmuted := Program.map_mute_flatMap_tokens hfollows.readings
  rw [← htokens, ← htokens'] at hmuted
  have hrestores : (job.loaded setup name lines).Restores
      ((Program.empty.readings setup lines).filter Reading.counts)
      (Program.empty.readings setup' (job.loaded setup name lines).storedLines)
      (job'.loaded setup' name' (job.loaded setup name lines).storedLines) := by
    refine ⟨?_, ?_, ?_, ?_, htokens, htokens', hfollows.readings⟩
    · rw [rows_loaded, rows_loaded, hentries]
    · rw [program_loaded, program_loaded]
      exact hfollows.last
    · rw [program_loaded, program_loaded] at hmuted
      rw [box_loaded, box_loaded, boxOf_eq_of_mute hmuted]
    · rw [program_loaded, program_loaded] at hmuted
      rw [feeds_loaded, feeds_loaded, feedsOf_eq_of_mute .empty hmuted]
  have hcount :
      (job'.loaded setup' name' (job.loaded setup name lines).storedLines).program.tokens.size =
        (job.loaded setup name lines).program.tokens.size := by
    simpa using congrArg List.length hmuted
  refine ⟨_, _, hload, hload', hrestores, ?_, summary_eq_ok_iff _⟩
  rw [summary_eq_map hrestores.rows hcount hrestores.box hrestores.feeds, skipped_loaded,
    failuresOf, hfailures, name_loaded]
  rfl

/-- A program with line ends, lines that do not count and removed codes. -/
def removedBetween : List String :=
  ["G0 X1 F100\r\n", "G0 G1", "T1 M6 (MSG,a  b)\n", "", "M6", "M30", "G1 X9"]

theorem loadLines_storedLines_removedBetween :
    skipPolicy.SkipsAll ∧ ({} : LoadPolicy).NeverCancels ∧
      (∀ text ∈ removedBetween, IsOneLine text) ∧
      Program.empty.RefusesOnly { config := withoutToolChange } removedBetween ∧
      ∃ last summary last',
        Job.new.loadLines { config := withoutToolChange } skipPolicy "a.nc" removedBetween =
            (last, .ok summary) ∧
          Job.new.loadLines { config := withoutToolChange } {} "b.nc" last.storedLines =
            (last', .ok { summary with name := "b.nc", skipped := 0 }) ∧
          last.Restores
            ((Program.empty.readings { config := withoutToolChange } removedBetween).filter
              Reading.counts)
            (Program.empty.readings { config := withoutToolChange } last.storedLines) last' := by
  have hruns : ({} : LoadPolicy).NeverCancels := fun _ => rfl
  have hends : ∀ text ∈ removedBetween, IsOneLine text := by decide +kernel
  have hlines : Program.empty.RefusesOnly { config := withoutToolChange } removedBetween := by
    decide +kernel
  obtain ⟨last, last', hload, hload', hrestores, hsummary, -⟩ :=
    loadLines_storedLines rfl rfl skipsAll_skipPolicy hruns .new .new "a.nc" "b.nc" removedBetween
      hends hlines
  have hok : (Job.new.loadLines { config := withoutToolChange } skipPolicy "a.nc"
      removedBetween).2.isOk = true := by
    decide +kernel
  rw [hload] at hok
  obtain ⟨summary, hfigures⟩ := exists_summary_of_isOk hok
  rw [hfigures] at hload hsummary
  rw [hsummary] at hload'
  exact ⟨skipsAll_skipPolicy, hruns, hends, hlines, last, summary, last', hload, hload', hrestores⟩

end Job

end NumericControl
