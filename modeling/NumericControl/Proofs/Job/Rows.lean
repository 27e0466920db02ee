import Mathlib.Data.List.DropRight
import Mathlib.Data.List.Induction
import NumericControl.Proofs.Job.History
import NumericControl.Proofs.Program.Readings

/-!
# The rows of a job

The rows of a job are the lines of its program and the lines that were queued, numbered as they
came.  No queued line is lost, doubled or moved: since the job was cleared last, every one is a row
or still waits.  The program ends with one row or not yet, and after that row the lines of the
program add no more rows.

## Main definitions

* `Row.unmarked` : a row without its marks, which are all that is changed in a row.
* `queuedSinceClear` : the lines that were queued since a job was cleared last.
* `EndsAt` : rows of which one ends the program, or none.
* `Job.Conserves` : rows, queue and program end of a job fit the steps that led to it.

## Main results

* `Job.Conserves.step`, `Job.conserves_run` : every step keeps rows and queue.
* `Job.size_rows_of_ended` : after the program end no step but one that clears the job adds rows.
* `Job.rowsConserved_performAll` : rows and queue of a job, whatever is done with it.
-/

namespace NumericControl

/-- A row without its marks. -/
def Row.unmarked (row : Row) : Row :=
  { row with sent := false, acknowledged := false }

/-- A row whose length is that of its text and a line end. -/
def Row.HasLength (row : Row) : Prop :=
  row.length = row.text.length + 1

/-- The line that a step queues. -/
def JobStep.queued? : JobStep → Option String
  | enqueue text => some text
  | _ => none

/-- The lines that are queued by steps after the last one that clears the job. -/
def queuedSinceClear (steps : List JobStep) : List String :=
  (steps.rtakeWhile fun s => !s.clears).filterMap JobStep.queued?

section Unmarked

variable {rows rows' : List Row}

theorem Row.length_of_unmarked_eq (h : rows'.map Row.unmarked = rows.map Row.unmarked) :
    rows'.length = rows.length := by
  simpa using congrArg List.length h

theorem Row.numbers_of_unmarked_eq (h : rows'.map Row.unmarked = rows.map Row.unmarked) :
    rows'.map Row.number = rows.map Row.number := by
  have hnumbers := congrArg (List.map Row.number) h
  rwa [List.map_map, List.map_map] at hnumbers

theorem Row.lengths_of_unmarked_eq (h : rows'.map Row.unmarked = rows.map Row.unmarked)
    (hrows : ∀ row ∈ rows, row.HasLength) : ∀ row ∈ rows', row.HasLength := by
  intro row' hrow'
  have hmem : row'.unmarked ∈ rows.map Row.unmarked := h ▸ List.mem_map_of_mem hrow'
  obtain ⟨row, hrow, hsame⟩ := List.mem_map.mp hmem
  -- marks are no part of what the length is about
  have hlength : row.unmarked.HasLength := hrows row hrow
  rwa [hsame] at hlength

theorem Row.queuedTexts_of_unmarked_eq (h : rows'.map Row.unmarked = rows.map Row.unmarked) :
    (rows'.filter fun row => !row.isFile).map Row.text =
      (rows.filter fun row => !row.isFile).map Row.text := by
  have htexts := congrArg (fun l => (l.filter fun row : Row => !row.isFile).map Row.text) h
  simp only [List.filter_map, List.map_map] at htexts
  exact htexts

end Unmarked

section Queue

variable {steps : List JobStep} {s : JobStep}

theorem queuedSinceClear_of_clears (h : s.clears = true) :
    queuedSinceClear (steps ++ [s]) = [] := by
  rw [queuedSinceClear, List.rtakeWhile_concat_neg _ _ _ (by simp [h])]
  rfl

theorem queuedSinceClear_of_not_clears (h : s.clears = false) :
    queuedSinceClear (steps ++ [s]) = queuedSinceClear steps ++ s.queued?.toList := by
  rw [queuedSinceClear, List.rtakeWhile_concat_pos _ _ _ (by simp [h]), List.filterMap_append]
  cases hqueued : s.queued? <;> simp [queuedSinceClear, hqueued]

theorem queuedSinceClear_of_not_queued (h : s.clears = false) (hqueued : s.queued? = none) :
    queuedSinceClear (steps ++ [s]) = queuedSinceClear steps := by
  rw [queuedSinceClear_of_not_clears h, hqueued]
  exact List.append_nil _

end Queue

/-! ### Where the program ends -/

/-- Rows of a program: none ends it, or one does that is the last of the rows that belong to it. -/
inductive EndsAt : Bool → List Row → Prop
  | running {rows : List Row} (going : ∀ row ∈ rows, row.endsProgram = false) : EndsAt false rows
  | ended {before after : List Row} {row : Row} (going : ∀ r ∈ before, r.endsProgram = false)
      (isFile : row.isFile = true) (endsProgram : row.endsProgram = true)
      (queued : ∀ r ∈ after, r.isFile = false ∧ r.endsProgram = false) :
      EndsAt true (before ++ row :: after)

namespace EndsAt

variable {ended : Bool} {rows rows' : List Row}

/-- The last row of a program that has ended. -/
theorem exists_row (h : EndsAt true rows) :
    ∃ row, rows.filter Row.endsProgram = [row] ∧ (rows.filter Row.isFile).getLast? = some row := by
  cases h with
  | @ended before after row going isFile endsProgram queued =>
    refine ⟨row, ?_, ?_⟩
    · have hbefore : before.filter Row.endsProgram = [] :=
        List.filter_eq_nil_iff.mpr fun r hr => Bool.eq_false_iff.mp (going r hr)
      have hafter : after.filter Row.endsProgram = [] :=
        List.filter_eq_nil_iff.mpr fun r hr => Bool.eq_false_iff.mp (queued r hr).2
      rw [List.filter_append, List.filter_cons_of_pos endsProgram, hbefore, hafter, List.nil_append]
    · have hafter : after.filter Row.isFile = [] :=
        List.filter_eq_nil_iff.mpr fun r hr => Bool.eq_false_iff.mp (queued r hr).1
      rw [List.filter_append, List.filter_cons_of_pos isFile, hafter, List.getLast?_append]
      rfl

theorem ended_iff (h : EndsAt ended rows) :
    ended = true ↔ (rows.filter Row.endsProgram).length = 1 := by
  constructor
  · rintro rfl
    obtain ⟨row, hrow, -⟩ := h.exists_row
    rw [hrow, List.length_singleton]
  · intro hone
    cases h with
    | ended => rfl
    | running going =>
      rw [List.filter_eq_nil_iff.mpr fun r hr => Bool.eq_false_iff.mp (going r hr)] at hone
      cases hone

private theorem exists_mem_of_unmarked_eq (heq : rows'.map Row.unmarked = rows.map Row.unmarked)
    {r' : Row} (hr' : r' ∈ rows') :
    ∃ r ∈ rows, r'.isFile = r.isFile ∧ r'.endsProgram = r.endsProgram := by
  have hmem : r'.unmarked ∈ rows.map Row.unmarked := heq ▸ List.mem_map_of_mem hr'
  obtain ⟨r, hr, hsame⟩ := List.mem_map.mp hmem
  exact ⟨r, hr, (congrArg Row.isFile hsame).symm, (congrArg Row.endsProgram hsame).symm⟩

/-- Marks do not change where a program ends. -/
theorem of_unmarked_eq (h : EndsAt ended rows)
    (heq : rows'.map Row.unmarked = rows.map Row.unmarked) : EndsAt ended rows' := by
  cases h with
  | running going =>
    refine .running fun r' hr' => ?_
    obtain ⟨r, hr, -, hsame⟩ := exists_mem_of_unmarked_eq heq hr'
    exact hsame.trans (going r hr)
  | @ended before after row going isFile endsProgram queued =>
    rw [List.map_append, List.map_cons] at heq
    obtain ⟨before', rest, rfl, hbefore, hrest⟩ := List.map_eq_append_iff.mp heq
    obtain ⟨row', after', rfl, hrow, hafter⟩ := List.map_eq_cons_iff.mp hrest
    refine .ended (fun r' hr' => ?_) ((congrArg Row.isFile hrow).trans isFile)
      ((congrArg Row.endsProgram hrow).trans endsProgram) fun r' hr' => ?_
    · obtain ⟨r, hr, -, hsame⟩ := exists_mem_of_unmarked_eq hbefore hr'
      exact hsame.trans (going r hr)
    · obtain ⟨r, hr, hfile, hsame⟩ := exists_mem_of_unmarked_eq hafter hr'
      exact ⟨hfile.trans (queued r hr).1, hsame.trans (queued r hr).2⟩

/-- A line adds its row to a program that goes on, and the rows of the queue. -/
theorem append_line (h : EndsAt false rows) {row : Row} (hfile : row.isFile = true)
    (hends : row.endsProgram = ended)
    (hqueued : ∀ r ∈ rows', r.isFile = false ∧ r.endsProgram = false) :
    EndsAt ended (rows ++ row :: rows') := by
  cases h with
  | running going =>
    cases ended with
    | true => exact .ended going hfile hends hqueued
    | false =>
      refine .running (List.forall_mem_append.mpr ⟨going, ?_⟩)
      exact List.forall_mem_cons.mpr ⟨hends, fun r hr => (hqueued r hr).2⟩

end EndsAt

namespace Job

/-- Rows, queue and program end of a job fit the steps that led to it. -/
structure Conserves (steps : List JobStep) (job : Job) : Prop where
  numbers : job.rows.toList.map Row.number = List.range' 1 job.rows.toList.length
  lengths : ∀ row ∈ job.rows.toList, row.HasLength
  queue : (job.rows.toList.filter fun row => !row.isFile).map Row.text ++ job.pending =
    queuedSinceClear steps
  ends : EndsAt job.program.state.programEnd job.rows.toList

variable {config : Config} {job next : Job} {steps : List JobStep} {s : JobStep}

/-! ### The rows of a line -/

theorem forall_mem_queuedRows {count : Nat} {texts : List String} :
    ∀ row ∈ queuedRows count texts, row.isFile = false ∧ row.endsProgram = false := by
  induction texts generalizing count with
  | nil => nofun
  | cons text rest ih => exact List.forall_mem_cons.mpr ⟨⟨rfl, rfl⟩, ih⟩

theorem hasLength_queuedRows {count : Nat} {texts : List String} :
    ∀ row ∈ queuedRows count texts, row.HasLength := by
  induction texts generalizing count with
  | nil => nofun
  | cons text rest ih => exact List.forall_mem_cons.mpr ⟨rfl, ih⟩

theorem hasLength_lineRows {program : Program} {handled : Bool} :
    ∀ row ∈ job.lineRows program handled, row.HasLength := by
  cases handled with
  | false => nofun
  | true => exact List.forall_mem_cons.mpr ⟨rfl, hasLength_queuedRows⟩

theorem map_number_queuedRows (count : Nat) (texts : List String) :
    (queuedRows count texts).map Row.number = List.range' (count + 1) texts.length := by
  induction texts generalizing count with
  | nil => rfl
  | cons text rest ih => rw [queuedRows, List.map_cons, ih, List.length_cons, List.range'_succ]

theorem map_text_queuedRows (count : Nat) (texts : List String) :
    (queuedRows count texts).map Row.text = texts := by
  induction texts generalizing count with
  | nil => rfl
  | cons text rest ih => rw [queuedRows, List.map_cons, ih]

theorem map_number_lineRows (job : Job) (program : Program) :
    (job.lineRows program true).map Row.number =
      List.range' (job.rows.size + 1) (job.lineRows program true).length := by
  have hlength (count : Nat) (texts : List String) :
      (queuedRows count texts).length = texts.length := by
    rw [← List.length_map Row.text, map_text_queuedRows]
  simp only [lineRows, if_true, List.map_cons, List.length_cons, map_number_queuedRows, hlength,
    List.range'_succ]

theorem map_text_lineRows (job : Job) (program : Program) :
    ((job.lineRows program true).filter fun row => !row.isFile).map Row.text = job.pending := by
  have hall : (queuedRows (job.rows.size + 1) job.pending).filter (fun row => !row.isFile) =
      queuedRows (job.rows.size + 1) job.pending :=
    List.filter_eq_self.mpr fun row hrow => by simp [(forall_mem_queuedRows row hrow).1]
  simp only [lineRows, if_true, List.filter_cons, Bool.not_true, Bool.false_eq_true, if_false, hall,
    map_text_queuedRows]

theorem conserves_new : Conserves [] Job.new :=
  ⟨rfl, nofun, rfl, .running nofun⟩

/-- A line that belongs to the program adds its row and those of the queue. -/
theorem Conserves.keep (h : Conserves steps job) {operator : Operator} {text : String}
    {program : Program} {handled : Bool}
    (hread : job.program.readLine ⟨config, operator⟩ text = .ok (program, handled)) :
    Conserves (steps ++ [.append operator text]) (job.keep program handled) := by
  have hsteps : queuedSinceClear (steps ++ [.append operator text]) = queuedSinceClear steps :=
    queuedSinceClear_of_not_queued rfl rfl
  cases handled with
  | false =>
    have hstate := (Program.sameRecord_of_not_handled hread).state
    have hkeep : job.keep program false = { job with program } := grow_nil _
    rw [hkeep]
    exact ⟨h.numbers, h.lengths, h.queue.trans hsteps.symm, hstate ▸ h.ends⟩
  | true =>
    have hgoing : job.program.state.programEnd = false := by
      have hhandled := (Program.handled_of_readLine hread).symm
      simpa using (Bool.and_eq_true_iff.mp hhandled).1
    have hrows : (job.keep program true).rows.toList =
        job.rows.toList ++ job.lineRows program true := by
      simp [Job.keep, grow]
    have hpending : (job.keep program true).pending = [] := rfl
    refine ⟨?_, ?_, ?_, ?_⟩
    · rw [hrows, List.map_append, h.numbers, map_number_lineRows, List.length_append,
        Array.length_toList, Nat.add_comm job.rows.size 1, List.range'_append_1]
    · rw [hrows]
      exact List.forall_mem_append.mpr ⟨h.lengths, hasLength_lineRows⟩
    · rw [hrows, hpending, hsteps, ← h.queue, List.filter_append, List.map_append, List.append_nil,
        map_text_lineRows]
    · rw [hrows]
      have hends := h.ends
      rw [hgoing] at hends
      exact hends.append_line rfl (by simp [hgoing, Job.keep, grow]) forall_mem_queuedRows

/-- A change of marks keeps rows and queue. -/
theorem Conserves.modifyRow (h : Conserves steps job) (hclears : s.clears = false)
    (hqueued : s.queued? = none) (i : Nat) {change : Row → Row}
    (hchange : ∀ row, (change row).unmarked = row.unmarked) :
    Conserves (steps ++ [s]) (job.modifyRow i change) := by
  have heq : (job.modifyRow i change).rows.toList.map Row.unmarked =
      job.rows.toList.map Row.unmarked := by
    refine List.ext_getElem? fun j => ?_
    simp only [Job.modifyRow, Array.toList_modify, List.getElem?_map, List.getElem?_modify]
    split <;> simp [Function.comp_def, hchange]
  refine ⟨?_, Row.lengths_of_unmarked_eq heq h.lengths, ?_, h.ends.of_unmarked_eq heq⟩
  · rw [Row.numbers_of_unmarked_eq heq, h.numbers, Row.length_of_unmarked_eq heq]
  · have hpending : (job.modifyRow i change).pending = job.pending := rfl
    rw [Row.queuedTexts_of_unmarked_eq heq, hpending, h.queue,
      queuedSinceClear_of_not_queued hclears hqueued]

/-- Every step keeps rows and queue. -/
theorem Conserves.step (h : Conserves steps job) (hstep : StepsTo config job s next) :
    Conserves (steps ++ [s]) next := by
  cases hstep with
  | start | reset => exact ⟨rfl, nofun, (queuedSinceClear_of_clears rfl).symm, .running nofun⟩
  | append hread => exact h.keep hread
  | enqueue text =>
    refine ⟨h.numbers, h.lengths, ?_, h.ends⟩
    rw [queuedSinceClear_of_not_clears rfl, ← h.queue, List.append_assoc]
    rfl
  | finish =>
    have hqueue : queuedSinceClear (steps ++ [.finish]) = queuedSinceClear steps :=
      queuedSinceClear_of_not_queued rfl rfl
    exact ⟨by simpa using h.numbers, by simpa using h.lengths,
      by simpa [hqueue] using h.queue, by simpa using h.ends⟩
  | skip | notAppended | notSent | notAcknowledged =>
    exact ⟨h.numbers, h.lengths, h.queue.trans (queuedSinceClear_of_not_queued rfl rfl).symm,
      h.ends⟩
  | markSent | markAcknowledged => exact h.modifyRow rfl rfl _ fun row => rfl

theorem conserves_run (config : Config) (steps : List JobStep) :
    Conserves steps (Job.new.run config steps) := by
  induction steps using List.reverseRecOn with
  | nil => exact conserves_new
  | append_singleton steps s ih =>
    rw [run_append]
    exact ih.step (stepsTo_step config _ s)

/-! ### After the program end -/

/-- After the program end a step that does not clear the job adds no row, and the program stays
ended. -/
theorem ended_of_stepsTo (hend : job.program.state.programEnd = true) (hclears : s.clears = false)
    (hstep : StepsTo config job s next) :
    next.program.state.programEnd = true ∧ next.rows.size = job.rows.size := by
  cases hstep with
  | start | reset => cases hclears
  | append hread =>
    rcases Program.readLine_eq_ok_iff.mp hread with ⟨-, rfl, rfl⟩ | ⟨hgoing, -⟩
    · exact ⟨hend, by simp [Job.keep, lineRows, grow]⟩
    · exact absurd hgoing (by simp [hend])
  | finish => exact ⟨by simpa using hend, by simp⟩
  | enqueue | skip | notAppended | notSent | notAcknowledged => exact ⟨hend, rfl⟩
  | markSent | markAcknowledged => exact ⟨hend, Array.size_modify⟩

/-- After the program end no step but one that clears the job adds rows. -/
theorem size_rows_of_ended (hend : job.program.state.programEnd = true)
    (hclears : ∀ s ∈ steps, s.clears = false) :
    (job.run config steps).rows.size = job.rows.size := by
  induction steps generalizing job with
  | nil => rfl
  | cons s rest ih =>
    obtain ⟨hs, hrest⟩ := List.forall_mem_cons.mp hclears
    obtain ⟨hend', hsize⟩ := ended_of_stepsTo hend hs (stepsTo_step config job s)
    exact (ih hend' hrest).trans hsize

/-- Rows and queue of a job, whatever is done with it.  The rows are numbered from one on, and a row
takes as many characters as its text and a line end.  The queued rows, followed by the lines that
still wait, are the lines that were queued since the job was cleared last.  The program has ended
exactly if one row ends it; then this is the last row that belongs to the program, and until the job
is cleared nothing adds a row. -/
theorem rowsConserved_performAll (config : Config) (actions : List JobAction) :
    let job := Job.new.performAll config actions
    let rows := job.rows.toList
    rows.map Row.number = List.range' 1 rows.length ∧
      (∀ row ∈ rows, row.length = row.text.length + 1) ∧
      (rows.filter fun row => !row.isFile).map Row.text ++ job.pending =
        queuedSinceClear (Job.new.history config actions) ∧
      (job.program.state.programEnd = true ↔ (rows.filter Row.endsProgram).length = 1) ∧
      (job.program.state.programEnd = true →
        (∃ row, rows.filter Row.endsProgram = [row] ∧
          (rows.filter Row.isFile).getLast? = some row) ∧
        ∀ later : List JobStep, (∀ s ∈ later, s.clears = false) →
          (job.run config later).rows.size = job.rows.size) := by
  have h : Conserves (Job.new.history config actions) (Job.new.performAll config actions) := by
    rw [performAll_eq_run]
    exact conserves_run config _
  refine ⟨h.numbers, h.lengths, h.queue, h.ends.ended_iff, fun hend => ⟨?_, ?_⟩⟩
  · have hends := h.ends
    rw [hend] at hends
    exact hends.exists_row
  · exact fun later => size_rows_of_ended hend

end Job

end NumericControl
