import Mathlib.Data.List.Induction
import NumericControl.Job.Load

/-!
# What is done with a job

Everything that is done with a job is a sequence of steps: a load starts the job, appends its lines
one by one, counts those that are refused, and finishes or drops the job.  So what holds of a new
job and is kept by every step holds of every job.  A step that fails leaves the job as it is.

The operator may answer differently at every step.  A load that is broken off because one of those
who are asked fails is the list of its steps so far.

## Main definitions

* `Job.lineRows`, `Job.keep` : the rows that a line adds, and the job with them.
* `JobStep`, `Job.step`, `Job.run` : a step, its effect, and the effect of several steps.
* `Job.StepsTo` : the effect of a step, case by case.
* `JobAction`, `Job.perform`, `Job.performAll` : what is done with a job from outside.
* `JobAction.steps`, `Job.history` : the steps of an action and of several actions.
* `Job.FinishedWhere` : jobs that were finished in a given way since they were cleared.

## Main results

* `Job.append_eq`, `Job.stepsTo_step` : what appending a line does, and what a step does.
* `Job.perform_eq_run`, `Job.performAll_eq_run` : what is done with a job is a sequence of steps.
* `Job.finishedWhere_append_iff` : what one more step makes of earlier ends.
-/

namespace NumericControl

namespace Job

/-! ### One line -/

/-- The rows of queued lines, after so many other rows. -/
def queuedRows (count : Nat) : List String → List Row
  | [] => []
  | text :: rest =>
    { number := count + 1, text, length := text.length + 1, isFile := false } ::
      queuedRows (count + 1) rest

/-- The rows that a line adds if it leads to the given program.  A line that belongs to the program
is followed by the queued lines. -/
def lineRows (job : Job) (program : Program) (handled : Bool) : List Row :=
  if handled then
    { number := job.rows.size + 1
      text := program.lastLine
      length := program.lastLine.length + 1
      endsProgram := program.state.programEnd && !job.program.state.programEnd } ::
      queuedRows (job.rows.size + 1) job.pending
  else []

/-- The job with more rows, which are told unless the job is loading. -/
def grow (job : Job) (rows : List Row) : Job :=
  { job with
    rows := job.rows ++ rows.toArray
    events := job.events ++ (if job.loading then [] else rows.map JobEvent.lineAdded).toArray }

/-- The job with one more line, which leads to the given program. -/
def keep (job : Job) (program : Program) (handled : Bool) : Job :=
  ({ job with program, pending := if handled then [] else job.pending }).grow
    (job.lineRows program handled)

theorem grow_nil (job : Job) : job.grow [] = job := by
  simp [grow]

theorem grow_grow (job : Job) (rows rows' : List Row) :
    (job.grow rows).grow rows' = job.grow (rows ++ rows') := by
  cases hloading : job.loading <;> simp [grow, hloading]

theorem addRow_eq (job : Job) (text : String) (isFile endsProgram : Bool) :
    job.addRow text isFile endsProgram =
      job.grow
        [{ number := job.rows.size + 1, text, length := text.length + 1, isFile,
           endsProgram }] := by
  cases hloading : job.loading <;> simp [addRow, grow, post, hloading]

/-- Queued lines add their rows one after another. -/
theorem foldl_addRow (job : Job) (texts : List String) :
    texts.foldl (fun job text => job.addRow text false false) job =
      job.grow (queuedRows job.rows.size texts) := by
  induction texts generalizing job with
  | nil => exact (grow_nil job).symm
  | cons text rest ih =>
    have hsize (row : Row) : (job.grow [row]).rows.size = job.rows.size + 1 := by simp [grow]
    rw [List.foldl_cons, ih, addRow_eq, grow_grow, hsize]
    rfl

theorem flush_eq (job : Job) :
    job.flush = ({ job with pending := [] }).grow (queuedRows job.rows.size job.pending) :=
  foldl_addRow { job with pending := [] } job.pending

/-- What appending a line does: it adds the rows of the line, unless its reading fails. -/
theorem append_eq (setup : Setup) (job : Job) (text : String) :
    job.append setup text =
      (job.program.readLine setup text).map fun result =>
        (job.keep result.1 result.2, result.2) := by
  unfold append
  cases hread : job.program.readLine setup text with
  | error failure => rfl
  | ok result =>
    obtain ⟨program, handled⟩ := result
    simp only [bind, Except.bind, pure, Except.pure, Except.map]
    cases handled with
    | false => simp [keep, lineRows, grow_nil]
    | true =>
      -- the row of the line and those of the queued lines are told together or not at all
      cases hloading : job.loading <;>
        simp [keep, lineRows, flush_eq, addRow_eq, grow, hloading]

end Job

/-! ### Steps -/

/-- A change of a job. -/
inductive JobStep where
  | start (name : String)
  /-- A line is appended; one that is refused changes nothing. -/
  | append (operator : Operator) (text : String)
  | enqueue (text : String)
  /-- A refused line of a load is counted. -/
  | skip
  | finish
  | reset
  | markSent (index : Json)
  | markAcknowledged (index : Json)

/-- Whether a step drops everything that a job holds. -/
def JobStep.clears : JobStep → Bool
  | start _ | reset => true
  | _ => false

namespace Job

/-- The job after a step. -/
def step (config : Config) (job : Job) : JobStep → Job
  | .start name => job.start name
  | .append operator text =>
    match job.append ⟨config, operator⟩ text with
    | .ok (next, _) => next
    | .error _ => job
  | .enqueue text => job.enqueue text
  | .skip => { job with skipped := job.skipped + 1 }
  | .finish => job.finish.1
  | .reset => job.reset
  | .markSent index => (job.markSent index).toOption.getD job
  | .markAcknowledged index => (job.markAcknowledged index).toOption.getD job

/-- The job after steps. -/
def run (config : Config) (job : Job) (steps : List JobStep) : Job :=
  steps.foldl (step config) job

variable {config : Config}

theorem finish_cases (job : Job) :
    (∃ summary, job.publish.summary = .ok summary ∧
        job.finish = (job.publish.post (.changed job.name), .ok summary)) ∨
      ∃ fault, job.publish.summary = .error fault ∧ job.finish = (job.publish, .error fault) := by
  unfold finish
  cases hsummary : job.publish.summary with
  | ok summary => exact .inl ⟨summary, rfl, rfl⟩
  | error fault => exact .inr ⟨fault, rfl, rfl⟩

/-- Finishing a job publishes it, and only what is told depends on whether there are figures. -/
theorem finish_fst (job : Job) :
    job.finish.1 = { job.publish with events := job.finish.1.events } := by
  rcases job.finish_cases with ⟨summary, -, hfinish⟩ | ⟨fault, -, hfinish⟩
  · rw [hfinish]
    rfl
  · rw [hfinish]

theorem summary_eq_ok_iff (job : Job) :
    (∃ summary, job.summary = .ok summary) ↔ linesEncodingFault? job.storedLines = none := by
  unfold summary linesHash?
  cases linesEncodingFault? job.storedLines with
  | none => exact iff_of_true ⟨_, rfl⟩ rfl
  | some fault => exact iff_of_false (by rintro ⟨summary, ⟨⟩⟩) nofun

/-- The end of a load yields the figures of the finished job. -/
theorem finish_snd (job : Job) : job.finish.2 = job.finish.1.summary := by
  rcases job.finish_cases with ⟨summary, hsummary, hfinish⟩ | ⟨fault, hfault, hfinish⟩
  · rw [hfinish]
    exact hsummary.symm
  · rw [hfinish]
    exact hfault.symm

@[simp]
theorem program_finish (job : Job) : job.finish.1.program = job.program := by
  rw [finish_fst]
  rfl

@[simp]
theorem rows_finish (job : Job) : job.finish.1.rows = job.rows := by
  rw [finish_fst]
  rfl

@[simp]
theorem pending_finish (job : Job) : job.finish.1.pending = job.pending := by
  rw [finish_fst]
  rfl

@[simp]
theorem loading_finish (job : Job) : job.finish.1.loading = false := by
  rw [finish_fst]
  rfl

theorem run_append (config : Config) (job : Job) (steps steps' : List JobStep) :
    job.run config (steps ++ steps') = (job.run config steps).run config steps' :=
  List.foldl_append

/-- What a step may do to a job.  A line that is appended adds its rows unless its reading fails,
and a mark changes a row of the job and of its snapshot unless there is no such row. -/
inductive StepsTo (config : Config) (job : Job) : JobStep → Job → Prop
  | start (name : String) : StepsTo config job (.start name) (job.start name)
  | append {operator : Operator} {text : String} {program : Program} {handled : Bool}
      (hread : job.program.readLine ⟨config, operator⟩ text = .ok (program, handled)) :
      StepsTo config job (.append operator text) (job.keep program handled)
  | notAppended {operator : Operator} {text : String} {failure : Failure}
      (hread : job.program.readLine ⟨config, operator⟩ text = .error failure) :
      StepsTo config job (.append operator text) job
  | enqueue (text : String) : StepsTo config job (.enqueue text) (job.enqueue text)
  | skip : StepsTo config job .skip { job with skipped := job.skipped + 1 }
  | finish : StepsTo config job .finish job.finish.1
  | reset : StepsTo config job .reset job.reset
  | markSent {index : Json} {i : Nat} (hindex : job.rowIndex index = .ok i) :
      StepsTo config job (.markSent index) (job.modifyRow i fun row => { row with sent := true })
  | notSent {index : Json} {e : CheckError} (hindex : job.rowIndex index = .error e) :
      StepsTo config job (.markSent index) job
  | markAcknowledged {index : Json} {i : Nat} (hindex : job.rowIndex index = .ok i) :
      StepsTo config job (.markAcknowledged index)
        (job.modifyRow i fun row => { row with acknowledged := true })
  | notAcknowledged {index : Json} {e : CheckError} (hindex : job.rowIndex index = .error e) :
      StepsTo config job (.markAcknowledged index) job

theorem stepsTo_step (config : Config) (job : Job) (s : JobStep) :
    StepsTo config job s (job.step config s) := by
  cases s with
  | start name => exact .start name
  | append operator text =>
    rw [step, append_eq]
    cases hread : job.program.readLine ⟨config, operator⟩ text with
    | error failure => exact .notAppended hread
    | ok result => exact .append hread
  | enqueue text => exact .enqueue text
  | skip => exact .skip
  | finish => exact .finish
  | reset => exact .reset
  | markSent index =>
    rw [step, Job.markSent]
    cases hindex : job.rowIndex index with
    | error e => exact .notSent hindex
    | ok i => exact .markSent hindex
  | markAcknowledged index =>
    rw [step, Job.markAcknowledged]
    cases hindex : job.rowIndex index with
    | error e => exact .notAcknowledged hindex
    | ok i => exact .markAcknowledged hindex

/-! ### Earlier ends -/

/-- By some steps a new job was once finished, as it is said of the job before, and not cleared
since then. -/
def FinishedWhere (P : Job → Prop) (config : Config) (steps : List JobStep) : Prop :=
  ∃ before after, steps = before ++ .finish :: after ∧ P (Job.new.run config before) ∧
    ∀ s ∈ after, s.clears = false

theorem not_finishedWhere_nil {P : Job → Prop} : ¬ FinishedWhere P config [] := by
  rintro ⟨before, after, hsteps, -⟩
  simp at hsteps

/-- When a new job was finished in some way and not cleared since then, after one more step. -/
theorem finishedWhere_append_iff {P : Job → Prop} {steps : List JobStep} {s : JobStep} :
    FinishedWhere P config (steps ++ [s]) ↔
      s.clears = false ∧ (FinishedWhere P config steps ∨
        s = .finish ∧ P (Job.new.run config steps)) := by
  constructor
  · rintro ⟨before, after, hsteps, hbefore, hafter⟩
    rcases List.eq_nil_or_concat after with rfl | ⟨after, last, rfl⟩
    · obtain ⟨rfl, hs⟩ := List.append_inj' hsteps rfl
      obtain rfl : s = .finish := List.singleton_inj.mp hs
      exact ⟨rfl, .inr ⟨rfl, hbefore⟩⟩
    · rw [List.concat_eq_append, ← List.cons_append, ← List.append_assoc] at hsteps
      obtain ⟨rfl, hs⟩ := List.append_inj' hsteps rfl
      obtain rfl : s = last := List.singleton_inj.mp hs
      simp only [List.concat_eq_append, List.mem_append, List.mem_singleton] at hafter
      exact ⟨hafter s (.inr rfl),
        .inl ⟨before, after, rfl, hbefore, fun t ht => hafter t (.inl ht)⟩⟩
  · rintro ⟨hclears, ⟨before, after, rfl, hbefore, hafter⟩ | ⟨rfl, hbefore⟩⟩
    · refine ⟨before, after ++ [s], by simp, hbefore, fun t ht => ?_⟩
      rcases List.mem_append.mp ht with ht | ht
      · exact hafter t ht
      · rwa [List.mem_singleton.mp ht]
    · exact ⟨steps, [], rfl, hbefore, nofun⟩

/-! ### Loads -/

/-- The steps of a load, from the line with the given index on.  Where all lines are taken it ends
with the given steps. -/
def loadSteps (config : Config) (operator : Operator) (policy : LoadPolicy) (ending : List JobStep)
    (index : Nat) (job : Job) : List String → List JobStep
  | [] => ending
  | text :: rest =>
    if !policy.keepsRunning index then [.reset]
    else
      .append operator text ::
        match job.append ⟨config, operator⟩ text with
        | .ok (next, _) => loadSteps config operator policy ending (index + 1) next rest
        | .error (.refused e) =>
          if policy.skips job.skipped e then
            .skip :: loadSteps config operator policy ending (index + 1)
              { job with skipped := job.skipped + 1 } rest
          else [.reset]
        | .error _ => []

/-- The lines of a load and its end are the steps of the load. -/
theorem run_loadSteps (config : Config) (operator : Operator) (policy : LoadPolicy)
    (ending : List JobStep) (index : Nat) (job : Job) (lines : List String) :
    job.run config (loadSteps config operator policy ending index job lines) =
      match takeLines ⟨config, operator⟩ policy index job lines with
      | (last, none) => last.run config ending
      | (last, some _) => last := by
  induction lines generalizing job index with
  | nil => rfl
  | cons text rest ih =>
    cases hkeep : policy.keepsRunning index with
    | false => simp [loadSteps, takeLines, hkeep, run, step]
    | true =>
      simp only [loadSteps, takeLines, takeLine, hkeep, Bool.not_true, Bool.false_eq_true, if_false]
      cases happend : job.append ⟨config, operator⟩ text with
      | ok result =>
        simpa [run, step, happend] using ih (index + 1) result.1
      | error failure =>
        cases failure with
        | refused e =>
          by_cases hskip : policy.skips job.skipped e
          · simpa [run, step, happend, hskip] using
              ih (index + 1) { job with skipped := job.skipped + 1 }
          · simp [run, step, happend, hskip, abandon]
        | notWhole fault => simp [run, step, happend, abandon]
        | textualAxisCount => simp [run, step, happend, abandon]

end Job

/-! ### Actions -/

/-- What is done with a job from outside. -/
inductive JobAction where
  | step (s : JobStep)
  | loadLines (operator : Operator) (policy : LoadPolicy) (name : String) (lines : List String)
  /-- A program is loaded from what is read of a file, if it is read at all. -/
  | loadFile (operator : Operator) (policy : LoadPolicy) (path : String)
    (read : Except FileFault ReadLines)

/-- The steps that follow a fault of the file of a load. -/
def FileFault.steps (fault : FileFault) : List JobStep :=
  if fault.kind.isOfSystem then [.reset] else []

/-- The steps that follow the last line that is read of a file. -/
def ReadLines.ending (read : ReadLines) : List JobStep :=
  read.fault?.elim [.finish] FileFault.steps

/-- The steps of an action on a job. -/
def JobAction.steps (config : Config) (job : Job) : JobAction → List JobStep
  | .step s => [s]
  | .loadLines operator policy name lines =>
    .start name :: Job.loadSteps config operator policy [.finish] 0 (job.start name) lines
  | .loadFile operator policy path (.ok read) =>
    .start path :: Job.loadSteps config operator policy read.ending 0 (job.start path) read.lines
  | .loadFile _ _ _ (.error fault) => fault.steps

namespace Job

/-- The job after an action. -/
def perform (config : Config) (job : Job) : JobAction → Job
  | .step s => job.step config s
  | .loadLines operator policy name lines => (job.loadLines ⟨config, operator⟩ policy name lines).1
  | .loadFile operator policy path read => (job.loadRead ⟨config, operator⟩ policy path read).1

/-- The job after actions. -/
def performAll (config : Config) (job : Job) (actions : List JobAction) : Job :=
  actions.foldl (perform config) job

/-- The steps of actions on a job. -/
def history (config : Config) (job : Job) : List JobAction → List JobStep
  | [] => []
  | action :: rest => action.steps config job ++ history config (job.perform config action) rest

theorem run_steps_fileFault (config : Config) (job : Job) (fault : FileFault) :
    job.run config fault.steps = job.giveUp fault := by
  unfold FileFault.steps giveUp
  split <;> rfl

/-- An action is the sequence of its steps. -/
theorem perform_eq_run (config : Config) (job : Job) (action : JobAction) :
    job.perform config action = job.run config (action.steps config job) := by
  -- a load from its start on, whatever follows the last line
  have hload (operator : Operator) (policy : LoadPolicy) (ending : List JobStep) (name : String)
      (lines : List String) :
      job.run config
          (.start name :: loadSteps config operator policy ending 0 (job.start name) lines) =
        match takeLines ⟨config, operator⟩ policy 0 (job.start name) lines with
        | (last, none) => last.run config ending
        | (last, some _) => last :=
    run_loadSteps config operator policy ending 0 (job.start name) lines
  cases action with
  | step s => rfl
  | loadLines operator policy name lines =>
    rw [JobAction.steps, hload, perform, loadLines]
    split
    · simp only [*]
      rfl
    · simp only [*]
  | loadFile operator policy path read =>
    match read with
    | .error fault => exact (run_steps_fileFault config job fault).symm
    | .ok ⟨lines, none⟩ =>
      rw [JobAction.steps, hload, perform, loadRead, loadLines]
      split
      · simp only [*]
        rfl
      · simp only [*]
    | .ok ⟨lines, some fault⟩ =>
      rw [JobAction.steps, hload, perform, loadRead]
      split
      · simp only [*]
        exact (run_steps_fileFault config _ fault).symm
      · simp only [*]

/-- Actions are the sequence of their steps. -/
theorem performAll_eq_run (config : Config) (job : Job) (actions : List JobAction) :
    job.performAll config actions = job.run config (job.history config actions) := by
  induction actions generalizing job with
  | nil => rfl
  | cons action rest ih =>
    rw [history, run_append, ← perform_eq_run, ← ih]
    rfl

end Job

end NumericControl
