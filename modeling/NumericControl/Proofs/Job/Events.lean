import NumericControl.Proofs.Job.History

/-!
# What listeners of a job hear

A listener that knows the events of a job, and nothing else, holds the name of the job once it was
finished with a program that can be written in bytes, and until then it holds no name.  So where a
job was only finished with a program that cannot be, its snapshot shows a name that nobody heard.
A listener also knows the rows that were added outside of a load: each of them is told once, in
order, and no other row is.

## Main definitions

* `JobEvent.heard`, `JobEvent.row?` : what a listener takes from an event.
* `Job.heardName`, `Job.toldRows` : what it knows after all events.
* `Job.openRows` : the rows that steps add while the job is not loading.
* `Job.FinishedTold` : jobs of which the name was told since they were cleared.
* `Job.Tells` : what a listener of a job knows after steps.

## Main results

* `Job.Tells.step` : every step tells what it changes, or the end of a load tells nothing.
* `Job.tells_performAll_iff` : when a listener knows the name of the snapshot, and the rows that it
  knows.
-/

namespace NumericControl

/-- The name that a listener holds after an event, if it held the given one before. -/
def JobEvent.heard (name : String) : JobEvent → String
  | closing _ => ""
  | changed name => name
  | lineAdded _ => name

/-- The row that an event tells. -/
def JobEvent.row? : JobEvent → Option Row
  | lineAdded row => some row
  | _ => none

namespace Job

/-- The name that a listener of all events holds. -/
def heardName (job : Job) : String :=
  job.events.toList.foldl JobEvent.heard ""

/-- The rows that were told. -/
def toldRows (job : Job) : List Row :=
  job.events.toList.filterMap JobEvent.row?

/-- The rows that a step adds to a job that is not loading. -/
def openRowsOf (config : Config) (job : Job) (s : JobStep) : List Row :=
  if job.loading then [] else (job.step config s).rows.toList.drop job.rows.size

/-- The rows that steps add while the job is not loading. -/
def openRows (config : Config) (job : Job) : List JobStep → List Row
  | [] => []
  | s :: rest => openRowsOf config job s ++ openRows config (job.step config s) rest

/-- By some steps a new job was once finished with a program that can be written in bytes, and not
cleared since then. -/
def FinishedTold (config : Config) (steps : List JobStep) : Prop :=
  FinishedWhere (fun job => linesEncodingFault? job.storedLines = none) config steps

/-- After some steps a listener of the job knows the given rows.  It holds the name of the job,
which its snapshot shows too, if the job was finished and told, and no name if it was not. -/
structure Tells (config : Config) (steps : List JobStep) (job : Job) (rows : List Row) : Prop where
  told : FinishedTold config steps → job.heardName = job.name ∧ job.snapshot.name = job.name
  untold : ¬ FinishedTold config steps → job.heardName = ""
  rows : job.toldRows = rows

variable {config : Config} {job next : Job} {steps : List JobStep} {s : JobStep}
  {rows added : List Row}

theorem tells_new : Tells config [] Job.new [] :=
  ⟨fun h => absurd h not_finishedWhere_nil, fun _ => rfl, rfl⟩

private theorem foldl_heard_lineAdded (name : String) (rows : List Row) :
    (rows.map JobEvent.lineAdded).foldl JobEvent.heard name = name := by
  induction rows with
  | nil => rfl
  | cons row rest ih => exact ih

/-- A step that neither clears a job nor finishes it tells at most rows. -/
theorem Tells.of_rows_eq (h : Tells config steps job rows) (hclears : s.clears = false)
    (hfinish : s ≠ .finish) (hname : next.name = job.name)
    (hsnapshot : next.snapshot.name = job.snapshot.name)
    (hevents : next.events.toList = job.events.toList ++ added.map JobEvent.lineAdded) :
    Tells config (steps ++ [s]) next (rows ++ added) := by
  have hheard : next.heardName = job.heardName := by
    rw [heardName, hevents, List.foldl_append, foldl_heard_lineAdded, heardName]
  have htold : FinishedTold config (steps ++ [s]) ↔ FinishedTold config steps := by
    rw [FinishedTold, finishedWhere_append_iff]
    simp [hclears, hfinish, FinishedTold]
  refine ⟨fun hfinished => ?_, fun hfinished => ?_, ?_⟩
  · rw [hheard, hname, hsnapshot]
    exact h.told (htold.mp hfinished)
  · rw [hheard]
    exact h.untold (mt htold.mpr hfinished)
  · rw [toldRows, hevents, List.filterMap_append, List.filterMap_map]
    exact congrArg₂ (· ++ ·) h.rows List.filterMap_some

/-- A step that tells nothing and leaves the names leaves what a listener knows. -/
theorem Tells.of_events_eq (h : Tells config steps job rows) (hclears : s.clears = false)
    (hfinish : s ≠ .finish) (hname : next.name = job.name)
    (hsnapshot : next.snapshot.name = job.snapshot.name) (hevents : next.events = job.events) :
    Tells config (steps ++ [s]) next rows := by
  have hnone : Tells config (steps ++ [s]) next (rows ++ []) :=
    h.of_rows_eq hclears hfinish hname hsnapshot (by simp [hevents])
  rwa [List.append_nil] at hnone

/-- A step that clears a job leaves a listener without a name. -/
theorem Tells.of_clears (hclears : s.clears = true) (hheard : next.heardName = "")
    (hrows : next.toldRows = rows) : Tells config (steps ++ [s]) next rows := by
  refine ⟨fun hfinished => ?_, fun _ => hheard, hrows⟩
  have hfalse := (finishedWhere_append_iff.mp hfinished).1
  rw [hclears] at hfalse
  cases hfalse

/-- An event without a row leaves the told rows, and a listener holds the name that it carries. -/
theorem heard_of_push (job next : Job) {event : JobEvent} (hrow : event.row? = none)
    (hevents : next.events = job.events.push event) :
    next.heardName = event.heard job.heardName ∧ next.toldRows = job.toldRows := by
  rw [heardName, heardName, toldRows, toldRows, hevents]
  simp [hrow]

/-- A job that is started is closed, unless there is nothing to close. -/
theorem Tells.start (h : Tells config steps job rows) (name : String) :
    Tells config (steps ++ [.start name]) (job.start name) rows := by
  by_cases hclose : job.snapshot.isLoaded || !job.rows.isEmpty
  · have hevents : (job.start name).events = job.events.push (.closing job.closingName) := by
      simp [Job.start, hclose, cleared, Job.post]
    obtain ⟨hheard, hrows⟩ := heard_of_push _ _ rfl hevents
    exact .of_clears rfl hheard (hrows.trans h.rows)
  · have hsnapshot : job.snapshot.name = "" := by
      simp only [Snapshot.isLoaded, Bool.or_eq_true, bne_iff_ne, not_or] at hclose
      exact Decidable.not_not.mp hclose.1.1
    have hevents : (job.start name).events = job.events := by simp [Job.start, hclose, cleared]
    have hheard : job.heardName = "" := by
      by_cases hfinished : FinishedTold config steps
      · obtain ⟨hname, hshown⟩ := h.told hfinished
        rw [hname, ← hshown, hsnapshot]
      · exact h.untold hfinished
    refine .of_clears rfl ?_ ?_
    · rw [heardName, hevents]
      exact hheard
    · rw [toldRows, hevents]
      exact h.rows

/-- A job that is finished is told if its program can be written in bytes. -/
theorem Tells.finish (h : Tells config steps (Job.new.run config steps) rows) :
    Tells config (steps ++ [.finish]) (Job.new.run config steps).finish.1 rows := by
  have hiff : FinishedTold config (steps ++ [.finish]) ↔ FinishedTold config steps ∨
      linesEncodingFault? (Job.new.run config steps).storedLines = none := by
    rw [FinishedTold, finishedWhere_append_iff]
    simp [JobStep.clears, FinishedTold]
  have hencodable := (Job.new.run config steps).publish.summary_eq_ok_iff
  generalize Job.new.run config steps = job at h hiff hencodable ⊢
  rcases job.finish_cases with ⟨summary, hsummary, hfinish⟩ | ⟨fault, hfault, hfinish⟩
  · rw [hfinish]
    obtain ⟨hheard, hrows⟩ := heard_of_push job (job.publish.post (.changed job.name)) rfl rfl
    exact ⟨fun _ => ⟨hheard, rfl⟩,
      fun hfinished => absurd (hiff.mpr (.inr (hencodable.mp ⟨summary, hsummary⟩))) hfinished,
      hrows.trans h.rows⟩
  · rw [hfinish]
    have hbroken : linesEncodingFault? job.storedLines ≠ none := fun hnone => by
      obtain ⟨summary, hsummary⟩ := hencodable.mpr hnone
      rw [hfault] at hsummary
      cases hsummary
    exact ⟨fun hfinished => ⟨(h.told ((hiff.mp hfinished).resolve_right hbroken)).1, rfl⟩,
      fun hfinished => h.untold fun hbefore => hfinished (hiff.mpr (.inl hbefore)), h.rows⟩

/-- A step that adds no rows adds none to a job that is not loading. -/
theorem openRowsOf_eq_nil (h : (job.step config s).rows.size ≤ job.rows.size) :
    openRowsOf config job s = [] := by
  rw [openRowsOf, List.drop_eq_nil_of_le (by simpa using h), ite_self]

/-- Every step tells what it changes, but for the end of a load with a program that cannot be
written in bytes. -/
theorem Tells.step (h : Tells config steps (Job.new.run config steps) rows) (s : JobStep) :
    Tells config (steps ++ [s]) ((Job.new.run config steps).step config s)
      (rows ++ openRowsOf config (Job.new.run config steps) s) := by
  have hstep := (Job.new.run config steps).stepsTo_step config s
  have hfinish := h.finish
  generalize Job.new.run config steps = job at h hfinish hstep ⊢
  have hnone (hsize : (job.step config s).rows.size ≤ job.rows.size)
      (htells : Tells config (steps ++ [s]) (job.step config s) rows) :
      Tells config (steps ++ [s]) (job.step config s) (rows ++ openRowsOf config job s) := by
    rwa [openRowsOf_eq_nil hsize, List.append_nil]
  unfold openRowsOf at *
  generalize job.step config s = next at *
  cases hstep with
  | start name => exact hnone (Nat.zero_le _) (h.start name)
  | @append _ _ program handled hread =>
    have hkept : (job.keep program handled).rows.toList.drop job.rows.size =
        job.lineRows program handled := by
      simp [keep, Job.grow]
    rw [hkept]
    refine h.of_rows_eq rfl (by simp) rfl rfl ?_
    cases hloading : job.loading <;> simp [keep, Job.grow, hloading]
  | finish => exact hnone (by simp) hfinish
  | reset =>
    obtain ⟨hheard, hrows⟩ := heard_of_push job.cleared job.reset rfl rfl
    exact hnone (Nat.zero_le _) (.of_clears rfl hheard (hrows.trans h.rows))
  | markSent | markAcknowledged =>
    exact hnone (by simp [modifyRow]) (h.of_events_eq rfl (by simp) rfl rfl rfl)
  | enqueue text | skip | notAppended | notSent | notAcknowledged =>
    exact hnone (Nat.le_refl _) (h.of_events_eq rfl (by simp) rfl rfl rfl)

theorem openRows_append (config : Config) (job : Job) (steps steps' : List JobStep) :
    openRows config job (steps ++ steps') =
      openRows config job steps ++ openRows config (job.run config steps) steps' := by
  induction steps generalizing job with
  | nil => rfl
  | cons s rest ih =>
    rw [List.cons_append, openRows, openRows, ih, List.append_assoc]
    rfl

theorem tells_run (config : Config) (steps : List JobStep) :
    Tells config steps (Job.new.run config steps) (openRows config .new steps) := by
  induction steps using List.reverseRecOn with
  | nil => exact tells_new
  | append_singleton steps s ih =>
    have hrows : openRows config (Job.new.run config steps) [s] =
        openRowsOf config (Job.new.run config steps) s := List.append_nil _
    rw [run_append, openRows_append, hrows]
    exact ih.step s

/-- A listener that knows only the events of a job holds the name that its snapshot shows exactly if
this is the empty name, or if since it was cleared the job was once finished with a program that can
be written in bytes.  Otherwise it holds the empty name.  It was told each row that was added
outside of a load, once and in order, and no other row. -/
theorem tells_performAll_iff (config : Config) (actions : List JobAction) :
    let job := Job.new.performAll config actions
    let steps := Job.new.history config actions
    (job.heardName = job.snapshot.name ↔ job.snapshot.name = "" ∨ FinishedTold config steps) ∧
      (¬ FinishedTold config steps → job.heardName = "") ∧
      job.toldRows = openRows config .new steps := by
  intro job steps
  have h : Tells config steps job (openRows config .new steps) := by
    have hrun : job = Job.new.run config steps := performAll_eq_run config .new actions
    rw [hrun]
    exact tells_run config steps
  refine ⟨⟨fun hheard => ?_, fun hknown => ?_⟩, h.untold, h.rows⟩
  · by_cases hfinished : FinishedTold config steps
    · exact .inr hfinished
    · exact .inl (hheard.symm.trans (h.untold hfinished))
  · by_cases hfinished : FinishedTold config steps
    · obtain ⟨hname, hshown⟩ := h.told hfinished
      rw [hname, hshown]
    · rw [h.untold hfinished, hknown.resolve_right hfinished]

/-- A job with a comment that cannot be written in bytes is finished. -/
def silentEnd : List JobAction :=
  [.step (.start "a"), .step (.append {} (String.ofList ['(', Char.ofNat 0x5d800, ')'])),
    .step .finish]

theorem heardName_ne_silentEnd :
    (Job.new.performAll {} silentEnd).snapshot.name = "a" ∧
      (Job.new.performAll {} silentEnd).heardName = "" ∧
      (Job.new.performAll {} silentEnd).heardName ≠
        (Job.new.performAll {} silentEnd).snapshot.name := by
  have hshown : (Job.new.performAll {} silentEnd).snapshot.name = "a" := by decide +kernel
  have hheard : (Job.new.performAll {} silentEnd).heardName = "" := by decide +kernel
  refine ⟨hshown, hheard, ?_⟩
  rw [hshown, hheard]
  decide

end Job

end NumericControl
