import Mathlib.Data.ENat.Basic
import NumericControl.Loader.Basic
import NumericControl.Proofs.Job.Load

/-!
# One worker of a loader

A worker posts progress as long as it is at work.  Its last event is a job that is published, or
tells that the load was cancelled or failed; only a load that was interrupted is cancelled, or ends
without a last event.  Every step of a worker leaves it with less to do.

## Main definitions

* `LoadEvent.Ends` : an event that a load may end with.
* `Phase.Fits` : the phase of a worker fits the events that it posted.
* `Worker.Step` : what a worker may do in one step.
* `Phase.stepsLeft` : how many steps a worker has left at most.

## Main results

* `Worker.step_advance` : a worker takes one of these steps.
* `Phase.Fits.step` : what a worker posts fits the phase that it reaches.
* `Worker.Step.stepsLeft_lt` : a step leaves less to do.
-/

namespace NumericControl

/-- An event that a load may end with, where `interrupted` says whether the load was cancelled or
superseded. -/
inductive LoadEvent.Ends (token : Nat) (path : String) (interrupted : Prop) : LoadEvent → Prop
  | loaded {job : Job} {summary : Summary} (h : job.Publishes path summary) :
      Ends token path interrupted (.loaded token path job)
  | cancelled (rows : Nat) (h : interrupted) :
      Ends token path interrupted (.cancelled token path rows)
  | failed (message : String) : Ends token path interrupted (.failed token path message)

theorem LoadEvent.Ends.mono {token : Nat} {path : String} {interrupted interrupted' : Prop}
    {event : LoadEvent} (h : event.Ends token path interrupted)
    (himp : interrupted → interrupted') : event.Ends token path interrupted' := by
  cases h with
  | loaded h => exact .loaded h
  | cancelled rows h => exact .cancelled rows (himp h)
  | failed message => exact .failed message

theorem LoadEvent.Ends.isTerminal {token : Nat} {path : String} {interrupted : Prop}
    {event : LoadEvent} (h : event.Ends token path interrupted) : event.isTerminal = true := by
  cases h <;> rfl

theorem LoadEvent.Ends.token_eq {token : Nat} {path : String} {interrupted : Prop}
    {event : LoadEvent} (h : event.Ends token path interrupted) : event.token = token := by
  cases h <;> rfl

/-- Events none of which is the last one of its load. -/
def LoadEvent.AreOpen (events : List LoadEvent) : Prop :=
  ∀ e ∈ events, e.isTerminal = false

theorem LoadEvent.AreOpen.not_mem {events : List LoadEvent} {event : LoadEvent}
    (h : LoadEvent.AreOpen events) (hterminal : event.isTerminal = true) : event ∉ events := by
  intro hmem
  rw [h event hmem] at hterminal
  cases hterminal

theorem LoadEvent.AreOpen.pairwise {events : List LoadEvent} (h : LoadEvent.AreOpen events) :
    events.Pairwise fun e _ => e.isTerminal = false :=
  List.pairwise_of_forall_mem_list fun e he _ _ => h e he

theorem LoadEvent.AreOpen.filter_isTerminal {events : List LoadEvent}
    (h : LoadEvent.AreOpen events) : events.filter (·.isTerminal) = [] :=
  List.filter_eq_nil_iff.mpr fun _ he hterminal => h.not_mem hterminal he

namespace Phase

/-- A worker at work: its job is in the middle of the load or published. -/
def IsAtWork (token : Nat) (path : String) (interrupted : Prop) : Phase → Prop
  | .opening => True
  | .beforeLine job .. | .notCancelled job .. | .reporting job .. | .reading job .. =>
    job.Loads path
  | .finished job => ∃ summary, job.Publishes path summary
  | .ending event => event.Ends token path interrupted
  | .done => False

/-- The phase of a worker fits the events that it posted: it is at work and has not posted its last
event, or it is done after its last event, or it is done without one because it was interrupted. -/
inductive Fits (token : Nat) (path : String) (interrupted : Prop) : List LoadEvent → Phase → Prop
  | atWork {events : List LoadEvent} {phase : Phase}
      (hphase : phase.IsAtWork token path interrupted) (hopen : LoadEvent.AreOpen events) :
      Fits token path interrupted events phase
  | ended {events : List LoadEvent} {event : LoadEvent} (hopen : LoadEvent.AreOpen events)
      (hends : event.Ends token path interrupted) :
      Fits token path interrupted (events ++ [event]) .done
  | discarded {events : List LoadEvent} (hopen : LoadEvent.AreOpen events) (h : interrupted) :
      Fits token path interrupted events .done

variable {token : Nat} {path : String} {interrupted interrupted' : Prop}
  {events : List LoadEvent}
  {phase : Phase} {job : Job}

theorem IsAtWork.mono (h : phase.IsAtWork token path interrupted)
    (himp : interrupted → interrupted') : phase.IsAtWork token path interrupted' := by
  cases phase with
  | ending event => exact LoadEvent.Ends.mono h himp
  | _ => exact h

theorem Fits.mono (h : phase.Fits token path interrupted events)
    (himp : interrupted → interrupted') : phase.Fits token path interrupted' events := by
  cases h with
  | atWork hphase hopen => exact .atWork (hphase.mono himp) hopen
  | ended hopen hends => exact .ended hopen (hends.mono himp)
  | discarded hopen h => exact .discarded hopen (himp h)

/-- After the last event of a load there is none. -/
theorem Fits.pairwise (h : phase.Fits token path interrupted events) :
    events.Pairwise fun e _ => e.isTerminal = false := by
  cases h with
  | atWork _ hopen => exact hopen.pairwise
  | ended hopen _ =>
    exact List.pairwise_append.mpr
      ⟨hopen.pairwise, List.pairwise_singleton _ _, fun e he _ _ => hopen e he⟩
  | discarded hopen _ => exact hopen.pairwise

/-- The last event of a load is one that it may end with. -/
theorem Fits.ends (h : phase.Fits token path interrupted events) {event : LoadEvent}
    (hmem : event ∈ events) (hterminal : event.isTerminal = true) :
    event.Ends token path interrupted := by
  cases h with
  | atWork _ hopen => exact (hopen.not_mem hterminal hmem).elim
  | ended hopen hends =>
    rcases List.mem_append.mp hmem with hmem | hmem
    · exact (hopen.not_mem hterminal hmem).elim
    · rwa [List.mem_singleton.mp hmem]
  | discarded hopen _ => exact (hopen.not_mem hterminal hmem).elim

/-- A load that is done has a last event if it was not interrupted. -/
theorem Fits.exists_last (h : Phase.done.Fits token path interrupted events)
    (hnot : ¬ interrupted) :
    ∃ event, events.filter (·.isTerminal) = [event] ∧ event.Ends token path interrupted := by
  cases h with
  | atWork hphase => exact hphase.elim
  | discarded _ h => exact absurd h hnot
  | @ended events event hopen hends =>
    refine ⟨event, ?_, hends⟩
    rw [List.filter_append, hopen.filter_isTerminal, List.nil_append,
      List.filter_cons_of_pos hends.isTerminal, List.filter_nil]

end Phase

/-! ### One step -/

section

variable {source : LoadSource} {w : Worker} {interrupted : Prop} {events : List LoadEvent}
  {isCancelled isCurrent : Bool}

/-- What is read behind the lines so far leaves a job in the middle of its load, or published, or it
ends the load by a failure. -/
theorem Worker.isAtWork_before {job : Job} (h : job.Loads w.path) (count : Nat)
    (read : ReadLines) : (w.before job count read).IsAtWork w.token w.path interrupted := by
  match read with
  | ⟨text :: rest, fault?⟩ => exact h
  | ⟨[], some fault⟩ => exact .failed _
  | ⟨[], none⟩ =>
    have hends := h.finish_cases
    unfold before
    generalize job.finish = ending at hends ⊢
    obtain ⟨finished, figures⟩ := ending
    rcases hends with ⟨summary, rfl, hpublishes⟩ | ⟨fault, rfl, -⟩
    · exact ⟨summary, hpublishes⟩
    · exact .failed _

theorem Worker.isAtWork_afterOpening (source : LoadSource) (w : Worker) :
    (w.afterOpening source).IsAtWork w.token w.path interrupted := by
  unfold afterOpening
  split
  · exact w.isAtWork_before (Job.loads_start .new w.path) 0 _
  · exact .failed _

theorem Worker.isAtWork_afterReading {job : Job} (h : job.Loads w.path) (count : Nat)
    (text : String) (rest : ReadLines) :
    (w.afterReading source job count text rest).IsAtWork w.token w.path interrupted := by
  unfold afterReading
  split
  · exact w.isAtWork_before (h.takeLine ‹_›) count rest
  · exact .failed _

/-- What a worker may do in one step: the phase where it stands, the phase that it reaches and what
it posts on the way. -/
inductive Worker.Step (source : LoadSource) (isCancelled isCurrent : Bool) (w : Worker) :
    Phase → Phase × Option LoadEvent → Prop
  | opens : Step source isCancelled isCurrent w .opening (w.afterOpening source, none)
  | cancelled {job count text rest} (h : isCancelled = true) :
      Step source isCancelled isCurrent w (.beforeLine job count text rest)
        (.ending (.cancelled w.token w.path job.rows.size), none)
  | notCancelled {job count text rest} (h : isCancelled = false) :
      Step source isCancelled isCurrent w (.beforeLine job count text rest)
        (.notCancelled job count text rest, none)
  | superseded {job count text rest} (h : isCurrent = false) :
      Step source isCancelled isCurrent w (.notCancelled job count text rest)
        (.ending (.cancelled w.token w.path job.rows.size), none)
  | due {job count text rest} (h : isCurrent = true)
      (hdue : source.tellsProgress w.token (count + 1) = true) :
      Step source isCancelled isCurrent w (.notCancelled job count text rest)
        (.reporting job (count + 1) text rest, none)
  | notDue {job count text rest} (h : isCurrent = true)
      (hdue : source.tellsProgress w.token (count + 1) = false) :
      Step source isCancelled isCurrent w (.notCancelled job count text rest)
        (.reading job (count + 1) text rest, none)
  | reports {job count text rest} :
      Step source isCancelled isCurrent w (.reporting job count text rest)
        (.reading job count text rest, some (.progress w.token w.path count))
  | reads {job count text rest} :
      Step source isCancelled isCurrent w (.reading job count text rest)
        (w.afterReading source job count text rest, none)
  | loaded {job} (h : isCurrent = true) :
      Step source isCancelled isCurrent w (.finished job)
        (.ending (.loaded w.token w.path job), none)
  | discards {job} (h : isCurrent = false) :
      Step source isCancelled isCurrent w (.finished job) (.done, none)
  | ends {event} : Step source isCancelled isCurrent w (.ending event) (.done, some event)
  | rests : Step source isCancelled isCurrent w .done (.done, none)

theorem Worker.step_advance (source : LoadSource) (isCancelled isCurrent : Bool) (w : Worker) :
    w.Step source isCancelled isCurrent w.phase (w.advance source isCancelled isCurrent) := by
  unfold advance
  cases w.phase with
  | opening => exact .opens
  | beforeLine job count text rest =>
    cases isCancelled with
    | true => exact .cancelled rfl
    | false => exact .notCancelled rfl
  | notCancelled job count text rest =>
    cases isCurrent with
    | false => exact .superseded rfl
    | true =>
      dsimp only
      rw [Bool.not_true, if_neg Bool.false_ne_true]
      split
      next hdue => exact .due rfl hdue
      next hdue => exact .notDue rfl (Bool.eq_false_of_not_eq_true hdue)
  | reporting job count text rest => exact .reports
  | reading job count text rest => exact .reads
  | finished job =>
    cases isCurrent with
    | true => exact .loaded rfl
    | false => exact .discards rfl
  | ending event => exact .ends
  | done => exact .rests

variable {phase : Phase} {result : Phase × Option LoadEvent}

/-- What a worker posts in a step fits the phase that it reaches, if only an interrupted load finds
itself cancelled or superseded. -/
theorem Phase.Fits.step (h : phase.Fits w.token w.path interrupted events)
    (hstep : w.Step source isCancelled isCurrent phase result)
    (hcancelled : isCancelled = true → interrupted) (hcurrent : isCurrent = false → interrupted) :
    result.1.Fits w.token w.path interrupted (events ++ result.2.toList) := by
  cases h with
  | ended hopen hends =>
    cases hstep
    rw [Option.toList_none, List.append_nil]
    exact .ended hopen hends
  | discarded hopen h =>
    cases hstep
    rw [Option.toList_none, List.append_nil]
    exact .discarded hopen h
  | atWork hphase hopen =>
    have hsilent : LoadEvent.AreOpen (events ++ (none : Option LoadEvent).toList) := by
      rwa [Option.toList_none, List.append_nil]
    cases hstep with
    | opens => exact .atWork (w.isAtWork_afterOpening source) hsilent
    | cancelled hc => exact .atWork (.cancelled _ (hcancelled hc)) hsilent
    | superseded hc => exact .atWork (.cancelled _ (hcurrent hc)) hsilent
    | notCancelled | due | notDue => exact .atWork hphase hsilent
    | reports =>
      refine .atWork hphase fun e he => ?_
      rcases List.mem_append.mp he with he | he
      · exact hopen e he
      · rw [List.mem_singleton.mp he]
        rfl
    | reads => exact .atWork (Worker.isAtWork_afterReading hphase _ _ _) hsilent
    | loaded =>
      obtain ⟨summary, hpublishes⟩ := hphase
      exact .atWork (.loaded hpublishes) hsilent
    | discards hc => exact .discarded hsilent (hcurrent hc)
    | ends => exact .ended hopen hphase
    | rests => exact hphase.elim

/-- A worker posts events of its own load. -/
theorem Phase.Fits.token_of_step (h : phase.Fits w.token w.path interrupted events)
    (hstep : w.Step source isCancelled isCurrent phase result) :
    ∀ event ∈ result.2, event.token = w.token := by
  intro event hevent
  cases hstep with
  | reports =>
    cases hevent
    rfl
  | ends =>
    cases hevent
    cases h with
    | atWork hphase => exact LoadEvent.Ends.token_eq hphase
  | _ => cases hevent

/-! ### The end of a worker -/

theorem Worker.isDone_iff : w.isDone = true ↔ w.phase = .done := by
  unfold isDone
  cases w.phase with
  | done => exact iff_of_true rfl rfl
  | _ => exact iff_of_false Bool.false_ne_true nofun

/-- How many steps a worker has left at most.  Before its file was opened there is no bound, as the
file may have any number of lines. -/
def Phase.stepsLeft : Phase → ℕ∞
  | .opening => ⊤
  | .beforeLine _ _ _ rest => (4 * rest.lines.length + 6 : ℕ)
  | .notCancelled _ _ _ rest => (4 * rest.lines.length + 5 : ℕ)
  | .reporting _ _ _ rest => (4 * rest.lines.length + 4 : ℕ)
  | .reading _ _ _ rest => (4 * rest.lines.length + 3 : ℕ)
  | .finished _ => (2 : ℕ)
  | .ending _ => (1 : ℕ)
  | .done => (0 : ℕ)

theorem Worker.stepsLeft_before_lt (w : Worker) (job : Job) (count : Nat) (read : ReadLines) :
    (w.before job count read).stepsLeft < (4 * read.lines.length + 3 : ℕ) := by
  match read with
  | ⟨text :: rest, fault?⟩ =>
    exact Nat.cast_lt.mpr (by simp only [List.length_cons]; omega)
  | ⟨[], some fault⟩ => exact Nat.cast_lt.mpr (Nat.lt_of_sub_eq_succ rfl)
  | ⟨[], none⟩ =>
    unfold before
    dsimp only
    split <;> exact Nat.cast_lt.mpr (Nat.lt_of_sub_eq_succ rfl)

theorem Worker.stepsLeft_afterOpening_lt (source : LoadSource) (w : Worker) :
    (w.afterOpening source).stepsLeft < ⊤ := by
  unfold afterOpening
  split
  · exact lt_top_of_lt (w.stepsLeft_before_lt _ 0 _)
  · exact ENat.natCast_lt_top 1

theorem Worker.stepsLeft_afterReading_lt (source : LoadSource) (w : Worker) (job : Job)
    (count : Nat) (text : String) (rest : ReadLines) :
    (w.afterReading source job count text rest).stepsLeft < (4 * rest.lines.length + 3 : ℕ) := by
  unfold afterReading
  split
  · exact w.stepsLeft_before_lt _ count rest
  · exact Nat.cast_lt.mpr (by omega)

/-- A step leaves a worker that is not done with less to do. -/
theorem Worker.Step.stepsLeft_lt (h : w.Step source isCancelled isCurrent phase result)
    (hdone : phase ≠ .done) : result.1.stepsLeft < phase.stepsLeft := by
  cases h with
  | opens => exact w.stepsLeft_afterOpening_lt source
  | reads => exact w.stepsLeft_afterReading_lt source _ _ _ _
  | rests => exact absurd rfl hdone
  | _ => exact Nat.cast_lt.mpr (by omega)

theorem Worker.Step.stepsLeft_le (h : w.Step source isCancelled isCurrent phase result) :
    result.1.stepsLeft ≤ phase.stepsLeft := by
  by_cases hdone : phase = .done
  · subst hdone
    cases h
    exact le_rfl
  · exact (h.stepsLeft_lt hdone).le

end

end NumericControl
