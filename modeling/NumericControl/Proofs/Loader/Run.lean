import NumericControl.Proofs.Loader.Worker

/-!
# Runs of a loader

New loads, cancellations and the steps of all workers come in any order, and each step of a worker
may find other files and other answers of whoever is asked.  The tokens that are handed out count
the loads.  A worker that is served again and again is done at some time, whatever else happens.

## Main definitions

* `Loader.run` : a loader after a list of turns.
* `Loader.handedOut` : the tokens of the loads on the way.
* `Loader.worker?` : the worker of a load.
* `Loader.after` : a loader after so many turns of an endless schedule.

## Main results

* `Loader.handedOut_eq` : the tokens count the loads.
* `Loader.worker?_perform` : no action gives a worker more to do, and its own step leaves it less.
* `Loader.exists_isDone` : a worker that is served again and again is done at some time.
-/

namespace NumericControl

/-- What happens to a loader, with the files and callbacks that a worker finds then. -/
abbrev LoaderTurn := LoadSource × LoaderAction

/-- Whether an action starts a load. -/
def LoaderAction.isLoad : LoaderAction → Bool
  | .load _ => true
  | _ => false

namespace Loader

variable {source : LoadSource} {l : Loader} {token : Nat} {w : Worker}

/-- A loader after a list of turns. -/
def run (l : Loader) (turns : List LoaderTurn) : Loader :=
  turns.foldl (fun l turn => l.perform turn.1 turn.2) l

/-- The tokens that are handed out for the loads of a run, in order. -/
def handedOut (l : Loader) : List LoaderTurn → List Nat
  | [] => []
  | turn :: rest =>
    let next := l.perform turn.1 turn.2
    if turn.2.isLoad then next.current :: next.handedOut rest else next.handedOut rest

theorem run_append (l : Loader) (turns more : List LoaderTurn) :
    l.run (turns ++ more) = (l.run turns).run more :=
  List.foldl_append

theorem run_singleton (l : Loader) (turn : LoaderTurn) :
    l.run [turn] = l.perform turn.1 turn.2 :=
  rfl

/-- Only a load hands out a token. -/
theorem current_perform (source : LoadSource) (l : Loader) (action : LoaderAction) :
    (l.perform source action).current = l.current + if action.isLoad then 1 else 0 := by
  cases action with
  | load path => rfl
  | cancel => rfl
  | work token =>
    rw [perform]
    split <;> rfl

/-- The tokens of a run count its loads. -/
theorem handedOut_eq (l : Loader) (turns : List LoaderTurn) :
    l.handedOut turns = List.range' (l.current + 1) (turns.countP (·.2.isLoad)) ∧
      (l.run turns).current = l.current + turns.countP (·.2.isLoad) := by
  induction turns generalizing l with
  | nil => exact ⟨rfl, rfl⟩
  | cons turn rest ih =>
    obtain ⟨htokens, hcurrent⟩ := ih (l.perform turn.1 turn.2)
    have hnext := current_perform turn.1 l turn.2
    rw [handedOut, htokens, run, List.foldl_cons, ← run, hcurrent, List.countP_cons, hnext]
    cases turn.2.isLoad with
    | false => exact ⟨rfl, rfl⟩
    | true => exact ⟨rfl, by simp only [if_true]; omega⟩

/-! ### The worker of a load -/

/-- The worker of a load. -/
def worker? (l : Loader) (token : Nat) : Option Worker :=
  l.workers.find? (·.token == token)

theorem token_of_worker? (h : l.worker? token = some w) : w.token = token := by
  have hbeq := List.find?_some h
  exact eq_of_beq hbeq

theorem mem_of_worker? (h : l.worker? token = some w) : w ∈ l.workers :=
  List.mem_of_find?_eq_some h

/-- A token that was handed out has a worker. -/
theorem exists_worker?_of_mem (h : token ∈ l.workers.map (·.token)) :
    ∃ w, l.worker? token = some w := by
  obtain ⟨w, hw, rfl⟩ := List.mem_map.mp h
  exact Option.isSome_iff_exists.mp (List.find?_isSome.mpr ⟨w, hw, BEq.rfl⟩)

theorem worker?_load (h : l.worker? token = some w) (path : String) :
    (l.load path).worker? token = some w := by
  unfold worker? load at *
  rw [List.find?_append, h, Option.some_or]

/-- The next phase of a worker with what it posts on the way. -/
def nextOf (source : LoadSource) (l : Loader) (w : Worker) : Phase × Option LoadEvent :=
  w.advance source (l.cancelled.contains w.token) (l.isCurrent w.token)

theorem step_nextOf (source : LoadSource) (l : Loader) (w : Worker) :
    w.Step source (l.cancelled.contains w.token) (l.isCurrent w.token) w.phase
      (l.nextOf source w) :=
  w.step_advance source _ _

theorem workers_advance (source : LoadSource) (l : Loader) (w : Worker) :
    (l.advance source w).workers = l.workers.map fun v =>
      if v.token = w.token then { v with phase := (l.nextOf source w).1 } else v :=
  rfl

theorem events_advance (source : LoadSource) (l : Loader) (w : Worker) :
    (l.advance source w).events = l.events ++ (l.nextOf source w).2.toArray :=
  rfl

/-- The step of a worker leaves every worker with its load. -/
theorem worker?_advance (source : LoadSource) (l : Loader) (w : Worker) (token : Nat) :
    (l.advance source w).worker? token = (l.worker? token).map fun v =>
      if v.token = w.token then { v with phase := (l.nextOf source w).1 } else v := by
  rw [worker?, workers_advance, List.find?_map]
  congr 2
  funext v
  dsimp only [Function.comp_apply]
  split <;> rfl

/-- No action gives a worker more to do, and its own step leaves it with less. -/
theorem worker?_perform (h : l.worker? token = some w) (source : LoadSource)
    (action : LoaderAction) :
    ∃ next, (l.perform source action).worker? token = some next ∧
      next.phase.stepsLeft ≤ w.phase.stepsLeft ∧
      (action = .work token → w.phase ≠ .done →
        next.phase.stepsLeft < w.phase.stepsLeft) := by
  cases action with
  | load path => exact ⟨w, worker?_load h path, le_rfl, nofun⟩
  | cancel => exact ⟨w, h, le_rfl, nofun⟩
  | work other =>
    rw [perform, ← worker?]
    by_cases hother : token = other
    · subst hother
      rw [h]
      dsimp only
      rw [worker?_advance, h, Option.map_some, if_pos rfl]
      exact ⟨_, rfl, (l.step_nextOf source w).stepsLeft_le,
        fun _ => (l.step_nextOf source w).stepsLeft_lt⟩
    · have hne : LoaderAction.work other = .work token → w.phase ≠ .done →
          w.phase.stepsLeft < w.phase.stepsLeft := by
        rintro ⟨⟩
        exact absurd rfl hother
      cases hv : l.worker? other with
      | none => exact ⟨w, h, le_rfl, hne⟩
      | some v =>
        have htoken : w.token ≠ v.token := by
          rwa [token_of_worker? h, token_of_worker? hv]
        dsimp only
        rw [worker?_advance, h, Option.map_some, if_neg htoken]
        exact ⟨w, rfl, le_rfl, hne⟩

/-! ### Schedules -/

/-- A loader after so many turns of an endless schedule. -/
def after (l : Loader) (schedule : Nat → LoaderTurn) (n : Nat) : Loader :=
  l.run ((List.range n).map schedule)

theorem after_succ (l : Loader) (schedule : Nat → LoaderTurn) (n : Nat) :
    l.after schedule (n + 1) = (l.after schedule n).perform (schedule n).1 (schedule n).2 := by
  rw [after, List.range_succ, List.map_append, run_append]
  rfl

variable {schedule : Nat → LoaderTurn}

theorem worker?_after_of_le {n m : Nat} (h : (l.after schedule n).worker? token = some w)
    (hnm : n ≤ m) : ∃ next, (l.after schedule m).worker? token = some next ∧
      next.phase.stepsLeft ≤ w.phase.stepsLeft := by
  induction m, hnm using Nat.le_induction with
  | base => exact ⟨w, h, le_rfl⟩
  | succ m _ ih =>
    obtain ⟨next, hnext, hle⟩ := ih
    obtain ⟨last, hlast, hless, -⟩ := worker?_perform hnext (schedule m).1 (schedule m).2
    rw [after_succ]
    exact ⟨last, hlast, hless.trans hle⟩

/-- A worker that is served again and again is done at some time. -/
theorem exists_isDone (hserved : ∀ n, ∃ m ≥ n, (schedule m).2 = .work token) (n : Nat)
    (h : (l.after schedule n).worker? token = some w) :
    ∃ m last, (l.after schedule m).worker? token = some last ∧ last.isDone = true := by
  -- each turn of the worker leaves it with less to do
  induction hk : w.phase.stepsLeft using WellFoundedLT.induction generalizing w n with
  | ind steps ih =>
    by_cases hdone : w.phase = .done
    · exact ⟨n, w, h, Worker.isDone_iff.mpr hdone⟩
    · obtain ⟨m, hm, haction⟩ := hserved n
      obtain ⟨next, hnext, hle⟩ := worker?_after_of_le h hm
      by_cases hnextDone : next.phase = .done
      · exact ⟨m, next, hnext, Worker.isDone_iff.mpr hnextDone⟩
      · obtain ⟨last, hlast, -, hlt⟩ := worker?_perform hnext (schedule m).1 (schedule m).2
        rw [← after_succ] at hlast
        exact ih _ (hk ▸ (hlt haction hnextDone).trans_le hle) (m + 1) hlast rfl

end Loader

end NumericControl
