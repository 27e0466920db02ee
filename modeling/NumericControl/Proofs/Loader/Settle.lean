import Mathlib.Data.DFinsupp.WellFounded
import NumericControl.Loader.Settle
import NumericControl.Proofs.Loader.Protocol

/-!
# Loaders that settle

Workers that run one after the other, with the loads and cancellations that questions about tools
bring about, are one of the orders in which the turns of a loader may come; so what is said of any
turns holds of a loader that settles.  It settles after finitely many steps if no question starts
another load.

## Main definitions

* `Loader.stepsLeftOf` : what is left to do for a load.

## Main results

* `Loader.exists_run_settle` : a loader that settles has taken some more turns.
* `Loader.workReacting_lt` : a step leaves less to do for its load.
* `Loader.exists_settled` : all workers are done after finitely many steps.
-/

namespace NumericControl

theorem Phase.stepsLeft_pos {phase : Phase} (h : phase ≠ .done) : 0 < phase.stepsLeft := by
  change ((0 : ℕ) : ℕ∞) < _
  cases phase with
  | opening => exact ENat.natCast_lt_top 0
  | done => exact absurd rfl h
  | _ => exact Nat.cast_lt.mpr (by omega)

namespace Loader

variable {source : LoadSource} {reaction : ToolReaction} {l : Loader} {token : Nat} {w : Worker}

/-! ### Settling is a run -/

/-- The turns of a step: the reactions to the questions on the way, and the step itself. -/
def turnsOf (source : LoadSource) (reaction : ToolReaction) (w : Worker) : List LoaderTurn :=
  ((toolsAsked source w).filterMap reaction).map (source, ·) ++ [(source, .work w.token)]

theorem workReacting_eq_run (source : LoadSource) (reaction : ToolReaction) (l : Loader)
    (w : Worker) : l.workReacting source reaction w = l.run (turnsOf source reaction w) := by
  rw [workReacting, turnsOf, run_append, run_singleton, run, List.foldl_map]

/-- A loader that settles has taken some more turns. -/
theorem exists_run_settle (source : LoadSource) (reaction : ToolReaction) (steps : Nat)
    (l : Loader) : ∃ turns, l.settle source reaction steps = l.run turns := by
  induction steps generalizing l with
  | zero => exact ⟨[], rfl⟩
  | succ steps ih =>
    rw [settle]
    split
    · next w _ =>
      obtain ⟨turns, hturns⟩ := ih (l.workReacting source reaction w)
      exact ⟨turnsOf source reaction w ++ turns, by rw [hturns, workReacting_eq_run, run_append]⟩
    · exact ⟨[], rfl⟩

/-- No turn of a step is a load if no question starts one. -/
theorem isLoad_of_mem_turnsOf (source : LoadSource) (w : Worker)
    (h : ∀ tool, ∀ action ∈ reaction tool, action.isLoad = false) :
    ∀ turn ∈ turnsOf source reaction w, turn.2.isLoad = false := by
  intro turn hturn
  rcases List.mem_append.mp hturn with hturn | hturn
  · obtain ⟨action, haction, rfl⟩ := List.mem_map.mp hturn
    obtain ⟨tool, -, htool⟩ := List.mem_filterMap.mp haction
    exact h tool action htool
  · rw [List.mem_singleton.mp hturn]
    rfl

/-! ### What is left to do -/

/-- How many steps the worker of a load has left at most. -/
def stepsLeftOf (l : Loader) (token : Nat) : ℕ∞ :=
  (l.worker? token).elim 0 fun w => w.phase.stepsLeft

theorem stepsLeftOf_of_worker? (h : l.worker? token = some w) :
    l.stepsLeftOf token = w.phase.stepsLeft := by
  rw [stepsLeftOf, h, Option.elim_some]

/-- Only a load brings a worker with it. -/
theorem worker?_perform_eq_none (h : l.worker? token = none) {action : LoaderAction}
    (hload : action.isLoad = false) : (l.perform source action).worker? token = none := by
  cases action with
  | load path => cases hload
  | cancel => exact h
  | work other =>
    rw [perform]
    split
    · rw [worker?_advance, h, Option.map_none]
    · exact h

theorem stepsLeftOf_perform_le (source : LoadSource) (l : Loader) {action : LoaderAction}
    (hload : action.isLoad = false) (token : Nat) :
    (l.perform source action).stepsLeftOf token ≤ l.stepsLeftOf token := by
  cases hw : l.worker? token with
  | none =>
    rw [stepsLeftOf, worker?_perform_eq_none hw hload, Option.elim_none]
    exact bot_le
  | some w =>
    obtain ⟨next, hnext, hle, -⟩ := worker?_perform hw source action
    rwa [stepsLeftOf_of_worker? hw, stepsLeftOf_of_worker? hnext]

theorem stepsLeftOf_run_le {turns : List LoaderTurn}
    (hload : ∀ turn ∈ turns, turn.2.isLoad = false) (l : Loader) (token : Nat) :
    (l.run turns).stepsLeftOf token ≤ l.stepsLeftOf token := by
  induction turns generalizing l with
  | nil => exact le_rfl
  | cons turn rest ih =>
    obtain ⟨hturn, hrest⟩ := List.forall_mem_cons.mp hload
    exact (ih hrest _).trans (stepsLeftOf_perform_le turn.1 l hturn token)

theorem worker?_run (h : l.worker? token = some w) (turns : List LoaderTurn) :
    ∃ next, (l.run turns).worker? token = some next ∧
      next.phase.stepsLeft ≤ w.phase.stepsLeft := by
  induction turns generalizing l w with
  | nil => exact ⟨w, h, le_rfl⟩
  | cons turn rest ih =>
    obtain ⟨next, hnext, hle, -⟩ := worker?_perform h turn.1 turn.2
    obtain ⟨last, hlast, hless⟩ := ih hnext
    exact ⟨last, hlast, hless.trans hle⟩

/-- A step leaves less to do for its load, whatever it brings about. -/
theorem workReacting_lt (h : l.worker? w.token = some w) (hdone : w.phase ≠ .done) :
    (l.workReacting source reaction w).stepsLeftOf w.token < l.stepsLeftOf w.token := by
  obtain ⟨next, hnext, hle⟩ := worker?_run h
    (((toolsAsked source w).filterMap reaction).map (source, ·))
  obtain ⟨last, hlast, hless, hlt⟩ := worker?_perform hnext source (.work w.token)
  rw [workReacting_eq_run, turnsOf, run_append, run_singleton, stepsLeftOf_of_worker? hlast,
    stepsLeftOf_of_worker? h]
  by_cases hnextDone : next.phase = .done
  · have hzero : next.phase.stepsLeft = 0 := by
      rw [hnextDone]
      rfl
    exact (hless.trans_eq hzero).trans_lt (Phase.stepsLeft_pos hdone)
  · exact (hlt rfl hnextDone).trans_le hle

/-! ### Settled loaders -/

theorem Sound.run_of_true (h : l.Sound fun _ => True) (turns : List LoaderTurn) :
    (l.run turns).Sound fun _ => True := by
  induction turns generalizing l with
  | nil => exact h
  | cons turn rest ih => exact ih (h.perform turn.1 turn.2 fun _ => trivial)

/-- Without loads no token is handed out. -/
theorem current_run_of_not_isLoad {turns : List LoaderTurn}
    (hload : ∀ turn ∈ turns, turn.2.isLoad = false) (l : Loader) :
    (l.run turns).current = l.current := by
  have hcount : turns.countP (·.2.isLoad) = 0 :=
    List.countP_eq_zero.mpr fun turn hturn => by simp [hload turn hturn]
  rw [(handedOut_eq l turns).2, hcount, Nat.add_zero]

theorem Sound.worker?_of_mem {interrupted : Nat → Prop} (h : l.Sound interrupted)
    (hw : w ∈ l.workers) : l.worker? w.token = some w := by
  obtain ⟨v, hv⟩ := exists_worker?_of_mem (List.mem_map_of_mem hw)
  rw [hv, h.eq_of_token_eq (mem_of_worker? hv) hw (token_of_worker? hv)]

/-- A loader whose workers are done stays as it is. -/
theorem settle_of_isDone (h : ∀ w ∈ l.workers, w.isDone = true) (steps : Nat) :
    l.settle source reaction steps = l := by
  have hnone : (l.workers.find? fun w => !w.isDone) = none := by simpa using h
  cases steps with
  | zero => rfl
  | succ steps => rw [settle, hnone]

/-- A step of a worker that is not done leaves the loads together with less to do. -/
theorem Sound.stepsLeftOf_lt {interrupted : Nat → Prop} (h : l.Sound interrupted)
    (source : LoadSource) (hw : w ∈ l.workers) (hdone : w.phase ≠ .done)
    (hreaction : ∀ tool, ∀ action ∈ reaction tool, action.isLoad = false) :
    (fun i : Fin (l.current + 1) => (l.workReacting source reaction w).stepsLeftOf i) <
      fun i : Fin (l.current + 1) => l.stepsLeftOf i := by
  have hload := isLoad_of_mem_turnsOf source w hreaction
  have htoken : w.token < l.current + 1 :=
    Nat.lt_succ_of_le (h.token_le (List.mem_map_of_mem hw))
  refine Pi.lt_def.mpr ⟨fun i => ?_, ⟨w.token, htoken⟩, ?_⟩
  · dsimp only
    rw [workReacting_eq_run]
    exact stepsLeftOf_run_le hload l i
  · exact workReacting_lt (h.worker?_of_mem hw) hdone

/-- All workers of a loader are done after finitely many steps, if no question starts another
load. -/
theorem exists_settled (hreaction : ∀ tool, ∀ action ∈ reaction tool, action.isLoad = false)
    (turns : List LoaderTurn) :
    ∃ n, ∀ steps ≥ n,
      ∀ w ∈ ((({} : Loader).run turns).settle source reaction steps).workers, w.isDone = true := by
  have hsound : (({} : Loader).run turns).Sound fun _ => True :=
    (sound_run turns).mono fun _ _ => trivial
  generalize ({} : Loader).run turns = l at hsound
  obtain ⟨k, hk⟩ : ∃ k, l.current = k := ⟨_, rfl⟩
  -- no load gets more to do, and the one whose worker takes the step gets less
  induction hleft : (fun i : Fin (k + 1) => l.stepsLeftOf i) using WellFoundedLT.induction
    generalizing l with
  | ind left ih =>
    cases hw : l.workers.find? (fun w => !w.isDone) with
    | none =>
      have hdone : ∀ w ∈ l.workers, w.isDone = true := by simpa using hw
      exact ⟨0, fun steps _ => by rwa [settle_of_isDone hdone]⟩
    | some w =>
      have hmem := List.mem_of_find?_eq_some hw
      have hfound := List.find?_some hw
      have hdone : w.phase ≠ .done := fun hdone => by
        simp [Worker.isDone_iff.mpr hdone] at hfound
      have hnext := workReacting_eq_run source reaction l w
      have hcurrent : (l.workReacting source reaction w).current = k := by
        rw [hnext, current_run_of_not_isLoad (isLoad_of_mem_turnsOf source w hreaction), hk]
      subst hk
      have hless := hsound.stepsLeftOf_lt source hmem hdone hreaction
      obtain ⟨n, hn⟩ := ih _ (hleft ▸ hless) _ (hnext ▸ hsound.run_of_true _) hcurrent rfl
      refine ⟨n + 1, fun steps hsteps => ?_⟩
      obtain ⟨m, rfl⟩ : ∃ m, steps = m + 1 := ⟨steps - 1, by omega⟩
      rw [settle, hw]
      exact hn m (by omega)

end Loader

end NumericControl
