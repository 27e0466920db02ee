import Mathlib.Data.List.Induction
import Mathlib.Data.List.Nodup
import NumericControl.Proofs.Loader.Run

/-!
# The protocol of a loader

New loads, cancellations and the steps of all workers come in any order.  Whatever the order, each
load has a token of its own and tells at most once how it ended, as its last event.  It tells that
it was cancelled only if it was cancelled or superseded.  A load that was neither tells exactly once
that its job is published, or that it failed.

## Main definitions

* `Loader.Interrupted` : a load was cancelled or superseded.
* `Loader.Sound` : every worker fits the events of its load.
* `Loader.FollowsProtocol` : what a loader has handed out and posted follows the protocol.

## Main results

* `Loader.Sound.perform` : an action keeps a loader sound.
* `Loader.sound_run` : a loader is sound after any turns.
* `Loader.followsProtocol_run` : it follows the protocol.
-/

namespace NumericControl

/-- Whether an action cancels the latest load, as a new load does. -/
def LoaderAction.interrupts : LoaderAction → Bool
  | .work _ => false
  | _ => true

namespace Loader

/-- The events of a load, in order. -/
def eventsOf (l : Loader) (token : Nat) : List LoadEvent :=
  l.events.toList.filter (·.token == token)

/-- A load was cancelled or superseded: at some turn it was the latest one and was interrupted. -/
def Interrupted (turns : List LoaderTurn) (token : Nat) : Prop :=
  ∃ before turn after, turns = before ++ turn :: after ∧
    (({} : Loader).run before).current = token ∧ turn.2.interrupts = true

theorem Interrupted.append {turns : List LoaderTurn} {token : Nat} (h : Interrupted turns token)
    (more : List LoaderTurn) : Interrupted (turns ++ more) token := by
  obtain ⟨before, turn, after, rfl, hcurrent, hinterrupts⟩ := h
  exact ⟨before, turn, after ++ more, by rw [List.append_assoc, List.cons_append], hcurrent,
    hinterrupts⟩

theorem interrupted_concat (turns : List LoaderTurn) {turn : LoaderTurn}
    (h : turn.2.interrupts = true) :
    Interrupted (turns ++ [turn]) (({} : Loader).run turns).current :=
  ⟨turns, turn, [], rfl, rfl, h⟩

/-- Every load has a token and a worker of its own that fits the events of the load, and all loads
that a worker may find cancelled or superseded are interrupted. -/
structure Sound (interrupted : Nat → Prop) (l : Loader) : Prop where
  tokens : l.workers.map (·.token) = List.range' 1 l.current
  cancelled : ∀ token ∈ l.cancelled, interrupted token
  superseded : ∀ token < l.current, interrupted token
  posted : ∀ e ∈ l.events, e.token ∈ l.workers.map (·.token)
  fits : ∀ w ∈ l.workers,
    w.phase.Fits w.token w.path (interrupted w.token) (l.eventsOf w.token)

section

variable {interrupted interrupted' : Nat → Prop} {l : Loader} {w : Worker}

theorem Sound.mono (h : l.Sound interrupted)
    (himp : ∀ token, interrupted token → interrupted' token) : l.Sound interrupted' where
  tokens := h.tokens
  cancelled token ht := himp token (h.cancelled token ht)
  superseded token ht := himp token (h.superseded token ht)
  posted := h.posted
  fits w hw := (h.fits w hw).mono (himp w.token)

theorem Sound.token_le (h : l.Sound interrupted) {token : Nat}
    (hmem : token ∈ l.workers.map (·.token)) : token ≤ l.current := by
  have hrange := List.mem_range'_1.mp (h.tokens ▸ hmem)
  omega

theorem Sound.eq_of_token_eq (h : l.Sound interrupted) {v : Worker} (hv : v ∈ l.workers)
    (hw : w ∈ l.workers) (htoken : v.token = w.token) : v = w := by
  have hnodup : (l.workers.map (·.token)).Nodup := h.tokens ▸ List.nodup_range'
  exact List.inj_on_of_nodup_map hnodup hv hw htoken

theorem sound_empty (interrupted : Nat → Prop) : ({} : Loader).Sound interrupted where
  tokens := rfl
  cancelled := List.forall_mem_nil _
  superseded token h := absurd h (Nat.not_lt_zero token)
  posted e he := absurd he (Array.not_mem_empty e)
  fits := List.forall_mem_nil _

/-! ### New loads and cancellations -/

theorem Sound.cancel (h : l.Sound interrupted) (hcurrent : interrupted l.current) :
    l.cancel.Sound interrupted where
  tokens := h.tokens
  cancelled := List.forall_mem_cons.mpr ⟨hcurrent, h.cancelled⟩
  superseded := h.superseded
  posted := h.posted
  fits := h.fits

/-- A load that was not started yet has no events. -/
theorem Sound.eventsOf_next (h : l.Sound interrupted) : l.eventsOf (l.current + 1) = [] := by
  refine List.filter_eq_nil_iff.mpr fun e he hbeq => ?_
  have hle := h.token_le (h.posted e (Array.mem_toList_iff.mp he))
  rw [eq_of_beq hbeq] at hle
  omega

theorem workers_load (l : Loader) (path : String) :
    (l.load path).workers = l.workers ++ [{ token := l.current + 1, path }] :=
  rfl

theorem Sound.load (h : l.Sound interrupted) (hcurrent : interrupted l.current) (path : String) :
    (l.load path).Sound interrupted where
  tokens := by
    rw [workers_load, List.map_append, h.tokens, Loader.load, List.range'_1_concat,
      Nat.add_comm 1]
    rfl
  cancelled := List.forall_mem_cons.mpr ⟨hcurrent, h.cancelled⟩
  superseded token ht := by
    rcases Nat.lt_succ_iff_lt_or_eq.mp ht with ht | rfl
    · exact h.superseded token ht
    · exact hcurrent
  posted e he := by
    rw [workers_load, List.map_append]
    exact List.mem_append_left _ (h.posted e he)
  fits w hw := by
    rcases List.mem_append.mp hw with hw | hw
    · exact h.fits w hw
    · rw [List.mem_singleton.mp hw]
      have hnone : (l.load path).eventsOf (l.current + 1) = [] := h.eventsOf_next
      dsimp only
      rw [hnone]
      exact .atWork trivial (List.forall_mem_nil _)

/-! ### The step of a worker -/

theorem tokens_advance (source : LoadSource) (l : Loader) (w : Worker) :
    (l.advance source w).workers.map (·.token) = l.workers.map (·.token) := by
  rw [workers_advance, List.map_map]
  refine List.map_congr_left fun v _ => ?_
  dsimp only [Function.comp_apply]
  split <;> rfl

theorem eventsOf_advance (source : LoadSource) (l : Loader) (w : Worker) (token : Nat) :
    (l.advance source w).eventsOf token =
      l.eventsOf token ++ (l.nextOf source w).2.toList.filter (·.token == token) := by
  rw [eventsOf, events_advance, Array.toList_append, List.filter_append, Option.toList_toArray]
  rfl

/-- A worker that finds its load cancelled or superseded was interrupted. -/
theorem Sound.fits_nextOf (h : l.Sound interrupted) (hw : w ∈ l.workers) (source : LoadSource) :
    (l.nextOf source w).1.Fits w.token w.path (interrupted w.token)
      (l.eventsOf w.token ++ (l.nextOf source w).2.toList) := by
  refine (h.fits w hw).step (l.step_nextOf source w) (fun hcancelled => ?_) fun hcurrent => ?_
  · exact h.cancelled w.token (List.contains_iff_mem.mp hcancelled)
  · have hne : w.token ≠ l.current := by simpa [isCurrent] using hcurrent
    exact h.superseded w.token (lt_of_le_of_ne (h.token_le (List.mem_map_of_mem hw)) hne)

/-- The step of a worker keeps a loader sound. -/
theorem Sound.advance (h : l.Sound interrupted) (hw : w ∈ l.workers) (source : LoadSource) :
    (l.advance source w).Sound interrupted := by
  have hposts : ∀ e ∈ (l.nextOf source w).2.toList, e.token = w.token := by
    simpa using (h.fits w hw).token_of_step (l.step_nextOf source w)
  refine ⟨(l.tokens_advance source w).trans h.tokens, h.cancelled, h.superseded, ?posted, ?fits⟩
  case posted =>
    intro e he
    rw [tokens_advance]
    rw [events_advance] at he
    rcases Array.mem_append.mp he with he | he
    · exact h.posted e he
    · rw [hposts e (by simpa using he)]
      exact List.mem_map_of_mem hw
  case fits =>
    intro v hv
    rw [workers_advance] at hv
    obtain ⟨u, hu, rfl⟩ := List.mem_map.mp hv
    by_cases htoken : u.token = w.token
    · -- the worker itself, as no other one has its token
      obtain rfl := h.eq_of_token_eq hu hw htoken
      rw [if_pos rfl, eventsOf_advance]
      have hall : (l.nextOf source u).2.toList.filter (·.token == u.token) =
          (l.nextOf source u).2.toList :=
        List.filter_eq_self.mpr fun e he => beq_iff_eq.mpr (hposts e he)
      dsimp only
      rw [hall]
      exact h.fits_nextOf hw source
    · rw [if_neg htoken, eventsOf_advance]
      have hnone : (l.nextOf source w).2.toList.filter (·.token == u.token) = [] := by
        refine List.filter_eq_nil_iff.mpr fun e he hbeq => htoken ?_
        rw [← eq_of_beq hbeq]
        exact hposts e he
      rw [hnone, List.append_nil]
      exact h.fits u hu

/-! ### Runs -/

/-- An action keeps a loader sound if only an interrupted load is cancelled or superseded by it. -/
theorem Sound.perform (h : l.Sound interrupted) (source : LoadSource) (action : LoaderAction)
    (hcurrent : action.interrupts = true → interrupted l.current) :
    (l.perform source action).Sound interrupted := by
  cases action with
  | load path => exact h.load (hcurrent rfl) path
  | cancel => exact h.cancel (hcurrent rfl)
  | work token =>
    rw [Loader.perform, ← worker?]
    cases hw : l.worker? token with
    | none => exact h
    | some w => exact h.advance (mem_of_worker? hw) source

end

theorem sound_run (turns : List LoaderTurn) :
    (({} : Loader).run turns).Sound (Interrupted turns) := by
  induction turns using List.reverseRecOn with
  | nil => exact sound_empty _
  | append_singleton turns turn ih =>
    rw [run_append, run_singleton]
    exact (ih.mono fun _ h => h.append [turn]).perform turn.1 turn.2 (interrupted_concat turns)

/-! ### What is told -/

/-- A load tells exactly once how it ended: that its job is loaded, or that it failed. -/
def TellsResult (l : Loader) (w : Worker) : Prop :=
  ∃ e, (l.eventsOf w.token).filter (·.isTerminal) = [e] ∧
    ((∃ job, e = .loaded w.token w.path job) ∨ ∃ message, e = .failed w.token w.path message)

section

variable {interrupted : Nat → Prop} {l : Loader}

/-- An event belongs to a worker, which it fits. -/
theorem Sound.exists_fits (h : l.Sound interrupted) {e : LoadEvent} (he : e ∈ l.events) :
    ∃ w ∈ l.workers, w.token = e.token ∧
      w.phase.Fits e.token w.path (interrupted e.token) (l.eventsOf e.token) := by
  obtain ⟨w, hw, htoken⟩ := List.mem_map.mp (h.posted e he)
  have hfits := h.fits w hw
  rw [htoken] at hfits
  exact ⟨w, hw, htoken, hfits⟩

/-- An event that tells how a load ended is one that its worker may end with. -/
theorem Sound.exists_ends (h : l.Sound interrupted) {e : LoadEvent} (he : e ∈ l.events)
    (hterminal : e.isTerminal = true) : ∃ path, e.Ends e.token path (interrupted e.token) := by
  obtain ⟨w, -, -, hfits⟩ := h.exists_fits he
  have hmem : e ∈ l.eventsOf e.token :=
    List.mem_filter.mpr ⟨Array.mem_toList_iff.mpr he, BEq.rfl⟩
  exact ⟨w.path, hfits.ends hmem hterminal⟩

/-- Nothing follows the event that tells how a load ended. -/
theorem Sound.pairwise_eventsOf (h : l.Sound interrupted) (token : Nat) :
    (l.eventsOf token).Pairwise fun e _ => e.isTerminal = false := by
  cases hevents : l.eventsOf token with
  | nil => exact .nil
  | cons e rest =>
    have he : e ∈ l.eventsOf token := hevents ▸ List.mem_cons_self
    obtain ⟨he, hbeq⟩ := List.mem_filter.mp he
    obtain ⟨w, -, -, hfits⟩ := h.exists_fits (Array.mem_toList_iff.mp he)
    rw [← hevents, ← eq_of_beq hbeq]
    exact hfits.pairwise

theorem Sound.tellsResult (h : l.Sound interrupted) {w : Worker} (hw : w ∈ l.workers)
    (hnot : ¬ interrupted w.token) (hdone : w.isDone = true) : l.TellsResult w := by
  have hfits := h.fits w hw
  rw [Worker.isDone_iff.mp hdone] at hfits
  obtain ⟨e, hlast, hends⟩ := hfits.exists_last hnot
  refine ⟨e, hlast, ?_⟩
  cases hends with
  | loaded _ => exact .inl ⟨_, rfl⟩
  | cancelled _ hinterrupted => exact absurd hinterrupted hnot
  | failed message => exact .inr ⟨message, rfl⟩

end

theorem tokens_run (turns : List LoaderTurn) :
    (({} : Loader).run turns).workers.map (·.token) = ({} : Loader).handedOut turns := by
  obtain ⟨htokens, hcurrent⟩ := handedOut_eq {} turns
  rw [htokens, (sound_run turns).tokens, hcurrent, Nat.zero_add]

/-- What a loader has handed out and posted after some turns follows the protocol. -/
structure FollowsProtocol (turns : List LoaderTurn) (l : Loader) : Prop where
  /-- The tokens that are handed out are strictly increasing. -/
  increasing : (({} : Loader).handedOut turns).Pairwise (· < ·)
  /-- Every load has one worker. -/
  workers : l.workers.map (·.token) = ({} : Loader).handedOut turns
  /-- Nothing follows the event that tells how a load ended, so there is one at most. -/
  closing : ∀ token, (l.eventsOf token).Pairwise fun e _ => e.isTerminal = false
  /-- Only a load that was cancelled or superseded before is told to be cancelled. -/
  cancelled : ∀ token path rows,
    LoadEvent.cancelled token path rows ∈ l.events → Interrupted turns token
  /-- A job that is told to be loaded is published. -/
  loaded : ∀ token path job,
    LoadEvent.loaded token path job ∈ l.events → ∃ summary, job.Publishes path summary
  /-- A worker that is done has told its result once if its load was not interrupted. -/
  finishes : ∀ w ∈ l.workers, ¬ Interrupted turns w.token → w.isDone = true → l.TellsResult w
  /-- A worker that is served again and again is done at some time, and has told its result once
  then if its load was not interrupted until then. -/
  ends : ∀ token ∈ ({} : Loader).handedOut turns, ∀ schedule : Nat → LoaderTurn,
    (∀ n, ∃ m ≥ n, (schedule m).2 = .work token) →
      ∃ n w, (l.after schedule n).worker? token = some w ∧ w.isDone = true ∧
        (¬ Interrupted (turns ++ (List.range n).map schedule) token →
          (l.after schedule n).TellsResult w)

/-- A loader follows the protocol in whatever order loads are started and cancelled and workers
take their steps. -/
theorem followsProtocol_run (turns : List LoaderTurn) :
    FollowsProtocol turns (({} : Loader).run turns) := by
  have hsound := sound_run turns
  have htokens := tokens_run turns
  refine ⟨?increasing, htokens, hsound.pairwise_eventsOf, ?cancelled, ?loaded,
    fun w hw => hsound.tellsResult hw, ?ends⟩
  case increasing =>
    rw [(handedOut_eq {} turns).1]
    exact List.pairwise_lt_range'
  case cancelled =>
    intro token path rows he
    obtain ⟨_, hends⟩ := hsound.exists_ends he rfl
    cases hends with
    | cancelled _ hinterrupted => exact hinterrupted
  case loaded =>
    intro token path job he
    obtain ⟨_, hends⟩ := hsound.exists_ends he rfl
    cases hends with
    | loaded hpublishes => exact ⟨_, hpublishes⟩
  case ends =>
    intro token hmem schedule hserved
    obtain ⟨w, hw⟩ := exists_worker?_of_mem (htokens ▸ hmem)
    obtain ⟨n, last, hlast, hdone⟩ := exists_isDone hserved 0 hw
    refine ⟨n, last, hlast, hdone, fun hnot => ?_⟩
    have hafter := sound_run (turns ++ (List.range n).map schedule)
    rw [run_append] at hafter
    refine hafter.tellsResult (mem_of_worker? hlast) ?_ hdone
    rwa [token_of_worker? hlast]

/-- A load that is superseded between its last look and its last event still tells that its job is
loaded. -/
example (setup : Setup) (policy : LoadPolicy) :
    let source : LoadSource := { setup, policy, read := fun _ => .ok ⟨[], none⟩ }
    let actions : List LoaderAction :=
      [.load "a.nc", .work 1, .work 1, .load "b.nc", .work 1]
    ∃ job, (({} : Loader).run (actions.map (source, ·))).events = #[.loaded 1 "a.nc" job] :=
  ⟨_, rfl⟩

end Loader

end NumericControl
