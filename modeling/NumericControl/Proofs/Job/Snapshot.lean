import NumericControl.Proofs.Job.History
import NumericControl.Proofs.Program.Run

/-!
# What readers of a job see

The snapshot of a job is what was finished last.  While a job is loading its readers see nothing,
and otherwise they see nothing or a part of the job from its first line on: lines that were added
after the job was finished do not show, and marks on rows show at once.

## Main definitions

* `Job.IsShown` : the snapshot of a job shows the job up to some line.
* `Job.ShowsFinished` : a job of which readers never see a part of a load.

## Main results

* `Job.ShowsFinished.step` : every step keeps what readers may see.
* `Job.showsFinished_performAll` : readers never see a part of a load.
-/

namespace NumericControl

namespace Job

/-- The snapshot of a job shows the job up to some line, under its name and with the box of the
moves up to there. -/
structure IsShown (job : Job) : Prop where
  name : job.snapshot.name = job.name
  rows : job.snapshot.rows.toList <+: job.rows.toList
  tokens : job.snapshot.tokens.toList <+: job.program.tokens.toList
  box : job.snapshot.box = (boxOf job.snapshot.tokens.toList).normalize

/-- A job of which readers never see a part of a load. -/
structure ShowsFinished (job : Job) : Prop where
  hidden : job.loading = true → job.snapshot = .empty
  shown : job.loading = false → job.snapshot = .empty ∨ job.IsShown

variable {config : Config} {job next : Job}

/-- A job that only grows shows as much as before. -/
theorem IsShown.of_grows (h : job.IsShown) (hname : next.name = job.name)
    (hsnapshot : next.snapshot = job.snapshot) (hrows : job.rows.toList <+: next.rows.toList)
    (htokens : job.program.tokens.toList <+: next.program.tokens.toList) : next.IsShown where
  name := by rw [hsnapshot, hname, h.name]
  rows := by
    rw [hsnapshot]
    exact h.rows.trans hrows
  tokens := by
    rw [hsnapshot]
    exact h.tokens.trans htokens
  box := by rw [hsnapshot, h.box]

theorem ShowsFinished.of_grows (h : job.ShowsFinished) (hloading : next.loading = job.loading)
    (hname : next.name = job.name) (hsnapshot : next.snapshot = job.snapshot)
    (hrows : job.rows.toList <+: next.rows.toList)
    (htokens : job.program.tokens.toList <+: next.program.tokens.toList) : next.ShowsFinished where
  hidden hload := by rw [hsnapshot, h.hidden (hloading ▸ hload)]
  shown hload := by
    rw [hsnapshot]
    exact (h.shown (hloading ▸ hload)).imp_right fun h =>
      h.of_grows hname hsnapshot hrows htokens

/-- A line that is appended keeps the job and its tokens so far. -/
theorem ShowsFinished.keep (h : job.ShowsFinished) {setup : Setup} {text : String}
    {program : Program} {handled : Bool}
    (hread : job.program.readLine setup text = .ok (program, handled)) :
    (job.keep program handled).ShowsFinished := by
  obtain ⟨tokens, htokens, -⟩ := Program.readLine_eq_ok hread
  refine h.of_grows rfl rfl rfl ?_ ⟨tokens, htokens.symm⟩
  simp [Job.keep, grow]

private theorem modify_prefix {α : Type} {l l' : List α} (h : l <+: l') (i : Nat) (f : α → α) :
    l.modify i f <+: l'.modify i f := by
  rw [List.prefix_iff_eq_take.mp h, ← List.take_modify]
  exact List.take_prefix _ _

/-- A mark on a row shows at once. -/
theorem ShowsFinished.modifyRow (h : job.ShowsFinished) (i : Nat) (change : Row → Row) :
    (job.modifyRow i change).ShowsFinished := by
  have hempty (hsnapshot : job.snapshot = .empty) :
      (job.modifyRow i change).snapshot = .empty := by
    simp [Job.modifyRow, hsnapshot, Snapshot.empty]
  refine ⟨fun hload => hempty (h.hidden hload), fun hload => ?_⟩
  refine (h.shown hload).imp hempty fun hshown => ⟨hshown.name, ?_, hshown.tokens, hshown.box⟩
  simpa [Job.modifyRow] using modify_prefix hshown.rows i change

/-- A finished job shows itself. -/
theorem isShown_finish (job : Job) : job.finish.1.IsShown := by
  rw [finish_fst]
  exact ⟨rfl, List.prefix_rfl, List.prefix_rfl, rfl⟩

theorem showsFinished_new : Job.new.ShowsFinished :=
  ⟨nofun, fun _ => .inl rfl⟩

/-- Every step keeps what readers may see. -/
theorem ShowsFinished.step (h : job.ShowsFinished) {s : JobStep}
    (hstep : StepsTo config job s next) : next.ShowsFinished := by
  cases hstep with
  | start name => exact ⟨fun _ => rfl, nofun⟩
  | append hread => exact h.keep hread
  | enqueue text | skip => exact h.of_grows rfl rfl rfl List.prefix_rfl List.prefix_rfl
  | finish => exact ⟨fun hload => absurd hload (by simp), fun _ => .inr job.isShown_finish⟩
  | reset => exact ⟨nofun, fun _ => .inl rfl⟩
  | markSent | markAcknowledged => exact h.modifyRow _ _
  | notAppended | notSent | notAcknowledged => exact h

theorem ShowsFinished.run (h : job.ShowsFinished) (steps : List JobStep) :
    (job.run config steps).ShowsFinished := by
  induction steps generalizing job with
  | nil => exact h
  | cons s rest ih => exact ih (h.step (job.stepsTo_step config s))

/-- Readers never see a part of a load, whatever is done with a job. -/
theorem showsFinished_performAll (config : Config) (actions : List JobAction) :
    (Job.new.performAll config actions).ShowsFinished := by
  rw [performAll_eq_run]
  exact showsFinished_new.run _

end Job

end NumericControl
