import Mathlib.Data.List.Induction
import NumericControl.Proofs.Extent.Exact
import NumericControl.Proofs.Job.History
import NumericControl.Proofs.Job.Load
import NumericControl.Proofs.Program.Run

/-!
# The extremes of the feeds of a job

A job that is finished takes all its feeds into the extremes that it had before, and it gets zero
for both if it has no feed.  This zero stays when feeds are added and the job is finished again.  So
the extremes of a finished job are those of its feeds, unless it was finished without a feed before,
since it was cleared last, and all its feeds are on one side of zero.

## Main definitions

* `Span.IsFeedExtentOf` : the extremes of some feeds, zero if there is none.
* `Job.feedValues` : the feeds of a job.
* `Job.FinishedUnfed` : a job that was finished without a feed.

## Main results

* `Job.feedsWidened_run` : what the extremes of a job are widened from, and by what.
* `Job.feeds_finish_iff` : when the extremes of a finished job are those of its feeds.
* `Job.isFeedExtentOf_loadLines` : after a load that is finished they are.
-/

namespace NumericControl

/-- The extremes of some feeds; without a feed both are zero. -/
structure Span.IsFeedExtentOf (feeds : Span Float) (values : List Float) : Prop where
  zero : values = [] → feeds = ⟨0.0, 0.0⟩
  extent : values ≠ [] → feeds.IsExtentOf values

theorem Span.isFeedExtentOf_iff {feeds : Span Float} {values : List Float} (h : values ≠ []) :
    feeds.IsFeedExtentOf values ↔ feeds.IsExtentOf values :=
  ⟨fun hfeeds => hfeeds.extent h, fun hfeeds => ⟨fun hnone => absurd hnone h, fun _ => hfeeds⟩⟩

namespace Job

/-- The feeds of a job. -/
def feedValues (job : Job) : List Float :=
  job.program.tokens.toList.filterMap feedOf?

/-- By some steps a new job was once finished without a feed and not cleared since then. -/
def FinishedUnfed (config : Config) (steps : List JobStep) : Prop :=
  FinishedWhere (fun job => job.feedValues = []) config steps

variable {config : Config} {job : Job} {s : JobStep} {steps : List JobStep} {start : Span Float}
  {values taken : List Float}

/-! ### One step -/

theorem feeds_step_of_clears (h : s.clears = true) : (job.step config s).feeds = .empty := by
  cases s with
  | start name | reset => rfl
  | _ => cases h

/-- A job that follows another one with the same extremes and no fewer feeds. -/
structure KeepsFeeds (job next : Job) : Prop where
  feeds : next.feeds = job.feeds
  values : job.feedValues ⊆ next.feedValues

theorem KeepsFeeds.of_program_eq {next : Job} (hfeeds : next.feeds = job.feeds)
    (hprogram : next.program = job.program) : job.KeepsFeeds next := by
  refine ⟨hfeeds, ?_⟩
  rw [feedValues, feedValues, hprogram]
  exact List.Subset.refl _

/-- Only a step that clears the job or finishes it changes the extremes. -/
theorem keepsFeeds_step {next : Job} (hstep : StepsTo config job s next)
    (hclears : s.clears = false) (hfinish : s ≠ .finish) : job.KeepsFeeds next := by
  cases hstep with
  | start name | reset => cases hclears
  | finish => exact absurd rfl hfinish
  | append hread =>
    obtain ⟨tokens, htokens, -⟩ := Program.readLine_eq_ok hread
    exact ⟨rfl, by simp [feedValues, keep, grow, htokens]⟩
  | _ => exact .of_program_eq rfl rfl

/-- When a new job was finished without a feed, after one more step. -/
theorem finishedUnfed_append_iff : FinishedUnfed config (steps ++ [s]) ↔
    s.clears = false ∧ (FinishedUnfed config steps ∨
      s = .finish ∧ (Job.new.run config steps).feedValues = []) :=
  finishedWhere_append_iff

/-! ### Finishing -/

theorem feedValues_finish (job : Job) : job.finish.1.feedValues = job.feedValues := by
  rw [feedValues, program_finish, feedValues]

/-- Finishing takes all feeds into the extremes; they are zero if there is nothing in them. -/
theorem feeds_finish_cases (hstart : start.IsExtentOf values)
    (hvalues : ∀ v ∈ values, v.isFinite) (hfinite : ∀ v ∈ job.feedValues, v.isFinite)
    (htaken : taken ⊆ job.feedValues) (hfeeds : job.feeds = taken.foldl Span.widen start) :
    (values = [] ∧ job.feedValues = [] ∧ job.finish.1.feeds = ⟨0.0, 0.0⟩) ∨
      (values ++ job.feedValues ≠ [] ∧
        job.finish.1.feeds = (taken ++ job.feedValues).foldl Span.widen start) := by
  have hfinish : job.finish.1.feeds =
      if (job.feedValues.foldl Span.widen job.feeds).high == -Number.infinity then ⟨0.0, 0.0⟩
      else job.feedValues.foldl Span.widen job.feeds := by
    rw [finish_fst]
    rfl
  by_cases hnone : values ++ job.feedValues = []
  · obtain ⟨rfl, hunfed⟩ := List.append_eq_nil_iff.mp hnone
    rw [hunfed, List.subset_nil] at htaken
    have hempty : job.feeds = .empty := by
      rw [hfeeds, htaken, List.foldl_nil, hstart.eq_empty nofun]
    rw [hfinish, hunfed, hempty]
    exact .inl ⟨rfl, rfl, if_pos (by decide +kernel)⟩
  · have hwiden : job.feedValues.foldl Span.widen job.feeds =
        (taken ++ job.feedValues).foldl Span.widen start := by rw [hfeeds, List.foldl_append]
    have hextent : ((taken ++ job.feedValues).foldl Span.widen start).IsExtentOf
        (values ++ (taken ++ job.feedValues)) := hstart.foldl_widen
    -- the upper end is one of the values, so it is finite
    have hall : ∀ v ∈ values ++ (taken ++ job.feedValues), v.isFinite := by
      intro v hv
      simp only [List.mem_append] at hv
      rcases hv with hv | hv | hv
      · exact hvalues v hv
      · exact hfinite v (htaken hv)
      · exact hfinite v hv
    obtain ⟨v, hv⟩ := List.exists_mem_of_ne_nil _ hnone
    have hv' : v ∈ values ++ (taken ++ job.feedValues) := by
      simp only [List.mem_append] at hv ⊢
      exact hv.imp_right .inr
    obtain ⟨-, u, hu, hhigh⟩ := hextent.attained v hv' (Number.not_isNaN_of_isFinite (hall v hv'))
    have hfalse := Number.beq_neg_infinity_eq_false (hall u hu) hhigh
    rw [hfinish, hwiden, hfalse]
    exact .inr ⟨hnone, if_neg Bool.false_ne_true⟩

/-! ### All steps -/

/-- The extremes from which those of a job are widened, with the values that they stand for. -/
inductive FeedBase (config : Config) (steps : List JobStep) : Span Float → List Float → Prop
  | fed (h : ¬ FinishedUnfed config steps) : FeedBase config steps .empty []
  | unfed (h : FinishedUnfed config steps) : FeedBase config steps ⟨0.0, 0.0⟩ [0.0]

theorem FeedBase.isExtentOf (h : FeedBase config steps start values) : start.IsExtentOf values := by
  cases h with
  | fed => exact Span.isExtentOf_empty
  | unfed => exact Span.isExtentOf_single (by decide +kernel)

theorem FeedBase.isFinite (h : FeedBase config steps start values) : ∀ v ∈ values, v.isFinite := by
  cases h with
  | fed => nofun
  | unfed => decide +kernel

theorem FeedBase.of_iff {steps' : List JobStep} (h : FeedBase config steps start values)
    (hiff : FinishedUnfed config steps' ↔ FinishedUnfed config steps) :
    FeedBase config steps' start values := by
  cases h with
  | fed h => exact .fed (mt hiff.mp h)
  | unfed h => exact .unfed (hiff.mpr h)

/-- The extremes of a job are widened by some of its feeds from nothing, or from zero if it was
finished without a feed. -/
def FeedsWidened (config : Config) (steps : List JobStep) (job : Job) : Prop :=
  ∃ start values taken, FeedBase config steps start values ∧ taken ⊆ job.feedValues ∧
    job.feeds = taken.foldl Span.widen start

/-- Finishing a job takes all its feeds, or makes it one that was finished without a feed. -/
theorem FeedsWidened.finish (h : FeedsWidened config steps (Job.new.run config steps))
    (hfinite : ∀ v ∈ (Job.new.run config steps).feedValues, v.isFinite) :
    FeedsWidened config (steps ++ [.finish]) (Job.new.run config steps).finish.1 := by
  obtain ⟨start, values, taken, hbase, htaken, hfeeds⟩ := h
  unfold FeedsWidened
  rw [feedValues_finish]
  rcases feeds_finish_cases hbase.isExtentOf hbase.isFinite hfinite htaken hfeeds with
    ⟨-, hunfed, hzero⟩ | ⟨hsome, hwiden⟩
  · exact ⟨_, _, [], .unfed (finishedUnfed_append_iff.mpr ⟨rfl, .inr ⟨rfl, hunfed⟩⟩),
      List.nil_subset _, hzero⟩
  · refine ⟨start, values, _, ?_, List.append_subset.mpr ⟨htaken, List.Subset.refl _⟩, hwiden⟩
    cases hbase with
    | fed h =>
      refine .fed fun hunfed => ?_
      rcases (finishedUnfed_append_iff.mp hunfed).2 with hunfed | ⟨-, hnone⟩
      · exact h hunfed
      · exact hsome hnone
    | unfed h => exact .unfed (finishedUnfed_append_iff.mpr ⟨rfl, .inl h⟩)

theorem FeedsWidened.of_keeps {next : Job} (h : FeedsWidened config steps job)
    (hkeeps : job.KeepsFeeds next) (hclears : s.clears = false) (hfinish : s ≠ .finish) :
    FeedsWidened config (steps ++ [s]) next := by
  obtain ⟨start, values, taken, hbase, htaken, hfeeds⟩ := h
  refine ⟨start, values, taken, hbase.of_iff ?_, List.Subset.trans htaken hkeeps.values,
    hkeeps.feeds.trans hfeeds⟩
  rw [finishedUnfed_append_iff]
  simp [hclears, hfinish]

theorem FeedsWidened.of_clears (hclears : s.clears = true) :
    FeedsWidened config (steps ++ [s]) (job.step config s) := by
  refine ⟨_, _, [], .fed fun h => ?_, List.nil_subset _, feeds_step_of_clears hclears⟩
  have hclears' := (finishedUnfed_append_iff.mp h).1
  rw [hclears] at hclears'
  cases hclears'

/-- After any steps the extremes of a job with finite feeds are widened by some of them. -/
theorem feedsWidened_run (config : Config) (steps : List JobStep)
    (hfinite : ∀ v ∈ (Job.new.run config steps).feedValues, v.isFinite) :
    FeedsWidened config steps (Job.new.run config steps) := by
  induction steps using List.reverseRecOn with
  | nil =>
    exact ⟨_, _, [], .fed not_finishedWhere_nil, List.nil_subset _, rfl⟩
  | append_singleton steps s ih =>
    have hrun : Job.new.run config (steps ++ [s]) = (Job.new.run config steps).step config s :=
      run_append config .new steps [s]
    rw [hrun] at hfinite ⊢
    cases hclears : s.clears with
    | true => exact .of_clears hclears
    | false =>
      by_cases hfinish : s = .finish
      · subst hfinish
        have hfinite' : ∀ v ∈ (Job.new.run config steps).feedValues, v.isFinite := by
          rwa [step, feedValues_finish] at hfinite
        exact (ih hfinite').finish hfinite'
      · have hkeeps := keepsFeeds_step ((Job.new.run config steps).stepsTo_step config s) hclears
          hfinish
        exact (ih fun v hv => hfinite v (hkeeps.values hv)).of_keeps hkeeps hclears hfinish

/-- When the extremes of a finished job are those of its feeds: exactly if it was not finished
without a feed before, since it was cleared last, or it still has no feed, or its feeds reach down
and up to zero. -/
theorem feeds_finish_iff (config : Config) (steps : List JobStep)
    (hfinite : ∀ v ∈ (Job.new.run config steps).feedValues, v.isFinite) :
    (Job.new.run config steps).finish.1.feeds.IsFeedExtentOf (Job.new.run config steps).feedValues ↔
      ¬ FinishedUnfed config steps ∨ (Job.new.run config steps).feedValues = [] ∨
        Encloses (Job.new.run config steps).feedValues 0.0 := by
  obtain ⟨start, values, taken, hbase, htaken, hfeeds⟩ := feedsWidened_run config steps hfinite
  generalize Job.new.run config steps = job at hfinite htaken hfeeds ⊢
  rcases feeds_finish_cases hbase.isExtentOf hbase.isFinite hfinite htaken hfeeds with
    ⟨-, hunfed, hzero⟩ | ⟨hsome, hwiden⟩
  · exact iff_of_true ⟨fun _ => hzero, fun h => absurd hunfed h⟩ (.inr (.inl hunfed))
  · have hextent : job.finish.1.feeds.IsExtentOf (values ++ job.feedValues) := by
      rw [hwiden]
      refine hbase.isExtentOf.foldl_widen.of_mem_iff fun v => ?_
      simp only [List.mem_append]
      have hmem := @htaken v
      tauto
    cases hbase with
    | fed h =>
      refine iff_of_true ⟨fun hnone => absurd hnone hsome, fun _ => hextent⟩ (.inl h)
    | unfed h =>
      by_cases hnone : job.feedValues = []
      · rw [hnone, List.subset_nil] at htaken
        rw [hnone, htaken] at hwiden
        exact iff_of_true ⟨fun _ => hwiden, fun h => absurd hnone h⟩ (.inr (.inl hnone))
      · rw [Span.isFeedExtentOf_iff hnone, hextent.append_iff, List.forall_mem_singleton]
        exact ⟨fun hzero => .inr (.inr hzero), fun hfed =>
          (hfed.resolve_left (not_not.mpr h)).resolve_left hnone⟩

/-- A job that is finished with a feed and gets another one. -/
def feedFirst : List JobStep :=
  [.start "a.nc", .append {} "G1 X1 F100", .finish, .append {} "G1 X2 F300"]

theorem feeds_finish_feedFirst :
    (∀ v ∈ (Job.new.run {} feedFirst).feedValues, v.isFinite) ∧
      (Job.new.run {} feedFirst).feedValues = [100.0, 300.0] ∧
      ((Job.new.run {} feedFirst).finish.1.feeds.IsFeedExtentOf
          (Job.new.run {} feedFirst).feedValues ↔
        ¬ FinishedUnfed {} feedFirst ∨ (Job.new.run {} feedFirst).feedValues = [] ∨
          Encloses (Job.new.run {} feedFirst).feedValues 0.0) :=
  ⟨by decide +kernel, by decide +kernel, feeds_finish_iff {} feedFirst (by decide +kernel)⟩

/-- A job that is finished without a feed and gets one afterwards. -/
def feedLast : List JobStep :=
  [.start "a.nc", .append {} "G0 X1", .finish, .append {} "G1 X2 F100"]

theorem not_isFeedExtentOf_feedLast :
    (Job.new.run {} feedLast).feedValues = [100.0] ∧
      (Job.new.run {} feedLast).finish.1.feeds = ⟨0.0, 100.0⟩ ∧
      ¬ (Job.new.run {} feedLast).finish.1.feeds.IsFeedExtentOf
        (Job.new.run {} feedLast).feedValues := by
  have hvalues : (Job.new.run {} feedLast).feedValues = [100.0] := by decide +kernel
  have hfeeds : (Job.new.run {} feedLast).finish.1.feeds = ⟨0.0, 100.0⟩ := by decide +kernel
  refine ⟨hvalues, hfeeds, fun h => ?_⟩
  -- the lower end is no feed
  have hextent := h.extent (by rw [hvalues]; exact List.cons_ne_nil _ _)
  rw [hvalues, hfeeds] at hextent
  have hnumber : ¬ (100.0 : Float).isNaN := by decide +kernel
  obtain ⟨⟨u, hu, hlow⟩, -⟩ := hextent.attained 100.0 (List.mem_singleton_self _) hnumber
  rw [List.mem_singleton.mp hu] at hlow
  exact absurd hlow (by decide +kernel)

/-! ### Loads -/

variable {setup : Setup} {policy : LoadPolicy} {last : Job} {name : String} {lines : List String}

theorem feeds_takeLine {next : Job} {text : String}
    (h : job.takeLine setup policy text = .ok next) : next.feeds = job.feeds := by
  unfold takeLine at h
  rw [append_eq] at h
  cases hread : job.program.readLine setup text with
  | ok result =>
    rw [hread] at h
    cases h
    rfl
  | error failure =>
    rw [hread] at h
    cases failure with
    | refused e =>
      dsimp only [Except.map] at h
      split at h
      · cases h
        rfl
      · cases h
    | notWhole fault | textualAxisCount => cases h

theorem feeds_takeLines {index : Nat}
    (h : takeLines setup policy index job lines = (last, none)) : last.feeds = job.feeds := by
  induction lines generalizing job index with
  | nil =>
    cases h
    rfl
  | cons text rest ih =>
    cases hkeep : policy.keepsRunning index with
    | false => simp [takeLines, hkeep] at h
    | true =>
      cases hline : job.takeLine setup policy text with
      | ok next =>
        rw [takeLines_of_ok hkeep hline] at h
        rw [ih h, feeds_takeLine hline]
      | error failure =>
        rw [takeLines_of_error hkeep hline] at h
        cases h

/-- A job that is finished for the first time gets the extremes of its feeds. -/
theorem isFeedExtentOf_finish (hempty : job.feeds = .empty)
    (hfinite : ∀ v ∈ job.feedValues, v.isFinite) :
    job.finish.1.feeds.IsFeedExtentOf job.feedValues := by
  rcases feeds_finish_cases Span.isExtentOf_empty nofun hfinite (List.nil_subset _) hempty with
    ⟨-, hunfed, hzero⟩ | ⟨hsome, hwiden⟩
  · exact ⟨fun _ => hzero, fun h => absurd hunfed h⟩
  · refine ⟨fun h => absurd h hsome, fun _ => ?_⟩
    rw [hwiden]
    exact Span.isExtentOf_foldl_widen job.feedValues

/-- After a load that is finished the extremes of the job are those of its feeds. -/
theorem isFeedExtentOf_loadLines {summary : Summary}
    (h : job.loadLines setup policy name lines = (last, .ok summary))
    (hfinite : ∀ v ∈ last.feedValues, v.isFinite) :
    last.feeds.IsFeedExtentOf last.feedValues := by
  unfold loadLines at h
  split at h
  next loaded hlines =>
    obtain ⟨rfl, -⟩ := Prod.mk.inj h
    rw [feedValues_finish] at hfinite ⊢
    exact isFeedExtentOf_finish (feeds_takeLines hlines) hfinite
  next => cases (Prod.mk.inj h).2

end Job

end NumericControl
