import NumericControl.Proofs.Job.History
import NumericControl.Proofs.Refusal.Program

/-!
# How a load ends

A load publishes the finished job, or it fails.  Where it is cancelled or a line is refused it
leaves an empty job.  A failure that is no refusal leaves the job in the middle of the load, and a
program that cannot be written in bytes is published without being told.

## Main definitions

* `Job.Loads` : a job in the middle of a load.
* `Job.IsEmptied` : a job of which everything was dropped, as was told last.
* `Job.Publishes` : a finished job, as was told last.
* `Job.PublishesSilently` : a finished job without figures, of which nothing was told.
* `Job.AllOrNothing` : a load that publishes the job or empties it.

## Main results

* `Job.Loads.takeLine` : a line that is taken keeps a job in the middle of its load.
* `Job.takeLines_cases` : how the lines of a load end.
* `Job.endsAs_loadLines` : how a load ends.
* `Job.loadLines_allOrNothing_iff` : when a load is all or nothing.
* `Job.isRefusal_of_loadLines` : it is where the words that have to be whole numbers are finite.
-/

namespace NumericControl

namespace Job

variable {setup : Setup} {policy : LoadPolicy} {job next : Job} {name text : String}

/-- A job in the middle of a load, of which nothing is published. -/
structure Loads (job : Job) (name : String) : Prop where
  loading : job.loading = true
  name : job.name = name
  snapshot : job.snapshot = .empty

/-- A job of which everything was dropped, as was told last. -/
structure IsEmptied (job : Job) : Prop where
  rows : job.rows = #[]
  program : job.program = .empty
  pending : job.pending = []
  snapshot : job.snapshot = .empty
  loading : job.loading = false
  event : job.events.back? = some (.changed "")

/-- A finished job with its figures, as was told last. -/
structure Publishes (job : Job) (name : String) (summary : Summary) : Prop where
  loading : job.loading = false
  snapshot : job.snapshot = ⟨name, job.rows, job.program.tokens, job.box, job.feeds⟩
  summary : job.summary = .ok summary
  event : job.events.back? = some (.changed name)

/-- A finished job that is published without being told: it has no figures, since its program cannot
be written in bytes. -/
structure PublishesSilently (job : Job) (name : String) (fault : EncodingFault) : Prop where
  loading : job.loading = false
  snapshot : job.snapshot = ⟨name, job.rows, job.program.tokens, job.box, job.feeds⟩
  fault : job.summary = .error fault

/-- A load that publishes the finished job or leaves an empty one. -/
def AllOrNothing (name : String) : Job × Except JobFault Summary → Prop
  | (last, .ok summary) => last.Publishes name summary
  | (last, .error _) => last.IsEmptied

theorem isEmptied_reset (job : Job) : job.reset.IsEmptied where
  rows := rfl
  program := rfl
  pending := rfl
  snapshot := rfl
  loading := rfl
  event := Array.back?_push

/-- A job in the middle of a load is not empty yet. -/
theorem Loads.not_isEmptied (h : job.Loads name) : ¬ job.IsEmptied := by
  intro hempty
  have hloading := h.loading
  rw [hempty.loading] at hloading
  cases hloading

/-- A job that cannot be written in bytes has rows. -/
theorem PublishesSilently.not_isEmptied {fault : EncodingFault}
    (h : job.PublishesSilently name fault) : ¬ job.IsEmptied := by
  intro hempty
  have hfault := h.fault
  rw [summary, storedLines, hempty.rows] at hfault
  cases hfault

/-- How a load ends of which all lines are taken. -/
theorem Loads.finish_cases (h : job.Loads name) :
    (∃ summary, job.finish.2 = .ok summary ∧ job.finish.1.Publishes name summary) ∨
      ∃ fault, job.finish.2 = .error fault ∧ job.finish.1.PublishesSilently name fault := by
  have hsnapshot : job.publish.snapshot =
      ⟨name, job.rows, job.program.tokens, job.publish.box, job.publish.feeds⟩ := by
    rw [← h.name]
    rfl
  rcases job.finish_cases with ⟨summary, hsummary, hfinish⟩ | ⟨fault, hfault, hfinish⟩
  · rw [hfinish]
    refine .inl ⟨summary, rfl, rfl, hsnapshot, hsummary, ?_⟩
    rw [← h.name]
    exact Array.back?_push
  · rw [hfinish]
    exact .inr ⟨fault, rfl, rfl, hsnapshot, hfault⟩

theorem loads_start (job : Job) (name : String) : (job.start name).Loads name :=
  ⟨rfl, rfl, rfl⟩

/-! ### One line -/

theorem Loads.addRow (h : job.Loads name) (text : String) (isFile endsProgram : Bool) :
    (job.addRow text isFile endsProgram).Loads name := by
  unfold Job.addRow
  simp only [h.loading, if_true]
  exact ⟨rfl, h.name, h.snapshot⟩

theorem Loads.flush (h : job.Loads name) : job.flush.Loads name := by
  unfold Job.flush
  have hstart : ({ job with pending := [] } : Job).Loads name := ⟨h.loading, h.name, h.snapshot⟩
  generalize ({ job with pending := [] } : Job) = first at hstart
  induction job.pending generalizing first with
  | nil => exact hstart
  | cons text rest ih => exact ih _ (hstart.addRow text false false)

theorem Loads.append (h : job.Loads name) {handled : Bool}
    (hline : job.append setup text = .ok (next, handled)) : next.Loads name := by
  obtain ⟨⟨program, belongs⟩, -, hline⟩ := bind_eq_ok_iff.mp hline
  have hprogram : ({ job with program } : Job).Loads name := ⟨h.loading, h.name, h.snapshot⟩
  dsimp only at hline
  split at hline
  · cases hline
    exact (hprogram.addRow _ _ _).flush
  · cases hline
    exact hprogram

/-- A line that is taken, and skipped if it is refused, keeps a job in the middle of its load. -/
theorem Loads.takeLine (h : job.Loads name) (hline : job.takeLine setup policy text = .ok next) :
    next.Loads name := by
  unfold Job.takeLine at hline
  split at hline
  · cases hline
    exact h.append ‹_›
  · split at hline
    · cases hline
      exact ⟨h.loading, h.name, h.snapshot⟩
    · cases hline
  · cases hline

/-- A line that ends the load by a failure is not read for the same failure. -/
theorem readLine_of_takeLine {failure : Failure}
    (hline : job.takeLine setup policy text = .error failure) :
    job.program.readLine setup text = .error failure := by
  have happend : job.append setup text = .error failure := by
    unfold takeLine at hline
    split at hline
    · cases hline
    · split at hline
      · cases hline
      · cases hline
        assumption
    · cases hline
      assumption
  unfold append at happend
  cases hread : job.program.readLine setup text with
  | error failure' =>
    rw [hread] at happend
    cases happend
    rfl
  | ok result =>
    rw [hread] at happend
    dsimp only [bind, Except.bind] at happend
    split at happend <;> cases happend

/-- A line whose reading fails without a refusal ends the load. -/
theorem takeLine_of_readLine {failure : Failure} (hfailure : ¬ failure.IsRefusal)
    (hread : job.program.readLine setup text = .error failure) :
    job.takeLine setup policy text = .error failure := by
  have happend : job.append setup text = .error failure := by
    rw [append, hread]
    rfl
  rw [takeLine, happend]
  cases failure with
  | refused e => exact absurd ⟨e, rfl⟩ hfailure
  | notWhole fault => rfl
  | textualAxisCount => rfl

/-! ### All lines -/

/-- Only a refusal empties the job. -/
theorem abandon_of_not_isRefusal {failure : Failure} (h : ¬ failure.IsRefusal) :
    job.abandon failure = job := by
  cases failure with
  | refused e => exact absurd ⟨e, rfl⟩ h
  | notWhole fault => rfl
  | textualAxisCount => rfl

theorem takeLines_of_ok {index : Nat} {rest : List String}
    (hkeep : policy.keepsRunning index = true)
    (hline : job.takeLine setup policy text = .ok next) :
    takeLines setup policy index job (text :: rest) =
      takeLines setup policy (index + 1) next rest := by
  simp only [takeLines, hkeep, hline, Bool.not_true, Bool.false_eq_true, if_false]

theorem takeLines_of_error {index : Nat} {rest : List String} {failure : Failure}
    (hkeep : policy.keepsRunning index = true)
    (hline : job.takeLine setup policy text = .error failure) :
    takeLines setup policy index job (text :: rest) =
      (job.abandon failure, some (.line failure)) := by
  simp only [takeLines, hkeep, hline, Bool.not_true, Bool.false_eq_true, if_false]

/-- How the lines of a load end: all are taken, or the job is emptied, or a line that fails
without a refusal stops the load where it is. -/
inductive TakesAs (setup : Setup) (name : String) (lines : List String) :
    Job × Option JobFault → Prop
  | taken {last : Job} (loads : last.Loads name) : TakesAs setup name lines (last, none)
  | cancelled {last : Job} {rows : Nat} (emptied : last.IsEmptied) :
      TakesAs setup name lines (last, some (.cancelled rows))
  | refused {last : Job} {e : ParseError} (emptied : last.IsEmptied) :
      TakesAs setup name lines (last, some (.line (.refused e)))
  | failed {last : Job} {failure : Failure} (loads : last.Loads name)
      (noRefusal : ¬ failure.IsRefusal)
      (read : ∃ text ∈ lines, last.program.readLine setup text = .error failure) :
      TakesAs setup name lines (last, some (.line failure))

/-- One more line in front changes nothing of how the lines end. -/
theorem TakesAs.cons {lines : List String} {result : Job × Option JobFault}
    (h : TakesAs setup name lines result) (text : String) :
    TakesAs setup name (text :: lines) result := by
  cases h with
  | taken loads => exact .taken loads
  | cancelled emptied => exact .cancelled emptied
  | refused emptied => exact .refused emptied
  | failed loads noRefusal read =>
    obtain ⟨other, hother, hread⟩ := read
    exact .failed loads noRefusal ⟨other, List.mem_cons_of_mem text hother, hread⟩

theorem takeLines_cases (setup : Setup) (policy : LoadPolicy) (h : job.Loads name)
    (lines : List String) (index : Nat) :
    TakesAs setup name lines (takeLines setup policy index job lines) := by
  induction lines generalizing job index with
  | nil => exact .taken h
  | cons text rest ih =>
    cases hkeep : policy.keepsRunning index with
    | false =>
      simp only [takeLines, hkeep, Bool.not_false, if_true]
      exact .cancelled job.isEmptied_reset
    | true =>
      cases hline : job.takeLine setup policy text with
      | ok next =>
        rw [takeLines_of_ok hkeep hline]
        exact (ih (h.takeLine hline) (index + 1)).cons text
      | error failure =>
        rw [takeLines_of_error hkeep hline]
        by_cases hrefusal : failure.IsRefusal
        · obtain ⟨e, rfl⟩ := hrefusal
          exact .refused job.isEmptied_reset
        · rw [abandon_of_not_isRefusal hrefusal]
          exact .failed h hrefusal ⟨text, List.mem_cons_self, readLine_of_takeLine hline⟩

/-- How the result of a load and its job belong together: the finished job is published, or the job
is emptied, or it is left in the middle of the load by a line that fails without a refusal, or it is
published without being told. -/
inductive EndsAs (setup : Setup) (name : String) (lines : List String) (last : Job) :
    Except JobFault Summary → Prop
  | published {summary : Summary} (publishes : last.Publishes name summary) :
      EndsAs setup name lines last (.ok summary)
  | cancelled {rows : Nat} (emptied : last.IsEmptied) :
      EndsAs setup name lines last (.error (.cancelled rows))
  | refused {e : ParseError} (emptied : last.IsEmptied) :
      EndsAs setup name lines last (.error (.line (.refused e)))
  | failed {failure : Failure} (loads : last.Loads name) (noRefusal : ¬ failure.IsRefusal)
      (read : ∃ text ∈ lines, last.program.readLine setup text = .error failure) :
      EndsAs setup name lines last (.error (.line failure))
  | silent {fault : EncodingFault} (publishes : last.PublishesSilently name fault) :
      EndsAs setup name lines last (.error (.notEncodable fault))

theorem endsAs_loadLines (setup : Setup) (policy : LoadPolicy) (job : Job) (name : String)
    (lines : List String) :
    EndsAs setup name lines (job.loadLines setup policy name lines).1
      (job.loadLines setup policy name lines).2 := by
  unfold loadLines
  have htake := takeLines_cases setup policy (job.loads_start name) lines 0
  generalize takeLines setup policy 0 (job.start name) lines = taken at htake ⊢
  cases htake with
  | taken loads =>
    rcases loads.finish_cases with ⟨summary, hfigures, hpublishes⟩ | ⟨fault, hfigures, hsilent⟩
    · simp only [hfigures, Except.mapError]
      exact .published hpublishes
    · simp only [hfigures, Except.mapError]
      exact .silent hsilent
  | cancelled emptied => exact .cancelled emptied
  | refused emptied => exact .refused emptied
  | failed loads noRefusal read => exact .failed loads noRefusal read

/-- Where the words that have to be whole numbers are finite, only refusals end a load at a line. -/
theorem isRefusal_of_loadLines (hcount : setup.config.axisCountIsText = false) {lines : List String}
    (hfinite : ∀ text ∈ lines, HasFiniteWholes text) {failure : Failure}
    (h : (job.loadLines setup policy name lines).2 = .error (.line failure)) :
    failure.IsRefusal := by
  have hends := endsAs_loadLines setup policy job name lines
  rw [h] at hends
  cases hends with
  | refused => exact ⟨_, rfl⟩
  | failed _ noRefusal read =>
    obtain ⟨text, htext, hread⟩ := read
    exact absurd (Program.failsOnly_readLine hcount (hfinite text htext) _ failure hread) noRefusal

/-- A load is all or nothing exactly if no line ends it without a refusal and its program can be
written in bytes. -/
theorem loadLines_allOrNothing_iff (setup : Setup) (policy : LoadPolicy) (job : Job) (name : String)
    (lines : List String) :
    AllOrNothing name (job.loadLines setup policy name lines) ↔
      (∀ failure, (job.loadLines setup policy name lines).2 = .error (.line failure) →
        failure.IsRefusal) ∧
      ∀ fault, (job.loadLines setup policy name lines).2 ≠ .error (.notEncodable fault) := by
  have hends := endsAs_loadLines setup policy job name lines
  generalize job.loadLines setup policy name lines = result at hends ⊢
  obtain ⟨last, outcome⟩ := result
  cases hends with
  | published publishes => exact iff_of_true publishes ⟨nofun, nofun⟩
  | cancelled emptied => exact iff_of_true emptied ⟨nofun, nofun⟩
  | refused emptied =>
    refine iff_of_true emptied ⟨?_, nofun⟩
    rintro failure ⟨⟩
    exact ⟨_, rfl⟩
  | failed loads noRefusal => exact iff_of_false loads.not_isEmptied fun h => noRefusal (h.1 _ rfl)
  | silent publishes => exact iff_of_false publishes.not_isEmptied fun h => h.2 _ rfl

/-- A program whose second line has a code that is too large. -/
def hugeSecond : List String :=
  ["G0 X1", hugeCode]

theorem not_allOrNothing_hugeSecond :
    ∃ last failure, Job.new.loadLines {} {} "a.nc" hugeSecond = (last, .error (.line failure)) ∧
      last.rows.size = 1 ∧ last.loading = true ∧
      ¬ AllOrNothing "a.nc" (Job.new.loadLines {} {} "a.nc" hugeSecond) := by
  have hfirst : ((Job.new.start "a.nc").takeLine {} {} "G0 X1").toOption.map (fun job =>
      (job.rows.size, job.loading, job.program.state.programEnd)) = some (1, true, false) := by
    decide +kernel
  obtain ⟨next, hline, hnext⟩ := map_toOption_eq_some_iff.mp hfirst
  simp only [Prod.mk.injEq] at hnext
  obtain ⟨hrows, hloading, hend⟩ := hnext
  obtain ⟨line, w, hread, hwords, hletter, hvalue⟩ := exists_read_hugeCode
  have hhuge : next.program.readLine {} hugeCode = .error (.notWhole .infinity) :=
    Program.readLine_of_not_finite {} hread hend hwords (.inl hletter) hvalue
  have hfailure : ¬ (Failure.notWhole .infinity).IsRefusal := by
    rintro ⟨e, he⟩
    cases he
  have hload : Job.new.loadLines {} {} "a.nc" hugeSecond =
      (next, .error (.line (.notWhole .infinity))) := by
    rw [loadLines, hugeSecond, takeLines_of_ok rfl hline,
      takeLines_of_error rfl (takeLine_of_readLine hfailure hhuge),
      abandon_of_not_isRefusal hfailure]
  refine ⟨next, _, hload, hrows, hloading, ?_⟩
  rw [hload]
  intro hempty
  have hfalse := hempty.loading
  rw [hloading] at hfalse
  cases hfalse

end Job

end NumericControl
