import NumericControl.CommandLine.Run
import NumericControl.Proofs.Settings.Checked
import NumericControl.Proofs.Settings.Saving

/-!
# The settings file of a run

A run reads the settings, lays its options over a copy of them and saves the settings themselves, at
its very end and only if everything before went well.  So the options of one run never become
defaults: a run that fails or validates leaves the settings file as it is, and what any other run
saves is told by the settings that were there, the program file and the current directory.

## Main definitions

* `Settings.loadedData` : the values that a run starts from.
* `Settings.Remembers` : settings that differ in the recent files only.
* `KeepsOrSaves`, `EndsInSave` : runs that leave the settings file as it is, or save known settings
  at their end.

## Main results

* `endsInSave_runWith`, `touchesOnly_runWith` : what a run does that loads a job, and what one that
  validates.
* `runCommand_settings` : what a run does to the settings file, whatever its options.
* `runCommand_removes_settings` : an export whose temporary file is the settings file.
-/

namespace NumericControl

open FileTree Disk

variable {current place : Place} {places : Set Place}

/-! ### What changes no file -/

theorem Settings.touchesOnly_load (s : Settings) :
    TouchesOnly current ∅ (s.load (m := StateM Disk)) := by
  rw [load]
  refine (touchesOnly_kind? _).bind fun kind? => ?_
  rcases kind? with _ | _ | _
  · exact .pure _
  · exact .pure _
  · refine (touchesOnly_read _).bind fun content => ?_
    cases content <;> exact .pure _

theorem touchesOnly_firstDirectory? (paths : List Path) :
    TouchesOnly current ∅ (firstDirectory? (m := StateM Disk) paths) := by
  induction paths with
  | nil => exact .pure _
  | cons path rest ih =>
    refine (touchesOnly_makeDirectories path).bind fun made => ?_
    cases made with
    | ok _ => exact .pure _
    | error _ => exact ih

theorem Settings.touchesOnly_newAt (e : Environment) (path? : Option String) :
    TouchesOnly current ∅ (newAt (m := StateM Disk) e path?) := by
  rw [newAt]
  split
  · exact .pure _
  · refine TouchesOnly.bind ?_ fun path => .pure _
    refine (touchesOnly_firstDirectory? e.candidates).bind fun directory? => ?_
    cases directory? with
    | some directory => exact .pure _
    | none => exact touchesOnly_currentDirectory.bind fun _ => .pure _

theorem touchesOnly_readProgram (path : String) :
    TouchesOnly current ∅ (readProgram (m := StateM Disk) path) :=
  (touchesOnly_read path).bind fun _ => .pure _

theorem touchesOnly_loadFile {setup : Setup} {policy : LoadPolicy} {job : Job} (path : String) :
    TouchesOnly current ∅ (job.loadFile (m := StateM Disk) setup policy path) :=
  (touchesOnly_readProgram path).bind fun _ => .pure _

theorem touchesOnly_runValidation (o : Options) (config : Config) :
    TouchesOnly current ∅ (runValidation (m := StateM Disk) o config) := by
  refine (touchesOnly_readProgram o.file).bind fun lines => ?_
  rcases lines with fault | lines
  · dsimp only
    split <;> exact .pure _
  · dsimp only
    split <;> exact .pure _

/-- The export of tokens changes what a replacement of its file can change. -/
theorem touchesOnly_saveRecords (path : String) (records : List Record) :
    TouchesOnly current ((Path.ofText path).replacementPlaces current none)
      (saveRecords (m := StateM Disk) path records) := by
  rw [saveRecords]
  split
  · exact .pure _
  · exact (touchesOnly_writeAtomic _ _ none).bind fun _ => .pure _

/-! ### What is remembered -/

/-- The values that a run starts from: those of the settings file, or the defaults. -/
def Settings.loadedData : Except LoadFault (Option Settings) → Members
  | .ok (some loaded) => loaded.data
  | _ => defaults

/-- Settings that have the place and the values of others, the recent files and the directory of
the latest aside. -/
structure Settings.Remembers (saved loaded : Settings) : Prop where
  path : saved.path = loaded.path
  values : ∀ key : Key, key ≠ "recent_files" → key ≠ "last_gcode_dir" →
    Members.get? key saved.data = Members.get? key loaded.data

theorem Settings.remembers_of_addRecent {s saved : Settings} {directory : String} {path : RawText}
    (h : s.addRecent directory path = .ok saved) : saved.Remembers s := by
  obtain ⟨items, -, hsaved⟩ := bind_eq_ok_iff.mp h
  cases hsaved
  refine ⟨rfl, fun key hlist hdirectory => ?_⟩
  rw [setItem, setItem, Members.get?_insert_of_ne hdirectory, Members.get?_insert_of_ne hlist]

/-! ### Runs that save at their end -/

/-- What a run does to the settings file at a place, where it may save the given settings: without
success nothing, and otherwise nothing before it saves them at its end. -/
structure KeepsOrSaves (place : Place) (remembered : Except RecentFault Settings) (d : Disk)
    (r : RunResult) (d' : Disk) : Prop where
  keeps : r.exit ≠ .ok 0 → d'.tree.file? place = d.tree.file? place
  saves : r.exit = .ok 0 → ∃ saved before outcome, remembered = .ok saved ∧
    before.tree.file? place = d.tree.file? place ∧
    (saved.save (m := StateM Disk)).run before = (outcome, d') ∧
    (outcome = .ok () → d'.tree.file? place = some (Settings.render saved.data).toUTF8)

/-- Steps that leave the settings file as it is do not matter to what the rest does. -/
theorem KeepsOrSaves.after {remembered : Except RecentFault Settings} {d d₁ d' : Disk}
    {r : RunResult} (h : KeepsOrSaves place remembered d₁ r d')
    (hsame : d₁.tree.file? place = d.tree.file? place) : KeepsOrSaves place remembered d r d' where
  keeps hexit := (h.keeps hexit).trans hsame
  saves hexit := by
    obtain ⟨saved, before, outcome, hsaved, hbefore, hend⟩ := h.saves hexit
    exact ⟨saved, before, outcome, hsaved, hbefore.trans hsame, hend⟩

/-- Programs that leave the settings file as it is, or save the given settings at their end. -/
def EndsInSave (current place : Place) (remembered : Except RecentFault Settings)
    (x : StateM Disk RunResult) : Prop :=
  ∀ d, d.tree.current = current → KeepsOrSaves place remembered d (x.run d).1 (x.run d).2

namespace EndsInSave

variable {remembered : Except RecentFault Settings} {α : Type}

theorem pure {r : RunResult} (h : r.exit ≠ .ok 0) :
    EndsInSave current place remembered (pure r) :=
  fun _ _ => ⟨fun _ => rfl, fun hexit => absurd hexit h⟩

/-- Steps before the end may change other files. -/
theorem bind {x : StateM Disk α} {f : α → StateM Disk RunResult}
    (hx : TouchesOnly current places x) (hplace : place ∉ places)
    (hf : ∀ a, EndsInSave current place remembered (f a)) :
    EndsInSave current place remembered (x >>= f) := by
  intro d hcurrent
  have hfirst := hx d hcurrent
  have hrest := hf (x.run d).1 (x.run d).2 (hfirst.current.trans hcurrent)
  exact hrest.after (hfirst.files place hplace)

end EndsInSave

/-- The settings that a run with a program file leaves behind. -/
def Settings.remembered (settings : Settings) (current : Place) (file : String) :
    Except RecentFault Settings :=
  settings.addRecent ("/" ++ "/".intercalate current) (.ofStandIns file)

section

variable {settings : Settings} (hplace : placeOf current (Path.ofText settings.path).text = place)

include hplace

theorem endsInSave_saveRecent (file output errors : String) :
    EndsInSave current place (settings.remembered current file)
      (saveRecent (m := StateM Disk) settings file output errors) := by
  intro d hcurrent
  have hdirectory : (FileAccess.currentDirectory (m := StateM Disk)).run d =
      ("/" ++ "/".intercalate current, d) := by
    rw [← hcurrent]
    rfl
  rw [saveRecent, run_bind, hdirectory]
  cases hremembered : settings.remembered current file with
  | error fault =>
    rw [Settings.remembered] at hremembered
    simp only [hremembered]
    exact EndsInSave.pure (by simp) d hcurrent
  | ok saved =>
    have hpath := (Settings.remembers_of_addRecent hremembered).path
    rw [Settings.remembered] at hremembered
    simp only [hremembered]
    refine ⟨fun hexit => absurd rfl hexit, fun _ => ?_⟩
    refine ⟨saved, d, _, rfl, rfl, rfl, fun houtcome => ?_⟩
    rw [← hplace, ← hpath, ← hcurrent]
    exact (Settings.read_of_save (Prod.ext houtcome rfl)).2

/-- An export comes before the settings are saved. -/
theorem endsInSave_finishRun {o : Options} (job : Job) (output errors : String)
    (hexport : ∀ path, nonEmpty o.exportTokens? = some path →
      place ∉ (Path.ofText path).replacementPlaces current none) :
    EndsInSave current place (settings.remembered current o.file)
      (finishRun (m := StateM Disk) o settings job output errors) := by
  rw [finishRun]
  split
  · exact endsInSave_saveRecent hplace o.file output errors
  · next path hpath =>
    refine EndsInSave.bind (touchesOnly_saveRecords path _) (hexport path hpath) fun exported => ?_
    cases exported with
    | error fault => exact .pure (by simp)
    | ok _ => exact endsInSave_saveRecent hplace o.file output errors

/-- Whatever the settings of the run, those that are saved are the ones that were read. -/
theorem endsInSave_runJob {o : Options} (run : Settings) (config : Config)
    (hexport : ∀ path, nonEmpty o.exportTokens? = some path →
      place ∉ (Path.ofText path).replacementPlaces current none) :
    EndsInSave current place (settings.remembered current o.file)
      (runJob (m := StateM Disk) o settings run config) := by
  rw [runJob]
  refine EndsInSave.bind (touchesOnly_loadFile o.file) (Set.notMem_empty place) fun result => ?_
  obtain ⟨job, fault | summary⟩ := result
  · dsimp only
    split
    · exact .pure (by simp)
    · exact .pure (by simp [RunResult.refused])
  · dsimp only
    split
    · split <;> exact endsInSave_finishRun hplace job _ _ hexport
    · exact endsInSave_finishRun hplace job _ _ hexport

/-- A run with settings that are read saves them at its end, if it saves anything. -/
theorem endsInSave_runWith {o : Options} (hvalidate : o.validate = false)
    (hexport : ∀ path, nonEmpty o.exportTokens? = some path →
      place ∉ (Path.ofText path).replacementPlaces current none) :
    EndsInSave current place (settings.remembered current o.file)
      (runWith (m := StateM Disk) o settings) := by
  rw [runWith]
  split
  · exact .pure (by simp)
  · dsimp only
    split
    · exact .pure (by split <;> simp [RunResult.refused])
    · rw [hvalidate]
      exact endsInSave_runJob hplace _ _ hexport

end

theorem touchesOnly_runWith {o : Options} (settings : Settings) (hvalidate : o.validate = true) :
    TouchesOnly current ∅ (runWith (m := StateM Disk) o settings) := by
  rw [runWith]
  split
  · exact .pure _
  · dsimp only
    split
    · exact .pure _
    · rw [hvalidate]
      exact touchesOnly_runValidation o _

/-! ### The whole run -/

variable {e : Environment} {settings? : Option String} {fresh : Settings} {d d₀ d₁ : Disk}
  {loaded : Except LoadFault (Option Settings)}

theorem Settings.newAt_eq (h : (newAt (m := StateM Disk) e settings?).run d = (fresh, d₀)) :
    fresh = new fresh.path := by
  rw [newAt] at h
  split at h
  · cases h
    rfl
  · rw [run_bind] at h
    cases h
    rfl

/-- A run starts from the values of the settings file, or from the defaults where a fault is
foreseen. -/
theorem run_loadedOrDefault (hfresh : fresh = .new fresh.path)
    (hload : (fresh.load (m := StateM Disk)).run d₀ = (loaded, d₁))
    (hforeseen : ∀ fault, loaded = .error fault → fault.isForeseen = true) :
    (loadedOrDefault (m := StateM Disk) fresh).run d₀ =
      (.ok ⟨fresh.path, Settings.loadedData loaded⟩, d₁) := by
  rw [loadedOrDefault, run_bind, hload]
  rcases loaded with fault | _ | found
  · simp only [hforeseen fault rfl, if_true]
    rw [hfresh]
    rfl
  · rw [hfresh]
    rfl
  · obtain ⟨content, members, -, rfl⟩ := Settings.load_eq_ok hload
    rfl

/-- Without a log directory a run reads the settings first. -/
theorem run_runCommand {o : Options} (hlogs : nonEmpty o.logDirectory? = none)
    (hnew : (Settings.newAt (m := StateM Disk) e o.settings?).run d = (fresh, d₀))
    (hload : (fresh.load (m := StateM Disk)).run d₀ = (loaded, d₁))
    (hforeseen : ∀ fault, loaded = .error fault → fault.isForeseen = true) :
    (runCommand (m := StateM Disk) e o).run d =
      (runWith (m := StateM Disk) o ⟨fresh.path, Settings.loadedData loaded⟩).run d₁ := by
  rw [runCommand, hlogs]
  simp only [pure_bind, run_bind, hnew,
    run_loadedOrDefault (Settings.newAt_eq hnew) hload hforeseen]

/-- With settings that describe a configuration a run goes on to the program file. -/
theorem runWith_of_config {o : Options} {settings : Settings} {data : Members} {config : Config}
    (hcopied : settings.copied? = some data)
    (hconfig : (Settings.withOptions { settings with data } o).config = .ok config) :
    runWith (m := StateM Disk) o settings =
      if o.validate then runValidation o config
      else runJob o settings (Settings.withOptions { settings with data } o) config := by
  rw [runWith, hcopied]
  simp only [hconfig]

/-! ### Runs of an empty program -/

section

variable {t : FileTree} {path : String}

/-- An empty program is loaded without a fault. -/
theorem run_loadFile_empty (setup : Setup) (policy : LoadPolicy)
    (hplace : t.locate path = .ok place) (hempty : t.entry? place = some (.file .empty)) :
    ∃ summary, (Job.new.loadFile (m := StateM Disk) setup policy path).run ⟨t, []⟩ =
      (((Job.new.start path).finish.1, .ok summary), ⟨t, []⟩) := by
  have hread := run_read_of_locate hplace hempty
  have hlines : programLines .empty = [] := by decide +kernel
  obtain ⟨summary, hfigures⟩ : ∃ summary, (Job.new.start path).finish.2 = .ok summary := ⟨_, rfl⟩
  have hload : Job.new.loadLines setup policy path [] =
      ((Job.new.start path).finish.1, .ok summary) := by
    simp only [Job.loadLines, Job.takeLines, hfigures, Except.mapError]
  refine ⟨summary, ?_⟩
  rw [← hload, Job.loadFile, readProgram]
  simp only [run_bind, hread, StateT.run_pure, Except.map, hlines]
  rfl

/-- A run of an empty program that draws no path goes to its end. -/
theorem run_runJob_empty {o : Options} (settings run : Settings) (config : Config)
    (htoolpath : o.toolpath = false) (hplace : t.locate o.file = .ok place)
    (hempty : t.entry? place = some (.file .empty)) :
    ∃ output errors, (runJob (m := StateM Disk) o settings run config).run ⟨t, []⟩ =
      (finishRun (m := StateM Disk) o settings (Job.new.start o.file).finish.1 output
        errors).run ⟨t, []⟩ := by
  obtain ⟨summary, hload⟩ := run_loadFile_empty ⟨config, {}⟩ _ hplace hempty
  rw [runJob, run_bind, hload]
  simp only [htoolpath]
  exact ⟨_, _, rfl⟩

/-- A run that comes to remember its program file succeeds, whether the settings can be saved or
not. -/
theorem exit_saveRecent {settings saved : Settings} {file output errors : String}
    (h : settings.remembered d.tree.current file = .ok saved) :
    ((saveRecent (m := StateM Disk) settings file output errors).run d).1.exit = .ok 0 := by
  have hdirectory : (FileAccess.currentDirectory (m := StateM Disk)).run d =
      ("/" ++ "/".intercalate d.tree.current, d) := rfl
  rw [Settings.remembered] at h
  rw [saveRecent, run_bind, hdirectory]
  simp only [h]
  rfl

end

/-! ### The settings file -/

/-- **What a run does to the settings file.** There may be a settings file or none, and what it
holds may be of no use; operations of the disk may fail at any time.  A run that validates leaves
the settings file as it is, and so does one that does not succeed.  Any other run leaves it as it is
until it saves settings at its very end, and these are known before its options are: the settings
that were read, or else the defaults, with the program file among the recent ones.  The options are
any, but there is no log directory, and an export neither takes the place of the settings file nor
writes its temporary file there. -/
theorem runCommand_settings (file : String)
    (hnew : (Settings.newAt (m := StateM Disk) e settings?).run d = (fresh, d₀))
    (hload : (fresh.load (m := StateM Disk)).run d₀ = (loaded, d₁))
    (hforeseen : ∀ fault, loaded = .error fault → fault.isForeseen = true) :
    let place := placeOf d.tree.current (Path.ofText fresh.path).text
    ∃ remembered : Except RecentFault Settings,
      (∀ saved, remembered = .ok saved →
        saved.Remembers ⟨fresh.path, Settings.loadedData loaded⟩) ∧
      ∀ o : Options, o.file = file → o.settings? = settings? → nonEmpty o.logDirectory? = none →
        (∀ path, nonEmpty o.exportTokens? = some path →
          place ∉ (Path.ofText path).replacementPlaces d.tree.current none) →
        ∀ r d', (runCommand (m := StateM Disk) e o).run d = (r, d') →
          (o.validate = true → d'.tree.file? place = d.tree.file? place) ∧
          (o.validate = false → KeepsOrSaves place remembered d r d') := by
  intro place
  refine ⟨Settings.remembered ⟨fresh.path, Settings.loadedData loaded⟩ d.tree.current file,
    fun saved => Settings.remembers_of_addRecent, ?_⟩
  rintro o rfl rfl hlogs hexport r d' hrun
  rw [run_runCommand hlogs hnew hload hforeseen] at hrun
  -- up to here nothing was written
  have hstart : AgreesOff ∅ d.tree d₁.tree := by
    have hmade := Settings.touchesOnly_newAt e o.settings? d rfl
    have hread := fresh.touchesOnly_load d₀ rfl
    rw [hnew] at hmade
    rw [hload] at hread
    exact hmade.trans hread
  have hsame := hstart.files place (Set.notMem_empty place)
  constructor
  · intro hvalidate
    have hrest := touchesOnly_runWith ⟨fresh.path, Settings.loadedData loaded⟩ hvalidate d₁ rfl
    rw [hrun] at hrest
    exact (hrest.files place (Set.notMem_empty place)).trans hsame
  · intro hvalidate
    have hplace : placeOf d.tree.current
        (Path.ofText (Settings.mk fresh.path (Settings.loadedData loaded)).path).text = place := rfl
    have hrest := endsInSave_runWith hplace hvalidate hexport d₁ hstart.current
    rw [hrun] at hrest
    exact hrest.after hsame

/-- An empty program. -/
def programTree : FileTree :=
  { entries := [(["p"], .file .empty)] }

/-- A run of the empty program that goes on after errors, with settings that have no file yet. -/
def continuingOptions : Options :=
  { file := "p", settings? := some "s", continueOnError := true }

theorem run_load_programTree :
    ((Settings.new "s").load (m := StateM Disk)).run ⟨programTree, []⟩ =
      (.ok none, ⟨programTree, []⟩) := by
  have hplace : programTree.locate (Path.ofText "s").text = .ok ["s"] :=
    locate_text_of_isFileName (by decide) rfl
  have hkind := run_kind?_of_locate hplace (by rfl : programTree.kindAt? ["s"] = none)
  have hpath : (Settings.new "s").path = "s" := rfl
  rw [Settings.load, hpath, run_bind, hkind]
  rfl

/-- The settings of this run. -/
theorem exists_config_continuing :
    ∃ config, (Settings.withOptions (.new "s") continuingOptions).config = .ok config := by
  have hdata : (Settings.withOptions (.new "s") continuingOptions).data =
      Members.insert "continue_on_error" (.bool true) Settings.defaults := by
    change ((Settings.new "s").set "continue_on_error" (.bool true)).data = _
    rw [Settings.set, RawText.dottedParts_text]
    decide +kernel
  have hrun : Settings.withOptions (.new "s") continuingOptions =
      ⟨"s", Members.insert "continue_on_error" (.bool true) Settings.defaults⟩ :=
    congrArg (Settings.mk "s") hdata
  rw [hrun]
  exact Settings.exists_config_of_validate rfl

theorem exit_runCommand_continuing :
    ((runCommand (m := StateM Disk) { home := "/" } continuingOptions).run
      ⟨programTree, []⟩).1.exit = .ok 0 := by
  have hnew : (Settings.newAt (m := StateM Disk) { home := "/" } continuingOptions.settings?).run
      ⟨programTree, []⟩ = (.new "s", ⟨programTree, []⟩) := rfl
  have hprogram : programTree.locate continuingOptions.file = .ok ["p"] :=
    locate_of_isFileName (by decide) rfl
  obtain ⟨config, hconfig⟩ := exists_config_continuing
  obtain ⟨output, errors, hjob⟩ := run_runJob_empty (.new "s")
    (Settings.withOptions (.new "s") continuingOptions) config
    (by rfl : continuingOptions.toolpath = false) hprogram rfl
  have hwith : runWith (m := StateM Disk) continuingOptions (.new "s") =
      runJob continuingOptions (.new "s") (Settings.withOptions (.new "s") continuingOptions)
        config :=
    runWith_of_config rfl hconfig
  have hread : Settings.mk (Settings.new "s").path (Settings.loadedData (.ok none)) = .new "s" :=
    rfl
  have hlast : nonEmpty continuingOptions.exportTokens? = none := rfl
  obtain ⟨saved, hsaved⟩ : ∃ saved, (Settings.new "s").remembered [] "p" = .ok saved := ⟨_, rfl⟩
  rw [run_runCommand rfl hnew run_load_programTree nofun, hread, hwith, hjob, finishRun, hlast]
  exact exit_saveRecent hsaved

theorem runCommand_settings_continuing :
    (Settings.newAt (m := StateM Disk) { home := "/" } (some "s")).run ⟨programTree, []⟩ =
        (.new "s", ⟨programTree, []⟩) ∧
      ((Settings.new "s").load (m := StateM Disk)).run ⟨programTree, []⟩ =
        (.ok none, ⟨programTree, []⟩) ∧
      ∃ (r : RunResult) (d' : Disk) (saved : Settings) (before : Disk)
        (outcome : Except Settings.SettingsWriteFault Unit),
        (runCommand (m := StateM Disk) { home := "/" } continuingOptions).run ⟨programTree, []⟩ =
          (r, d') ∧ r.exit = .ok 0 ∧ (saved.save (m := StateM Disk)).run before = (outcome, d') ∧
        Members.get? "continue_on_error" saved.data = some (.bool false) := by
  have hnew : (Settings.newAt (m := StateM Disk) { home := "/" } (some "s")).run
      ⟨programTree, []⟩ = (.new "s", ⟨programTree, []⟩) := rfl
  obtain ⟨remembered, hvalues, hruns⟩ :=
    runCommand_settings "p" hnew run_load_programTree nofun
  have hends := (hruns continuingOptions rfl rfl rfl nofun _ _ rfl).2 rfl
  obtain ⟨saved, before, outcome, hsaved, -, hsave, -⟩ :=
    hends.saves exit_runCommand_continuing
  refine ⟨hnew, run_load_programTree, _, _, saved, before, outcome, rfl,
    exit_runCommand_continuing, hsave, ?_⟩
  exact (hvalues saved hsaved).values _ (by decide) (by decide)

/-- A directory `a`, and a settings file with the name of the file that is written first in its
place. -/
def strayTree : FileTree :=
  { entries := [(["a"], .directory), (["a.tmp"], .file "\x7b\x7d".toUTF8), (["p"], .file .empty)] }

theorem locate_strayTree {name : String} (h : isFileName name = true) :
    strayTree.locate (Path.ofText name).text = .ok [name] :=
  locate_text_of_isFileName h rfl

theorem run_load_strayTree :
    ((Settings.new "a.tmp").load (m := StateM Disk)).run ⟨strayTree, []⟩ =
      (.ok (some (.new "a.tmp")), ⟨strayTree, []⟩) := by
  have hplace := locate_strayTree (by decide : isFileName "a.tmp" = true)
  have hkind := run_kind?_of_locate hplace (by rfl : strayTree.kindAt? ["a.tmp"] = some .file)
  have hread := run_read_of_locate hplace
    (by rfl : strayTree.entry? ["a.tmp"] = some (.file "\x7b\x7d".toUTF8))
  have hparse : Settings.parse "\x7b\x7d".toUTF8 = .ok [] :=
    Settings.parse_eq_ok_iff.mpr ⟨_, rfl, toOption_eq_some_iff.mp (by decide +kernel)⟩
  have hpath : (Settings.new "a.tmp").path = "a.tmp" := rfl
  rw [Settings.load, hpath]
  simp only [run_bind, hkind, hread, hparse]
  rfl

/-- Nothing is left of the settings file when tokens are exported to the directory. -/
theorem run_saveRecords_strayTree :
    ∃ fault d', (saveRecords (m := StateM Disk) "a" []).run ⟨strayTree, []⟩ = (.error fault, d') ∧
      d'.tree.file? ["a.tmp"] = none := by
  obtain ⟨text, htext⟩ : ∃ text, Document.write (some (Json.spaces 1)) [] = .ok text := ⟨_, rfl⟩
  have hname : isFileName "a" = true := by decide
  have hfirst : isFileName "a.tmp" = true := by decide
  have hbeside : (Path.ofText "a").beside? temporaryEnding = some (Path.ofText "a.tmp") :=
    Path.beside?_of_isFileName hname hfirst
  have hfile : strayTree.entry? ["a.tmp"] = some (.file "\x7b\x7d".toUTF8) := rfl
  have hwrite := run_writeAtomic_of_directory hbeside (lastName_of_isFileName hname)
    (locate_parent_of_isFileName hname rfl) rfl (locate_strayTree hname) (locate_strayTree hfirst)
    text.toUTF8 rfl (by simp [hfile])
  refine ⟨.file (.file ⟨.isDirectory, (Path.ofText "a.tmp").text, some (Path.ofText "a").text⟩),
    ⟨(strayTree.put ["a.tmp"] (.file text.toUTF8)).erase ["a.tmp"], []⟩, ?_, ?_⟩
  · rw [saveRecords, htext]
    simp only [run_bind, hwrite]
    rfl
  · rw [file?, entry?_erase_self (by simp)]

/-- A run of an empty program with an export to the directory. -/
def strayOptions : Options :=
  { file := "p", settings? := some "a.tmp", exportTokens? := some "a" }

/-- The run ends with the export. -/
theorem run_runCommand_strayTree :
    ∃ output errors, (runCommand (m := StateM Disk) { home := "/" } strayOptions).run
        ⟨strayTree, []⟩ =
      (finishRun (m := StateM Disk) strayOptions (.new "a.tmp") (Job.new.start "p").finish.1
        output errors).run ⟨strayTree, []⟩ := by
  have hprogram : strayTree.locate strayOptions.file = .ok ["p"] :=
    locate_of_isFileName (by decide) rfl
  obtain ⟨config, hconfig⟩ : ∃ config, (Settings.new "a.tmp").config = .ok config :=
    Settings.exists_config_of_validate rfl
  obtain ⟨output, errors, hjob⟩ := run_runJob_empty (.new "a.tmp") (.new "a.tmp") config
    (by rfl : strayOptions.toolpath = false) hprogram rfl
  have hwith : runWith (m := StateM Disk) strayOptions (.new "a.tmp") =
      runJob strayOptions (.new "a.tmp") (.new "a.tmp") config :=
    runWith_of_config rfl hconfig
  have hnew : (Settings.newAt (m := StateM Disk) { home := "/" } strayOptions.settings?).run
      ⟨strayTree, []⟩ = (.new "a.tmp", ⟨strayTree, []⟩) := rfl
  have hrun := run_runCommand rfl hnew run_load_strayTree nofun
  have hread : Settings.mk (Settings.new "a.tmp").path
      (Settings.loadedData (.ok (some (.new "a.tmp")))) = .new "a.tmp" := rfl
  rw [hread, hwith, hjob] at hrun
  exact ⟨output, errors, hrun⟩

/-- An export to a path other than the settings file takes the settings file away: it writes its
temporary file there, and removes it when the directory is not replaced. -/
theorem runCommand_removes_settings :
    ((Settings.new "a.tmp").load (m := StateM Disk)).run ⟨strayTree, []⟩ =
        (.ok (some (.new "a.tmp")), ⟨strayTree, []⟩) ∧
      placeOf strayTree.current (Path.ofText "a").text = ["a"] ∧
      placeOf strayTree.current (Path.ofText "a.tmp").text = ["a.tmp"] ∧
      strayTree.file? ["a.tmp"] = some "\x7b\x7d".toUTF8 ∧
      ∃ r d', (runCommand (m := StateM Disk) { home := "/" } strayOptions).run ⟨strayTree, []⟩ =
          (r, d') ∧ r.exit = .ok 1 ∧ d'.tree.file? ["a.tmp"] = none := by
  refine ⟨run_load_strayTree, (locate_eq (locate_strayTree (by decide))).symm,
    (locate_eq (locate_strayTree (by decide))).symm, rfl, ?_⟩
  obtain ⟨fault, d', hexport, hgone⟩ := run_saveRecords_strayTree
  obtain ⟨output, errors, hrun⟩ := run_runCommand_strayTree
  have hgiven : nonEmpty strayOptions.exportTokens? = some "a" := rfl
  have htokens : (Job.new.start "p").finish.1.program.tokens.toList.map Record.ofToken = [] := rfl
  rw [hrun, finishRun, hgiven]
  simp only [htokens, run_bind, hexport]
  exact ⟨_, _, rfl, rfl, hgone⟩

end NumericControl
