import Mathlib.Data.Set.Insert
import NumericControl.Proofs.Files.Place

/-!
# Disks with failing operations

A disk is a file tree any operation of which may fail, whatever the tree looks like, and a file that
was to be written or copied may then hold the beginning of its content.  What an operation can do to
the tree is said once for each of them: the files at a few places change at most, directories stay,
and so does the current directory.  A program does no more than its operations do together.

## Main definitions

* `Disk` : a file tree and the interruptions of the operations to come.
* `FileTree.AgreesOff` : trees that differ at most in the files at some places, new directories
  aside.
* `Disk.TouchesOnly` : programs that change no file but those at some places.

## Main results

* `FileTree.write_eq_ok_iff`, `FileTree.replace_eq_ok_iff` and their like : what an operation needs
  and what it does.
* `Disk.TouchesOnly.bind` : a program touches what its steps touch.
* `Disk.touchesOnly_write` and its like : the operations of a disk.
-/

namespace NumericControl

namespace FileTree

variable {t t' t'' : FileTree} {place p : Place} {places more : Set Place} {path target : String}
  {content : ByteArray}

/-! ### Entries -/

/-- The content of the file at a place, if there is one. -/
def file? (t : FileTree) (place : Place) : Option ByteArray :=
  match t.entry? place with
  | some (.file content) => some content
  | _ => none

theorem file?_eq_some_iff :
    t.file? place = some content ↔ t.entry? place = some (.file content) := by
  unfold file?
  split <;> simp_all

theorem entry?_nil (t : FileTree) : t.entry? [] = some .directory :=
  rfl

theorem entry?_of_ne_nil (h : p ≠ []) : t.entry? p = t.entries.lookup p :=
  if_neg h

/-- A place where no directory is lies below the top. -/
theorem ne_nil_of_ne_directory (h : t.entry? place ≠ some .directory) : place ≠ [] := by
  rintro rfl
  exact h t.entry?_nil

theorem entry?_erase (t : FileTree) (place p : Place) :
    entry? (t.erase place) p =
      if p = [] then some .directory else if p = place then none else t.entry? p := by
  split
  · next htop => rw [htop, entry?_nil]
  · next htop =>
    rw [entry?_of_ne_nil htop, entry?_of_ne_nil htop, erase]
    induction t.entries with
    | nil => simp
    | cons e entries ih =>
      obtain ⟨other, entry⟩ := e
      by_cases hother : other = place
      · subst hother
        by_cases hp : p = other
        · simpa [hp] using ih
        · simpa [hp, List.lookup_cons, beq_eq_false_iff_ne.mpr hp] using ih
      · by_cases hp : p = other
        · simp [hp, hother]
        · simpa [hother, List.lookup_cons, beq_eq_false_iff_ne.mpr hp] using ih

theorem entry?_put (t : FileTree) (place : Place) (entry : TreeEntry) (p : Place) :
    entry? (t.put place entry) p =
      if p = [] then some .directory else if p = place then some entry else t.entry? p := by
  by_cases htop : p = []
  · rw [htop, entry?_nil, if_pos rfl]
  · have herased := entry?_erase t place p
    rw [entry?_of_ne_nil htop, if_neg htop] at herased
    rw [entry?_of_ne_nil htop, put, if_neg htop, List.lookup_append, herased]
    by_cases hp : p = place
    · simp [hp]
    · simp [hp, List.lookup_cons, beq_eq_false_iff_ne.mpr hp]

theorem entry?_erase_of_ne (h : p ≠ place) : entry? (t.erase place) p = t.entry? p := by
  rw [entry?_erase, if_neg h]
  split
  · next htop => rw [htop, entry?_nil]
  · rfl

theorem entry?_erase_self (h : place ≠ []) : entry? (t.erase place) place = none := by
  rw [entry?_erase, if_neg h, if_pos rfl]

theorem entry?_put_of_ne {entry : TreeEntry} (h : p ≠ place) :
    entry? (t.put place entry) p = t.entry? p := by
  rw [entry?_put, if_neg h]
  split
  · next htop => rw [htop, entry?_nil]
  · rfl

theorem entry?_put_self {entry : TreeEntry} (h : place ≠ []) :
    entry? (t.put place entry) place = some entry := by
  rw [entry?_put, if_neg h, if_pos rfl]

theorem file?_put_self (h : place ≠ []) :
    (t.put place (.file content)).file? place = some content :=
  file?_eq_some_iff.mpr (entry?_put_self h)

/-! ### Trees that agree -/

/-- Trees that differ at most in the files at some places: the current directory is the same, and
directories stay, although more may be there. -/
structure AgreesOff (places : Set Place) (t t' : FileTree) : Prop where
  current : t'.current = t.current
  directories : ∀ p, t.entry? p = some .directory → t'.entry? p = some .directory
  files : ∀ p, p ∉ places → t'.file? p = t.file? p

namespace AgreesOff

theorem refl (places : Set Place) (t : FileTree) : AgreesOff places t t :=
  ⟨rfl, fun _ => id, fun _ _ => rfl⟩

theorem trans (h : AgreesOff places t t') (h' : AgreesOff places t' t'') :
    AgreesOff places t t'' where
  current := h'.current.trans h.current
  directories p hp := h'.directories p (h.directories p hp)
  files p hp := (h'.files p hp).trans (h.files p hp)

theorem mono (h : AgreesOff places t t') (hplaces : places ⊆ more) : AgreesOff more t t' where
  current := h.current
  directories := h.directories
  files p hp := h.files p fun hmem => hp (hplaces hmem)

/-- Paths lead where they led. -/
theorem locate (h : AgreesOff places t t') (hlocate : t.locate path = .ok place) :
    t'.locate path = .ok place :=
  locate_mono h.current h.directories hlocate

end AgreesOff

/-- A file that is put where no directory is. -/
theorem agreesOff_put (h : t.entry? place ≠ some .directory) (content : ByteArray) :
    AgreesOff {place} t (t.put place (.file content)) where
  current := rfl
  directories p hp := by
    rw [entry?_put_of_ne (by rintro rfl; exact h hp), hp]
  files p hp := by
    rw [file?, file?, entry?_put_of_ne (by simpa using hp)]

/-- A directory that is put where nothing is. -/
theorem agreesOff_putDirectory (h : t.entry? place = none) :
    AgreesOff ∅ t (t.put place .directory) where
  current := rfl
  directories p hp := by
    rw [entry?_put_of_ne (by rintro rfl; simp [h] at hp), hp]
  files p _ := by
    by_cases hp : p = place
    · have hfree : t.entry? place ≠ some .directory := by simp [h]
      rw [file?, file?, hp, h, entry?_put_self (ne_nil_of_ne_directory hfree)]
    · rw [file?, file?, entry?_put_of_ne hp]

/-- A file that is taken away. -/
theorem agreesOff_erase (h : t.entry? place = some (.file content)) :
    AgreesOff {place} t (t.erase place) where
  current := rfl
  directories p hp := by
    rw [entry?_erase_of_ne (by rintro rfl; simp [h] at hp), hp]
  files p hp := by
    rw [file?, file?, entry?_erase_of_ne (by simpa using hp)]

/-! ### What the operations do -/

theorem contentAt_eq_ok_iff :
    t.contentAt place = .ok content ↔ t.entry? place = some (.file content) := by
  unfold contentAt
  split <;> simp_all

/-- A file may be put wherever there is no directory. -/
theorem putFile_eq_ok_iff {entry : Option TreeEntry} :
    (match entry with
      | some .directory => throw FaultKind.isDirectory
      | _ => pure t : Except FaultKind FileTree) = .ok t' ↔
      entry ≠ some .directory ∧ t' = t := by
  split
  · exact ⟨nofun, fun h => absurd rfl h.1⟩
  · next hentry =>
    rw [and_iff_right hentry]
    change Except.ok t = .ok t' ↔ _
    rw [Except.ok.injEq, eq_comm]

theorem write_eq_ok_iff :
    t.write path content = .ok t' ↔
      ∃ place, t.locate path = .ok place ∧ t.entry? place ≠ some .directory ∧
        t' = t.put place (.file content) := by
  rw [write, bind_eq_ok_iff]
  exact exists_congr fun place => and_congr_right fun _ => putFile_eq_ok_iff

theorem makeDirectory_eq_ok_iff :
    t.makeDirectory path = .ok t' ↔
      ∃ place, t.locate path = .ok place ∧ t.entry? place = none ∧ t' = t.put place .directory := by
  rw [makeDirectory, bind_eq_ok_iff]
  refine exists_congr fun place => and_congr_right fun _ => ?_
  split
  · next h => simp [h, throw, throwThe, MonadExceptOf.throw]
  · next h => simp [h, pure, Except.pure, eq_comm]

theorem remove_eq_ok_iff :
    t.remove path = .ok t' ↔
      ∃ place content, t.locate path = .ok place ∧ t.entry? place = some (.file content) ∧
        t' = t.erase place := by
  simp only [remove, bind_eq_ok_iff, contentAt_eq_ok_iff]
  refine exists_congr fun place => ?_
  simp [pure, Except.pure, eq_comm]

theorem replace_eq_ok_iff :
    t.replace path target = .ok t' ↔
      ∃ place content goal, t.locate path = .ok place ∧ t.entry? place = some (.file content) ∧
        lastName target ≠ upName ∧ t.locate target = .ok goal ∧
        t.entry? goal ≠ some .directory ∧ t' = (t.erase place).put goal (.file content) := by
  rw [replace, bind_eq_ok_iff]
  simp only [exists_and_left]
  refine exists_congr fun place => and_congr_right fun _ => ?_
  simp only [bind_eq_ok_iff (x := t.contentAt place), contentAt_eq_ok_iff]
  refine exists_congr fun content => and_congr_right fun _ => ?_
  split
  · next hup => exact ⟨nofun, fun h => absurd hup h.1⟩
  · next hup =>
    rw [and_iff_right hup, bind_eq_ok_iff]
    exact exists_congr fun goal => and_congr_right fun _ => putFile_eq_ok_iff

/-- Where a copy of a file goes: into a directory, or to the place of the target. -/
def copyPlace (t : FileTree) (source target : String) : Except FaultKind Place := do
  let place ← t.locate target
  match t.entry? place with
  | some .directory =>
    let inner := place ++ [lastName source]
    match t.entry? inner with
    | some .directory => throw .isDirectory
    | _ => return inner
  | _ => return place

theorem copy_eq (t : FileTree) (source target : String) :
    t.copy source target = do
      let content ← t.read source
      let place ← t.copyPlace source target
      return t.put place (.file content) := by
  rw [copy, copyPlace]
  refine bind_congr fun content => ?_
  rw [bind_assoc]
  refine bind_congr fun place => ?_
  rcases t.entry? place with _ | ⟨_⟩ | _
  · rfl
  · rfl
  · dsimp only
    rcases t.entry? (place ++ [lastName source]) with _ | ⟨_⟩ | _ <;> rfl

/-- The place where a copy goes: that of the target, or one in the directory that is there. -/
def copyGoal (t : FileTree) (source target : String) : Place :=
  match t.entry? (placeOf t.current target) with
  | some .directory => placeOf t.current target ++ [lastName source]
  | _ => placeOf t.current target

theorem copyGoal_of_directory (source : String)
    (h : t.entry? (placeOf t.current target) = some .directory) :
    t.copyGoal source target = placeOf t.current target ++ [lastName source] := by
  rw [copyGoal, h]

theorem copyGoal_of_ne_directory (source : String)
    (h : t.entry? (placeOf t.current target) ≠ some .directory) :
    t.copyGoal source target = placeOf t.current target := by
  rw [copyGoal]
  split
  · next hdirectory => exact absurd hdirectory h
  · rfl

/-- A copy goes where no directory is. -/
theorem copyPlace_eq_ok (h : t.copyPlace path target = .ok place) :
    t.entry? place ≠ some .directory ∧ place = t.copyGoal path target := by
  obtain ⟨goal, hgoal, hplace⟩ := bind_eq_ok_iff.mp h
  obtain rfl := locate_eq hgoal
  split at hplace
  · next hdirectory =>
    rw [copyGoal_of_directory path hdirectory]
    dsimp only at hplace
    split at hplace
    · cases hplace
    · next hinner =>
      cases hplace
      exact ⟨hinner, rfl⟩
  · next hother =>
    cases hplace
    exact ⟨hother, (copyGoal_of_ne_directory path hother).symm⟩

/-- A copy that is there has not moved, whatever directories are new. -/
theorem AgreesOff.copyGoal_eq (h : AgreesOff places t t')
    (hthere : (t'.file? (t.copyGoal path target)).isSome) :
    t'.copyGoal path target = t.copyGoal path target := by
  have hplace : placeOf t'.current target = placeOf t.current target := by rw [h.current]
  by_cases hdirectory : t.entry? (placeOf t.current target) = some .directory
  · have hdirectory' := h.directories _ hdirectory
    rw [← hplace] at hdirectory'
    rw [copyGoal_of_directory path hdirectory, copyGoal_of_directory path hdirectory', hplace]
  · rw [copyGoal_of_ne_directory path hdirectory] at hthere ⊢
    obtain ⟨content, hcontent⟩ := Option.isSome_iff_exists.mp hthere
    rw [← hplace, file?_eq_some_iff] at hcontent
    rw [copyGoal_of_ne_directory path (by simp [hcontent]), hplace]

/-! ### What the operations leave -/

section

variable {current : Place}

/-- What a tree operation leaves as it is, told by the paths that it is about. -/
theorem agreesOff_write (hcurrent : t.current = current) (h : t.write path content = .ok t') :
    AgreesOff {placeOf current path} t t' := by
  obtain ⟨place, hplace, hfree, rfl⟩ := write_eq_ok_iff.mp h
  rw [← hcurrent, ← locate_eq hplace]
  exact agreesOff_put hfree content

theorem agreesOff_makeDirectory (h : t.makeDirectory path = .ok t') : AgreesOff ∅ t t' := by
  obtain ⟨place, -, hfree, rfl⟩ := makeDirectory_eq_ok_iff.mp h
  exact agreesOff_putDirectory hfree

theorem agreesOff_remove (hcurrent : t.current = current) (h : t.remove path = .ok t') :
    AgreesOff {placeOf current path} t t' := by
  obtain ⟨place, content, hplace, hfile, rfl⟩ := remove_eq_ok_iff.mp h
  rw [← hcurrent, ← locate_eq hplace]
  exact agreesOff_erase hfile

theorem agreesOff_replace (hcurrent : t.current = current) (h : t.replace path target = .ok t') :
    AgreesOff {placeOf current path, placeOf current target} t t' := by
  obtain ⟨place, content, goal, hplace, hfile, -, hgoal, hfree, rfl⟩ := replace_eq_ok_iff.mp h
  rw [← hcurrent, ← locate_eq hplace, ← locate_eq hgoal]
  have herased : entry? (t.erase place) goal ≠ some .directory := by
    by_cases hsame : goal = place
    · rw [hsame, entry?_erase_self (hsame ▸ ne_nil_of_ne_directory hfree)]
      simp
    · rwa [entry?_erase_of_ne hsame]
  have hremoved := agreesOff_erase hfile
  have hplaced := agreesOff_put herased content
  exact (hremoved.mono (by simp)).trans (hplaced.mono (by simp))

/-- A copy goes to the place of the target or to one below. -/
def copyPlaces (current : Place) (source target : String) : Set Place :=
  {placeOf current target, placeOf current target ++ [lastName source]}

theorem copyGoal_mem (t : FileTree) (source target : String) :
    t.copyGoal source target ∈ copyPlaces t.current source target := by
  rw [copyGoal]
  split
  · exact .inr rfl
  · exact .inl rfl

end

end FileTree

/-! ### Disks -/

/-- How an operation is interrupted. -/
structure Interruption where
  kind : FaultKind
  /-- How many bytes of a content are there all the same, if the file was opened at all. -/
  written? : Option Nat := none

/-- A file tree and the interruptions of the operations to come, one for each; operations beyond
them are not interrupted. -/
structure Disk where
  tree : FileTree
  interruptions : List (Option Interruption) := []

namespace Disk

/-- Change the tree, unless that fails or is interrupted; what an interruption leaves behind is told
by how many bytes are written. -/
def attempt (path : String) (target? : Option String)
    (change : FileTree → Except FaultKind FileTree)
    (part : Nat → FileTree → Except FaultKind FileTree) : StateM Disk (Except FileFault Unit) :=
  fun d =>
    match d.interruptions.head?.join, change d.tree with
    | none, .ok tree => (.ok (), ⟨tree, d.interruptions.tail⟩)
    | none, .error kind => (.error ⟨kind, path, target?⟩, ⟨d.tree, d.interruptions.tail⟩)
    | some interruption, _ =>
      let tree := (interruption.written?.bind fun n => (part n d.tree).toOption).getD d.tree
      (.error ⟨interruption.kind, path, target?⟩, ⟨tree, d.interruptions.tail⟩)

section

variable {path : String} {target? : Option String} {change : FileTree → Except FaultKind FileTree}
  {part : Nat → FileTree → Except FaultKind FileTree} {t t' : FileTree} {d d' : Disk}
  {outcome : Except FileFault Unit}

/-- An attempt succeeds as the change does; otherwise the tree is as it was, or a part of the change
was made. -/
theorem attempt_cases (h : (attempt path target? change part).run d = (outcome, d')) :
    outcome = .ok () ∧ change d.tree = .ok d'.tree ∨
      (∃ fault, outcome = .error fault) ∧
        (d'.tree = d.tree ∨ ∃ n, part n d.tree = .ok d'.tree) := by
  simp only [attempt, StateT.run] at h
  split at h
  · next hchange =>
    cases h
    exact .inl ⟨rfl, hchange⟩
  · cases h
    exact .inr ⟨⟨_, rfl⟩, .inl rfl⟩
  · next interruption _ =>
    cases h
    refine .inr ⟨⟨_, rfl⟩, ?_⟩
    cases hwritten : interruption.written?.bind fun n => (part n d.tree).toOption with
    | none => exact .inl rfl
    | some t' =>
      obtain ⟨n, -, hn⟩ := Option.bind_eq_some_iff.mp hwritten
      exact .inr ⟨n, toOption_eq_some_iff.mp hn⟩

/-- An attempt succeeds only as the change does. -/
theorem attempt_eq_ok (h : (attempt path target? change part).run d = (.ok (), d')) :
    change d.tree = .ok d'.tree := by
  rcases attempt_cases h with ⟨-, hchange⟩ | ⟨⟨fault, hfault⟩, -⟩
  · exact hchange
  · cases hfault

/-- Without interruptions an attempt succeeds as the change does. -/
theorem run_attempt_of_ok (h : change t = .ok t') :
    (attempt path target? change part).run ⟨t, []⟩ = (.ok (), ⟨t', []⟩) := by
  simp only [attempt, StateT.run, List.head?_nil, Option.join_none, List.tail_nil, h]

/-- Without interruptions an attempt fails as the change does. -/
theorem run_attempt_of_error {kind : FaultKind} (h : change t = .error kind) :
    (attempt path target? change part).run ⟨t, []⟩ =
      (.error ⟨kind, path, target?⟩, ⟨t, []⟩) := by
  simp only [attempt, StateT.run, List.head?_nil, Option.join_none, List.tail_nil, h]

end

/-- The beginning of a copy. -/
def copyPart (source target : String) (n : Nat) (t : FileTree) : Except FaultKind FileTree := do
  let content ← t.read source
  let place ← t.copyPlace source target
  return t.put place (.file (content.extract 0 n))

end Disk

instance : FileAccess (StateM Disk) where
  kind? path := fun d => ((d.tree.kind? path).mapError fun kind => ⟨kind, path, none⟩, d)
  read path := fun d =>
    match d.interruptions.head?.join with
    | none =>
      ((d.tree.read path).mapError fun kind => ⟨kind, path, none⟩,
        { d with interruptions := d.interruptions.tail })
    | some interruption =>
      (.error ⟨interruption.kind, path, none⟩, { d with interruptions := d.interruptions.tail })
  write path content := Disk.attempt path none (·.write path content)
    fun n t => t.write path (content.extract 0 n)
  ensureFile path := Disk.attempt path none (·.ensureFile path) fun _ t => .ok t
  makeDirectory path := Disk.attempt path none (·.makeDirectory path) fun _ t => .ok t
  copy source target := Disk.attempt source (some target) (·.copy source target)
    (Disk.copyPart source target)
  replace source target := Disk.attempt source (some target) (·.replace source target)
    fun _ t => .ok t
  remove path := Disk.attempt path none (·.remove path) fun _ t => .ok t
  currentDirectory := fun d => ("/" ++ "/".intercalate d.tree.current, d)

namespace Disk

open FileTree

/-- A program that changes no file but those at some places, on disks with a given current
directory. -/
def TouchesOnly {α : Type} (current : Place) (places : Set Place) (x : StateM Disk α) : Prop :=
  ∀ d, d.tree.current = current → AgreesOff places d.tree (x.run d).2.tree

namespace TouchesOnly

variable {α β : Type} {current : Place} {places more : Set Place} {x : StateM Disk α}

theorem pure (a : α) : TouchesOnly current places (pure a : StateM Disk α) :=
  fun d _ => .refl places d.tree

/-- A program touches what its steps touch. -/
theorem bind {f : α → StateM Disk β} (hx : TouchesOnly current places x)
    (hf : ∀ a, TouchesOnly current places (f a)) : TouchesOnly current places (x >>= f) := by
  intro d hcurrent
  have hfirst := hx d hcurrent
  exact hfirst.trans (hf _ _ (hfirst.current.trans hcurrent))

theorem mono (h : TouchesOnly current places x) (hplaces : places ⊆ more) :
    TouchesOnly current more x :=
  fun d hcurrent => (h d hcurrent).mono hplaces

/-- An attempt touches what the change touches, complete or in part. -/
theorem attempt {path : String} {target? : Option String}
    {change : FileTree → Except FaultKind FileTree}
    {part : Nat → FileTree → Except FaultKind FileTree}
    (hchange : ∀ t t', t.current = current → change t = .ok t' → AgreesOff places t t')
    (hpart : ∀ n t t', t.current = current → part n t = .ok t' → AgreesOff places t t') :
    TouchesOnly current places (attempt path target? change part) := by
  intro d hcurrent
  rcases hrun : (Disk.attempt path target? change part).run d with ⟨outcome, d'⟩
  rcases attempt_cases hrun with ⟨-, h⟩ | ⟨-, h | ⟨n, h⟩⟩
  · exact hchange _ _ hcurrent h
  · dsimp only
    rw [h]
    exact .refl places d.tree
  · exact hpart n _ _ hcurrent h

end TouchesOnly

variable {current : Place}

theorem touchesOnly_kind? (path : String) :
    TouchesOnly current ∅ (FileAccess.kind? (m := StateM Disk) path) :=
  fun d _ => .refl ∅ d.tree

theorem touchesOnly_currentDirectory :
    TouchesOnly current ∅ (FileAccess.currentDirectory (m := StateM Disk)) :=
  fun d _ => .refl ∅ d.tree

theorem touchesOnly_read (path : String) :
    TouchesOnly current ∅ (FileAccess.read (m := StateM Disk) path) := by
  intro d _
  simp only [FileAccess.read, StateT.run]
  split <;> exact .refl ∅ d.tree

theorem touchesOnly_makeDirectory (path : String) :
    TouchesOnly current ∅ (FileAccess.makeDirectory (m := StateM Disk) path) :=
  .attempt (fun _ _ _ => agreesOff_makeDirectory) fun _ t _ _ h => by cases h; exact .refl ∅ t

theorem touchesOnly_write (path : String) (content : ByteArray) :
    TouchesOnly current {placeOf current path}
      (FileAccess.write (m := StateM Disk) path content) :=
  .attempt (fun _ _ => agreesOff_write) fun _ _ _ => agreesOff_write

theorem touchesOnly_remove (path : String) :
    TouchesOnly current {placeOf current path} (FileAccess.remove (m := StateM Disk) path) :=
  .attempt (fun _ _ => agreesOff_remove) fun _ t _ _ h => by cases h; exact .refl _ t

section

variable {source target : String} {d d' : Disk} {outcome : Except FileFault Unit}

/-- A copy is made, complete unless a fault is reported, or nothing changes. -/
theorem copy_cases
    (h : (FileAccess.copy (m := StateM Disk) source target).run d = (outcome, d')) :
    (∃ fault, outcome = .error fault) ∧ d'.tree = d.tree ∨
      ∃ content place written, d.tree.read source = .ok content ∧
        d.tree.copyPlace source target = .ok place ∧ d'.tree = d.tree.put place (.file written) ∧
        (outcome = .ok () → written = content) := by
  rcases attempt_cases h with ⟨-, hcopy⟩ | ⟨⟨fault, rfl⟩, hsame | ⟨n, hpart⟩⟩
  · rw [copy_eq] at hcopy
    obtain ⟨content, hcontent, hcopy⟩ := bind_eq_ok_iff.mp hcopy
    obtain ⟨place, hplace, hcopy⟩ := bind_eq_ok_iff.mp hcopy
    exact .inr ⟨content, place, content, hcontent, hplace, (Except.ok.inj hcopy).symm, fun _ => rfl⟩
  · exact .inl ⟨⟨fault, rfl⟩, hsame⟩
  · obtain ⟨content, hcontent, hpart⟩ := bind_eq_ok_iff.mp hpart
    obtain ⟨place, hplace, hpart⟩ := bind_eq_ok_iff.mp hpart
    exact .inr ⟨content, place, _, hcontent, hplace, (Except.ok.inj hpart).symm, nofun⟩

/-- A move is made, or nothing changes. -/
theorem replace_cases
    (h : (FileAccess.replace (m := StateM Disk) source target).run d = (outcome, d')) :
    outcome = .ok () ∧ d.tree.replace source target = .ok d'.tree ∨
      (∃ fault, outcome = .error fault) ∧ d'.tree = d.tree := by
  rcases attempt_cases h with hmoved | ⟨hfault, hsame | ⟨n, hpart⟩⟩
  · exact .inl hmoved
  · exact .inr ⟨hfault, hsame⟩
  · exact .inr ⟨hfault, (Except.ok.inj hpart).symm⟩

end

end Disk

end NumericControl
