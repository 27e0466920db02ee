import NumericControl.Proofs.Files.Replacement

/-!
# Runs without interruptions

On a disk where nothing is interrupted an operation does what the tree lets it do, so the outcome of
a replacement is known from what stands where its three files go.

## Main results

* `Disk.run_writeAtomic` : a file is replaced where no directory is in the way.
* `Disk.run_writeAtomic_of_new`, `Disk.run_writeAtomic_of_directory` : what becomes of a new file,
  and of one in whose place a directory is.
* `Disk.run_backUp_of_directory` : a copy goes into the directory that has its name.
-/

namespace NumericControl.Disk

open FileTree

variable {target temporary backup : Path} {content old : ByteArray} {ending : String}
  {ending? : Option String} {t kept : FileTree} {place above first goal : Place}

theorem run_bind {α β : Type} (x : StateM Disk α) (f : α → StateM Disk β) (d : Disk) :
    (x >>= f).run d = (f (x.run d).1).run (x.run d).2 :=
  rfl

theorem run_kind?_of_locate {path : String} {kind? : Option EntryKind}
    (hplace : t.locate path = .ok place) (hkind : t.kindAt? place = kind?) :
    (FileAccess.kind? (m := StateM Disk) path).run ⟨t, []⟩ = (.ok kind?, ⟨t, []⟩) := by
  change ((t.kind? path).mapError _, _) = _
  rw [FileTree.kind?, hplace]
  simp only [hkind]
  rfl

theorem run_read_of_locate {path : String} (hplace : t.locate path = .ok place)
    (hfile : t.entry? place = some (.file content)) :
    (FileAccess.read (m := StateM Disk) path).run ⟨t, []⟩ = (.ok content, ⟨t, []⟩) := by
  have hread : t.read path = .ok content :=
    bind_eq_ok_iff.mpr ⟨place, hplace, contentAt_eq_ok_iff.mpr hfile⟩
  change ((t.read path).mapError _, _) = _
  rw [hread]
  rfl

/-- A directory that is there is found. -/
theorem run_makeDirectories_of_directory {path : Path} (hplace : t.locate path.text = .ok place)
    (hdirectory : t.entry? place = some .directory) :
    (makeDirectories (m := StateM Disk) path).run ⟨t, []⟩ = (.ok (), ⟨t, []⟩) := by
  have htaken : t.makeDirectory path.text = .error .taken := by
    rw [makeDirectory, hplace]
    simp only [bind, Except.bind, hdirectory]
    rfl
  have hmade : (FileAccess.makeDirectory (m := StateM Disk) path.text).run ⟨t, []⟩ =
      (.error ⟨.taken, path.text, none⟩, ⟨t, []⟩) :=
    run_attempt_of_error htaken
  have hkind : (FileAccess.kind? (m := StateM Disk) path.text).run ⟨t, []⟩ =
      (.ok (some .directory), ⟨t, []⟩) :=
    run_kind?_of_locate hplace (by rw [kindAt?, hdirectory])
  have hensure : (ensureDirectory (m := StateM Disk) path).run ⟨t, []⟩ = (.ok (), ⟨t, []⟩) := by
    rw [ensureDirectory, run_bind, hmade]
    simp only [reduceCtorEq, if_false]
    rw [run_bind, hkind]
    rfl
  rw [makeDirectories, run_bind, hensure]
  rfl

/-! ### Copies -/

/-- There is nothing to copy of a new file. -/
theorem run_backUp_of_new (hplace : t.locate target.text = .ok place)
    (hnew : t.entry? place = none) :
    (backUp (m := StateM Disk) target ending?).run ⟨t, []⟩ = (.ok (), ⟨t, []⟩) := by
  have hkind : (FileAccess.kind? (m := StateM Disk) target.text).run ⟨t, []⟩ =
      (.ok none, ⟨t, []⟩) := run_kind?_of_locate hplace (by rw [kindAt?, hnew])
  rw [backUp]
  split
  · rfl
  · rw [run_bind, hkind]
    rfl

/-- A copy goes into the directory that has its name. -/
theorem run_backUp_of_directory (hending : ending ≠ "")
    (hbackup : target.beside? ending = some backup)
    (hgoal : t.locate target.text = .ok goal) (hfile : t.entry? goal = some (.file old))
    (hplace : t.locate backup.text = .ok place) (hdirectory : t.entry? place = some .directory)
    (hfree : t.entry? (place ++ [lastName target.text]) ≠ some .directory) :
    (backUp (m := StateM Disk) target (some ending)).run ⟨t, []⟩ =
      (.ok (), ⟨t.put (place ++ [lastName target.text]) (.file old), []⟩) := by
  have hkind : (FileAccess.kind? (m := StateM Disk) target.text).run ⟨t, []⟩ =
      (.ok (some .file), ⟨t, []⟩) := run_kind?_of_locate hgoal (by rw [kindAt?, hfile])
  have hcopy : t.copy target.text backup.text =
      .ok (t.put (place ++ [lastName target.text]) (.file old)) := by
    rw [copy_eq]
    refine bind_eq_ok_iff.mpr ⟨old, bind_eq_ok_iff.mpr ⟨goal, hgoal, ?_⟩, ?_⟩
    · exact contentAt_eq_ok_iff.mpr hfile
    · refine bind_eq_ok_iff.mpr ⟨_, bind_eq_ok_iff.mpr ⟨place, hplace, ?_⟩, rfl⟩
      rw [hdirectory]
      dsimp only
      split
      · next h => exact absurd h hfree
      · rfl
  have hrunCopy : (FileAccess.copy (m := StateM Disk) target.text backup.text).run ⟨t, []⟩ =
      (.ok (), ⟨t.put (place ++ [lastName target.text]) (.file old), []⟩) := run_attempt_of_ok hcopy
  have hgiven : (some ending).filter (· != "") = some ending := by simp [hending]
  rw [backUp, hgiven]
  simp only [run_bind, hkind, hbackup, hrunCopy]
  rfl

/-! ### Replacements -/

section

variable (hbeside : target.beside? temporaryEnding = some temporary)
  (hup : lastName target.text ≠ upName) (habove : t.locate target.parent.text = .ok above)
  (hdirectory : t.entry? above = some .directory) (hgoal : t.locate target.text = .ok goal)
  (hfirst : t.locate temporary.text = .ok first)

include habove hdirectory hfirst in
/-- A file is written under the other name wherever its directory is there and no directory has that
name. -/
theorem run_writeThenMove (content : ByteArray) (hfree : t.entry? first ≠ some .directory)
    (hbackUp : (backUp (m := StateM Disk) target ending?).run ⟨t.put first (.file content), []⟩ =
      (.ok (), ⟨kept, []⟩)) :
    (writeThenMove (m := StateM Disk) target temporary content ending?).run ⟨t, []⟩ =
      (((FileAccess.replace (m := StateM Disk) temporary.text target.text).run
          ⟨kept, []⟩).1.mapError .file,
        ((FileAccess.replace (m := StateM Disk) temporary.text target.text).run
          ⟨kept, []⟩).2) := by
  have hwrite : t.write temporary.text content = .ok (t.put first (.file content)) :=
    write_eq_ok_iff.mpr ⟨first, hfirst, hfree, rfl⟩
  have hrunWrite : (FileAccess.write (m := StateM Disk) temporary.text content).run ⟨t, []⟩ =
      (.ok (), ⟨t.put first (.file content), []⟩) := run_attempt_of_ok hwrite
  simp only [writeThenMove, run_bind, run_makeDirectories_of_directory habove hdirectory,
    hrunWrite, hbackUp]
  rfl

include hbeside hup habove hdirectory hgoal hfirst

/-- A file is replaced wherever its directory is there, and no directory has its name or that of the
file that is written first; the copy may be any other file. -/
theorem run_writeAtomic (hfree : t.entry? first ≠ some .directory) (hne : goal ≠ first)
    (hbackUp : (backUp (m := StateM Disk) target ending?).run ⟨t.put first (.file content), []⟩ =
      (.ok (), ⟨kept, []⟩))
    {copies : Set Place} (hkept : AgreesOff copies (t.put first (.file content)) kept)
    (hapart : first ∉ copies) (hreplaced : kept.entry? goal ≠ some .directory) :
    (writeAtomic (m := StateM Disk) target content ending?).run ⟨t, []⟩ =
      (.ok (), ⟨(kept.erase first).put goal (.file content), []⟩) := by
  have hfirstNe : first ≠ [] := ne_nil_of_ne_directory hfree
  have hagrees := agreesOff_put hfree content
  have hfile : kept.entry? first = some (.file content) := by
    rw [← file?_eq_some_iff, hkept.files first hapart, file?_put_self hfirstNe]
  have hlocate := hkept.locate (hagrees.locate hfirst)
  have hreplace : kept.replace temporary.text target.text =
      .ok ((kept.erase first).put goal (.file content)) :=
    replace_eq_ok_iff.mpr ⟨first, content, goal, hlocate, hfile, hup,
      hkept.locate (hagrees.locate hgoal), hreplaced, rfl⟩
  have hrunReplace : (FileAccess.replace (m := StateM Disk) temporary.text target.text).run
      ⟨kept, []⟩ = (.ok (), ⟨(kept.erase first).put goal (.file content), []⟩) :=
    run_attempt_of_ok hreplace
  have hmove := run_writeThenMove habove hdirectory hfirst content hfree hbackUp
  rw [hrunReplace] at hmove
  -- nothing is left under the other name
  have hgone : (FileAccess.kind? (m := StateM Disk) temporary.text).run
      ⟨(kept.erase first).put goal (.file content), []⟩ =
      (.ok none, ⟨(kept.erase first).put goal (.file content), []⟩) := by
    refine run_kind?_of_locate ((agreesOff_replace rfl hreplace).locate hlocate) ?_
    rw [kindAt?, entry?_put_of_ne hne.symm, entry?_erase_self hfirstNe]
  rw [writeAtomic, hbeside]
  simp only [removeLeftover, run_bind, hmove, hgone]
  rfl

/-- A new file is written wherever its directory is there and its name and that of the file that is
written first are free. -/
theorem run_writeAtomic_of_new (hnew : t.entry? goal = none) (hfree : t.entry? first = none)
    (hne : goal ≠ first) :
    ∃ d', (writeAtomic (m := StateM Disk) target content ending?).run ⟨t, []⟩ = (.ok (), d') := by
  have hfree : t.entry? first ≠ some .directory := by simp [hfree]
  have hnew' : FileTree.entry? (t.put first (.file content)) goal = none := by
    rw [entry?_put_of_ne hne, hnew]
  have hbackUp : (backUp (m := StateM Disk) target ending?).run ⟨t.put first (.file content), []⟩ =
      (.ok (), ⟨t.put first (.file content), []⟩) :=
    run_backUp_of_new ((agreesOff_put hfree content).locate hgoal) hnew'
  exact ⟨_, run_writeAtomic hbeside hup habove hdirectory hgoal hfirst hfree hne hbackUp (.refl ∅ _)
    (Set.notMem_empty first) (by simp [hnew'])⟩

/-- No file takes the place of a directory, but what had the name of the file that is written first
is gone. -/
theorem run_writeAtomic_of_directory (content : ByteArray)
    (htaken : t.entry? goal = some .directory) (hfree : t.entry? first ≠ some .directory) :
    (writeAtomic (m := StateM Disk) target content none).run ⟨t, []⟩ =
      (.error (.file ⟨.isDirectory, temporary.text, some target.text⟩),
        ⟨(t.put first (.file content)).erase first, []⟩) := by
  have hfirstNe : first ≠ [] := ne_nil_of_ne_directory hfree
  have hmove := run_writeThenMove habove hdirectory hfirst content hfree
    (rfl : (backUp (m := StateM Disk) target none).run ⟨t.put first (.file content), []⟩ = _)
  obtain ⟨written, hwritten⟩ : ∃ written, written = t.put first (.file content) := ⟨_, rfl⟩
  rw [← hwritten] at hmove ⊢
  have hagrees := agreesOff_put hfree content
  rw [← hwritten] at hagrees
  have hfile : written.entry? first = some (.file content) := by
    rw [hwritten, entry?_put_self hfirstNe]
  have hreplace : written.replace temporary.text target.text = .error .isDirectory := by
    rw [FileTree.replace, hagrees.locate hfirst]
    simp only [bind, Except.bind, contentAt, hfile, if_neg hup, hagrees.locate hgoal,
      hagrees.directories goal htaken]
    rfl
  have hrunReplace : (FileAccess.replace (m := StateM Disk) temporary.text target.text).run
      ⟨written, []⟩ = (.error ⟨.isDirectory, temporary.text, some target.text⟩, ⟨written, []⟩) :=
    run_attempt_of_error hreplace
  rw [hrunReplace] at hmove
  have hthere : (FileAccess.kind? (m := StateM Disk) temporary.text).run ⟨written, []⟩ =
      (.ok (some .file), ⟨written, []⟩) :=
    run_kind?_of_locate (hagrees.locate hfirst) (by rw [kindAt?, hfile])
  have hremove : written.remove temporary.text = .ok (written.erase first) :=
    remove_eq_ok_iff.mpr ⟨first, content, hagrees.locate hfirst, hfile, rfl⟩
  have hrunRemove : (FileAccess.remove (m := StateM Disk) temporary.text).run ⟨written, []⟩ =
      (.ok (), ⟨written.erase first, []⟩) := run_attempt_of_ok hremove
  rw [writeAtomic, hbeside]
  simp only [removeLeftover, run_bind, hmove, hthere, hrunRemove]
  rfl

end

end NumericControl.Disk
