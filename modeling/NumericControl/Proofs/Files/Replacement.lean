import NumericControl.Proofs.Files.Journal

/-!
# The replacement of a file

A file is written under another name, its old content is copied aside, and then the new file is
moved to its place.  Whatever fails on the way, only those three files can change; and if nothing is
reported, the file has its new content.

## Main definitions

* `Path.besides` : where the file beside a path is.
* `Path.copiesIn` : where the copy of a file is that stands beside it.
* `Path.replacementPlaces` : the places of the files that a replacement can change.
* `Journal.Staged` : what a replacement does before the file is moved.
* `Journal.Moved` : what became of a file that was written and moved.

## Main results

* `Journal.backUp_cases`, `Journal.moved_or_fault`, `Journal.writeThenMove_cases` : what becomes of
  a replacement, step by step.
* `Disk.touchesOnly_makeDirectories`, `Disk.touchesOnly_writeAtomic` : what a replacement leaves as
  it is.
* `Disk.read_of_writeAtomic` : what a replacement that succeeds does.
-/

namespace NumericControl

open FileTree

/-! ### Where the files of a replacement are -/

/-- Where the file beside a path is, if the path has a name. -/
def Path.besides (current : Place) (p : Path) (ending : String) : Set Place :=
  {place | ∃ q, p.beside? ending = some q ∧ place = placeOf current q.text}

/-- Where copies of a file can go if they are to stand beside it. -/
def Path.backupPlaces (current : Place) (p : Path) (ending? : Option String) : Set Place :=
  {place | ∃ q, ending?.bind p.beside? = some q ∧ place ∈ copyPlaces current p.text q.text}

/-- The places of the files that the replacement of a file can change: its own, that of the file
that is written first, and those of the copy. -/
def Path.replacementPlaces (current : Place) (p : Path) (ending? : Option String) : Set Place :=
  {placeOf current p.text} ∪ p.besides current temporaryEnding ∪ p.backupPlaces current ending?

/-- Where the copy of a file is in a tree, if one is to stand beside the file. -/
def Path.copiesIn (t : FileTree) (p : Path) (ending? : Option String) : Set Place :=
  {place | ∃ ending q, ending? = some ending ∧ ending ≠ "" ∧ p.beside? ending = some q ∧
    place = t.copyGoal p.text q.text}

theorem Path.copiesIn_subset (t : FileTree) (p : Path) (ending? : Option String) :
    p.copiesIn t ending? ⊆ p.backupPlaces t.current ending? := by
  rintro place ⟨ending, q, rfl, -, hq, rfl⟩
  exact ⟨q, hq, t.copyGoal_mem _ _⟩

namespace FileTree.AgreesOff

variable {t t' : FileTree} {places : Set Place} {place : Place} {p : Path}
  {ending? : Option String} (h : AgreesOff places t t')

include h

/-- A copy that is there is where it was made. -/
theorem mem_copiesIn (hplace : place ∈ p.copiesIn t ending?) (hthere : (t'.file? place).isSome) :
    place ∈ p.copiesIn t' ending? := by
  obtain ⟨ending, q, hending, hne, hq, rfl⟩ := hplace
  exact ⟨ending, q, hending, hne, hq, (h.copyGoal_eq hthere).symm⟩

/-- A copy is where one was made before, if that is still there. -/
theorem exists_mem_copiesIn (hplace : place ∈ p.copiesIn t' ending?) :
    ∃ made ∈ p.copiesIn t ending?, (t'.file? made).isSome → place = made := by
  obtain ⟨ending, q, hending, hne, hq, rfl⟩ := hplace
  exact ⟨_, ⟨ending, q, hending, hne, hq, rfl⟩, h.copyGoal_eq⟩

end FileTree.AgreesOff

/-! ### The steps of a replacement -/

namespace Journal

variable {target temporary : Path} {content old : ByteArray} {ending? : Option String}
  {path : String} {place goal : Place} {j j' : Journal}
  {outcome : Except FileFault Unit} {result : Except WriteFault Unit}

theorem run_kind? (path : String) (j : Journal) :
    (FileAccess.kind? (m := StateM Journal) path).run j =
      ((j.tree.kind? path).mapError fun kind => ⟨kind, path, none⟩, j) :=
  rfl

/-- Making directories changes no file. -/
theorem follows_makeDirectories {p : Path}
    (h : (makeDirectories (m := StateM Journal) p).run j = (outcome, j')) : Follows ∅ j j' := by
  let P (α : Type) (x _ : StateM Journal α) : Prop := ∀ j, Follows ∅ j (x.run j).2
  have hlogical : IsLogical P :=
    { pure := fun _ j => .refl ∅ j
      bind := fun hx hf j => (hx j).trans (hf _ _) }
  have hmade := hlogical.makeDirectories (fun _ j => .refl ∅ j)
    (fun path j => follows_take_of_touchesOnly rfl (Disk.touchesOnly_makeDirectory path)) p j
  rwa [h] at hmade

theorem follows_write
    (h : (FileAccess.write (m := StateM Journal) path content).run j = (outcome, j')) :
    Follows {placeOf j.tree.current path} j j' :=
  follows_take_of_touchesOnly h (Disk.touchesOnly_write path content)

theorem write_eq_ok
    (h : (FileAccess.write (m := StateM Journal) path content).run j = (.ok (), j')) :
    j.tree.write path content = .ok j'.tree :=
  Disk.attempt_eq_ok (take_eq h).1

/-- A file that is written without a fault has all of the content. -/
theorem file?_of_write
    (h : (FileAccess.write (m := StateM Journal) path content).run j = (.ok (), j')) :
    j'.tree.file? (placeOf j'.tree.current path) = some content := by
  obtain ⟨place, hplace, hfree, hput⟩ := write_eq_ok_iff.mp (write_eq_ok h)
  rw [(follows_write h).tree.current, ← locate_eq hplace, hput]
  exact file?_put_self (ne_nil_of_ne_directory hfree)

theorem follows_remove
    (h : (FileAccess.remove (m := StateM Journal) path).run j = (outcome, j')) :
    Follows {placeOf j.tree.current path} j j' :=
  follows_take_of_touchesOnly h (Disk.touchesOnly_remove path)

/-- A leftover is removed if it is found. -/
theorem removeLeftover_cases
    (h : (removeLeftover (m := StateM Journal) path).run j = (outcome, j')) :
    j' = j ∧ (∀ kind, j.tree.kind? path ≠ .ok (some kind)) ∨
      ∃ removed, (FileAccess.remove (m := StateM Journal) path).run j = (removed, j') := by
  rw [removeLeftover, run_bind, run_kind?] at h
  rcases hkind : j.tree.kind? path with fault | _ | kind <;> rw [hkind] at h <;> cases h
  · exact .inl ⟨rfl, nofun⟩
  · exact .inl ⟨rfl, nofun⟩
  · exact .inr ⟨_, rfl⟩

/-- Where nothing is found, nothing is done. -/
theorem removeLeftover_of_absent (habsent : j.tree.kind? path = .ok none)
    (h : (removeLeftover (m := StateM Journal) path).run j = (outcome, j')) :
    outcome = .ok () ∧ j' = j := by
  rw [removeLeftover, run_bind, run_kind?, habsent] at h
  cases h
  exact ⟨rfl, rfl⟩

theorem follows_removeLeftover
    (h : (removeLeftover (m := StateM Journal) path).run j = (outcome, j')) :
    Follows {placeOf j.tree.current path} j j' := by
  rcases removeLeftover_cases h with ⟨rfl, -⟩ | ⟨removed, hremove⟩
  · exact .refl _ _
  · exact follows_remove hremove

/-- What is still found after it was to be removed could not be removed. -/
theorem exists_remove_of_found {kind : EntryKind}
    (h : (removeLeftover (m := StateM Journal) path).run j = (outcome, j'))
    (hfound : j'.tree.kind? path = .ok (some kind)) :
    ∃ step ∈ j'.steps, step.action = .remove path ∧ step.outcome ≠ .ok () := by
  rcases removeLeftover_cases h with ⟨rfl, habsent⟩ | ⟨removed, hremove⟩
  · exact absurd hfound (habsent kind)
  obtain ⟨hdisk, hsteps⟩ := take_eq hremove
  refine ⟨⟨.remove path, removed, j'.tree⟩, by simp [hsteps], rfl, ?_⟩
  rintro rfl
  -- a file that was removed is not found
  have hremoved := Disk.attempt_eq_ok hdisk
  obtain ⟨place, content, hplace, hfile, hgone⟩ := remove_eq_ok_iff.mp hremoved
  have hlocate : j'.tree.locate path = .ok place :=
    (agreesOff_remove rfl hremoved).locate hplace
  have hne : place ≠ [] := by
    rintro rfl
    cases (FileTree.entry?_nil _).symm.trans hfile
  have hgone : j'.tree = j.tree.erase place := hgone
  rw [FileTree.kind?, hlocate] at hfound
  simp only [kindAt?, hgone, entry?_erase_self hne] at hfound
  cases hfound

/-! ### Copies -/

section

variable {source destination : String}

/-- A copy goes where copies go, if one is made. -/
theorem exists_follows_copy
    (h : (FileAccess.copy (m := StateM Journal) source destination).run j = (outcome, j')) :
    ∃ copies, Follows copies j j' ∧
      ∀ place ∈ copies,
        place = j.tree.copyGoal source destination ∧ (j'.tree.file? place).isSome := by
  rcases Disk.copy_cases (take_eq h).1 with
    ⟨-, hsame⟩ | ⟨content, place, written, -, hplace, hwritten, -⟩
  · refine ⟨∅, follows_take h ?_, by simp⟩
    rw [tree, tree, hsame]
    exact .refl ∅ _
  · obtain ⟨hfree, hgoal⟩ := copyPlace_eq_ok hplace
    have hwritten : j'.tree = j.tree.put place (.file written) := hwritten
    refine ⟨{place}, follows_take h (hwritten ▸ agreesOff_put hfree written), fun p hp => ?_⟩
    obtain rfl := Set.mem_singleton_iff.mp hp
    exact ⟨hgoal, by rw [hwritten, file?_put_self (ne_nil_of_ne_directory hfree)]; rfl⟩

/-- A copy that is made without a fault has the content of the file. -/
theorem file?_copyGoal
    (h : (FileAccess.copy (m := StateM Journal) source destination).run j = (.ok (), j'))
    (hold : j.tree.file? (placeOf j.tree.current source) = some old) :
    j'.tree.file? (j.tree.copyGoal source destination) = some old := by
  rcases Disk.copy_cases (take_eq h).1 with
    ⟨⟨fault, hfault⟩, -⟩ | ⟨content, place, written, hread, hplace, hwritten, hcomplete⟩
  · cases hfault
  · obtain ⟨hfree, hgoal⟩ := copyPlace_eq_ok hplace
    obtain ⟨found, hfrom, hcontent⟩ := bind_eq_ok_iff.mp hread
    rw [locate_eq hfrom, contentAt_eq_ok_iff, ← file?_eq_some_iff] at hcontent
    obtain rfl : content = old := Option.some.inj (hcontent.symm.trans hold)
    have hwritten : j'.tree = j.tree.put place (.file written) := hwritten
    have hgoal : place = j.tree.copyGoal source destination := hgoal
    rw [hwritten, ← hgoal, hcomplete rfl]
    exact file?_put_self (ne_nil_of_ne_directory hfree)

end

/-- No copy that was to be made has failed. -/
def CopiesSucceed (j : Journal) : Prop :=
  ∀ step ∈ j.steps, ∀ source goal, step.action = .copy source goal → step.outcome = .ok ()

/-- A file is copied aside, or no step is taken; and then, unless a fault is reported, there was
nothing to copy. -/
theorem backUp_cases (h : (backUp (m := StateM Journal) target ending?).run j = (result, j')) :
    j' = j ∧ (result = .ok () →
        ∀ ending, ending? = some ending → ending ≠ "" → j.tree.kind? target.text = .ok none) ∨
      ∃ ending backup copied, ending? = some ending ∧ ending ≠ "" ∧
        target.beside? ending = some backup ∧
        (FileAccess.copy (m := StateM Journal) target.text backup.text).run j = (copied, j') := by
  rw [backUp] at h
  split at h
  · next hnone =>
    cases h
    refine .inl ⟨rfl, fun _ ending hending hne => ?_⟩
    simp [hending, hne] at hnone
  next ending hsome =>
  obtain ⟨hending, hne⟩ := Option.filter_eq_some_iff.mp hsome
  rw [run_bind, run_kind?] at h
  rcases hkind : j.tree.kind? target.text with fault | _ | kind
  · rw [hkind] at h
    cases h
    exact .inl ⟨rfl, fun hresult => by cases hresult⟩
  · rw [hkind] at h
    cases h
    exact .inl ⟨rfl, fun _ _ _ _ => rfl⟩
  · rw [hkind] at h
    dsimp only [Except.mapError] at h
    split at h
    · cases h
      exact .inl ⟨rfl, fun hresult => by cases hresult⟩
    next backup hbackup =>
    rw [run_bind] at h
    rcases hcopy : (FileAccess.copy (m := StateM Journal) target.text backup.text).run j with
      ⟨copied, j₁⟩
    rw [hcopy] at h
    have hlast : j₁ = j' := by cases copied <;> exact congrArg Prod.snd h
    exact .inr ⟨ending, backup, copied, hending, by simpa using hne, hbackup,
      by rw [hcopy, hlast]⟩

/-- The copy of a file is beside it, if one is made. -/
theorem exists_follows_backUp
    (h : (backUp (m := StateM Journal) target ending?).run j = (result, j')) :
    ∃ copies, Follows copies j j' ∧
      ∀ place ∈ copies, place ∈ target.copiesIn j'.tree ending? ∧ (j'.tree.file? place).isSome := by
  rcases backUp_cases h with ⟨rfl, -⟩ | ⟨ending, backup, copied, hending, hne, hbackup, hcopy⟩
  · exact ⟨∅, .refl ∅ _, by simp⟩
  · obtain ⟨copies, hfollows, hcopies⟩ := exists_follows_copy hcopy
    refine ⟨copies, hfollows, fun place hplace => ?_⟩
    obtain ⟨rfl, hthere⟩ := hcopies place hplace
    exact ⟨hfollows.tree.mem_copiesIn ⟨ending, backup, hending, hne, hbackup, rfl⟩ hthere, hthere⟩

/-- If nothing fails, a file that can be found has a copy with its content. -/
theorem file?_of_backUp
    (h : (backUp (m := StateM Journal) target ending?).run j = (.ok (), j'))
    (hold : j.tree.file? (placeOf j.tree.current target.text) = some old)
    (hgoal : j'.tree.locate target.text = .ok goal) (hmade : CopiesSucceed j')
    (hplace : place ∈ target.copiesIn j'.tree ending?) : j'.tree.file? place = some old := by
  obtain ⟨ending, backup, hending, hne, hbackup, rfl⟩ := hplace
  rcases backUp_cases h with ⟨rfl, hnone⟩ | ⟨ending', backup', copied, hending', -, hbackup', hcopy⟩
  · -- the file is found, so it is copied
    have hkind := hnone rfl ending hending hne
    rw [← locate_eq hgoal, file?_eq_some_iff] at hold
    rw [FileTree.kind?, hgoal] at hkind
    simp only [kindAt?, hold] at hkind
    cases hkind
  · obtain rfl : ending' = ending := Option.some.inj (hending'.symm.trans hending)
    obtain rfl : backup' = backup := Option.some.inj (hbackup'.symm.trans hbackup)
    have hstep := hmade ⟨.copy target.text backup'.text, copied, j'.tree⟩
      (by simp [(take_eq hcopy).2]) _ _ rfl
    obtain rfl : copied = .ok () := hstep
    have hcopied := file?_copyGoal hcopy hold
    obtain ⟨copies, hfollows, -⟩ := exists_follows_copy hcopy
    rw [hfollows.tree.copyGoal_eq (by rw [hcopied]; rfl)]
    exact hcopied

/-! ### The whole replacement -/

/-- What a replacement does before the file is moved, by the journals at its beginning, after the
file was written under the other name, and after the old one was copied to some places. -/
structure Staged (target temporary : Path) (ending? : Option String) (j written copied : Journal)
    (copies : Set Place) : Prop where
  write : Follows {placeOf j.tree.current temporary.text} j written
  copy : Follows copies written copied
  isCopy : ∀ place ∈ copies, place ∈ target.copiesIn copied.tree ending? ∧
    (copied.tree.file? place).isSome

/-- Where nothing is copied, all that was done is to write a file under the other name. -/
theorem staged_of_follows {written : Journal}
    (h : Follows {placeOf j.tree.current temporary.text} j written) :
    Staged target temporary ending? j written written ∅ :=
  ⟨h, .refl ∅ written, by simp⟩

namespace Staged

variable {written copied last : Journal} {copies places : Set Place}
  (h : Staged target temporary ending? j written copied copies)

include h

theorem current : copied.tree.current = j.tree.current :=
  h.copy.tree.current.trans h.write.tree.current

/-- Up to the copy nothing changes but the file that is written first and the copy. -/
theorem follows : Follows ({placeOf j.tree.current temporary.text} ∪ copies) j copied :=
  h.write.trans_union h.copy

/-- What was copied is a copy as long as it is left alone. -/
theorem mem_copiesIn (hlast : Follows places copied last) (hplace : place ∈ copies)
    (hapart : place ∉ places) : place ∈ target.copiesIn last.tree ending? := by
  obtain ⟨hcopy, hthere⟩ := h.isCopy place hplace
  exact hlast.tree.mem_copiesIn hcopy (by rwa [hlast.tree.files place hapart])

end Staged

/-- What became of a file that was written and moved, by the journals after it was written, after
the old one was copied, and at the end. -/
structure Moved (target temporary : Path) (content : ByteArray) (ending? : Option String)
    (written copied last : Journal) : Prop where
  content : written.tree.file? (placeOf written.tree.current temporary.text) = some content
  replace : copied.tree.replace temporary.text target.text = .ok last.tree
  steps : last.steps =
    copied.steps ++ [⟨.replace temporary.text target.text, .ok (), last.tree⟩]
  backup : ∀ old, written.tree.file? (placeOf written.tree.current target.text) = some old →
    CopiesSucceed copied →
      ∀ place ∈ target.copiesIn copied.tree ending?, copied.tree.file? place = some old

/-- A file that was written is moved after the old one was copied, unless a fault is reported. -/
theorem moved_or_fault {made written copied last : Journal}
    (hwrite : (FileAccess.write (m := StateM Journal) temporary.text content).run made =
      (.ok (), written))
    (hcopy : (backUp (m := StateM Journal) target ending?).run written = (.ok (), copied))
    (hmove : (FileAccess.replace (m := StateM Journal) temporary.text target.text).run copied =
      (outcome, last)) :
    (∃ fault, outcome = .error fault) ∧ Follows ∅ copied last ∨
      outcome = .ok () ∧ Moved target temporary content ending? written copied last := by
  rcases Disk.replace_cases (take_eq hmove).1 with ⟨rfl, hreplace⟩ | ⟨⟨fault, rfl⟩, hsame⟩
  · refine .inr ⟨rfl, file?_of_write hwrite, hreplace, (take_eq hmove).2, ?_⟩
    intro old hold hmade place hplace
    obtain ⟨-, -, goal, -, -, -, hgoal, -⟩ := replace_eq_ok_iff.mp hreplace
    exact file?_of_backUp hcopy hold hgoal hmade hplace
  · refine .inl ⟨⟨_, rfl⟩, follows_take hmove ?_⟩
    have hsame : last.tree = copied.tree := hsame
    rw [hsame]
    exact .refl ∅ _

/-- A file is written and the old one copied, and then the new one is moved, unless a fault is
reported. -/
theorem writeThenMove_cases
    (h : (writeThenMove (m := StateM Journal) target temporary content ending?).run j =
      (result, j')) :
    ∃ (written copied : Journal) (copies : Set Place),
      Staged target temporary ending? j written copied copies ∧
      ((∃ fault, result = .error fault) ∧ Follows ∅ copied j' ∨
        result = .ok () ∧ Moved target temporary content ending? written copied j') := by
  rw [writeThenMove, run_bind] at h
  rcases hmake : (makeDirectories (m := StateM Journal) target.parent).run j with ⟨making, made⟩
  have hmade : Follows {placeOf j.tree.current temporary.text} j made :=
    (follows_makeDirectories hmake).mono (Set.empty_subset _)
  rw [hmake] at h
  rcases making with fault | _
  · cases h
    exact ⟨made, made, ∅, staged_of_follows hmade, .inl ⟨⟨_, rfl⟩, .refl ∅ made⟩⟩
  rw [run_bind] at h
  rcases hwrite : (FileAccess.write (m := StateM Journal) temporary.text content).run made with
    ⟨writing, written⟩
  have hwrote := follows_write hwrite
  rw [hmade.tree.current] at hwrote
  have hwritten := hmade.trans hwrote
  rw [hwrite] at h
  rcases writing with fault | _
  · cases h
    exact ⟨written, written, ∅, staged_of_follows hwritten, .inl ⟨⟨_, rfl⟩, .refl ∅ written⟩⟩
  rw [run_bind] at h
  rcases hcopy : (backUp (m := StateM Journal) target ending?).run written with ⟨copying, copied⟩
  obtain ⟨copies, hcopied, hcopies⟩ := exists_follows_backUp hcopy
  refine ⟨written, copied, copies, ⟨hwritten, hcopied, hcopies⟩, ?_⟩
  rw [hcopy] at h
  rcases copying with fault | _
  · cases h
    exact .inl ⟨⟨_, rfl⟩, .refl ∅ copied⟩
  rw [run_bind] at h
  rcases hmove : (FileAccess.replace (m := StateM Journal) temporary.text target.text).run copied
    with ⟨moving, last⟩
  rw [hmove] at h
  obtain rfl : moving.mapError .file = result := congrArg Prod.fst h
  obtain rfl : last = j' := congrArg Prod.snd h
  rcases moved_or_fault hwrite hcopy hmove with ⟨⟨fault, rfl⟩, hlast⟩ | ⟨rfl, hmoved⟩
  · exact .inl ⟨⟨_, rfl⟩, hlast⟩
  · exact .inr ⟨rfl, hmoved⟩

/-- Moving a file changes two files. -/
theorem Moved.follows {written copied last : Journal}
    (h : Moved target temporary content ending? written copied last) :
    Follows {placeOf copied.tree.current temporary.text, placeOf copied.tree.current target.text}
      copied last := by
  have hagrees := agreesOff_replace rfl h.replace
  refine ⟨hagrees, [_], h.steps, fun step hstep => ?_⟩
  rw [List.mem_singleton.mp hstep]
  exact hagrees

/-- After a file was written and moved, what is left of the file that was written first is removed;
of that only a fault in looking for it is reported. -/
theorem writeAtomic_cases
    (h : (writeAtomic (m := StateM Journal) target content ending?).run j = (result, j')) :
    (target.beside? temporaryEnding = none ∧ result = .error (.noName target) ∧ j' = j) ∨
      ∃ temporary outcome moved removed, target.beside? temporaryEnding = some temporary ∧
        (writeThenMove (m := StateM Journal) target temporary content ending?).run j =
          (outcome, moved) ∧
        (removeLeftover (m := StateM Journal) temporary.text).run moved = (removed, j') ∧
        (result = outcome ∧ removed = .ok () ∨
          ∃ fault, result = .error (.file fault) ∧ removed = .error fault) := by
  rw [writeAtomic] at h
  split at h
  · next hbeside =>
    cases h
    exact .inl ⟨hbeside, rfl, rfl⟩
  next temporary hbeside =>
  rw [run_bind] at h
  rcases hmove : (writeThenMove (m := StateM Journal) target temporary content ending?).run j with
    ⟨outcome, moved⟩
  rw [hmove, run_bind] at h
  rcases hremove : (removeLeftover (m := StateM Journal) temporary.text).run moved with
    ⟨fault | _, last⟩ <;> rw [hremove] at h <;> cases h
  · exact .inr ⟨temporary, outcome, moved, _, hbeside, hmove, hremove, .inr ⟨fault, rfl, rfl⟩⟩
  · exact .inr ⟨temporary, outcome, moved, _, hbeside, hmove, hremove, .inl ⟨rfl, rfl⟩⟩

/-- The replacement of a file changes at most the file, the one that is written first and the
copy. -/
theorem follows_writeAtomic
    (h : (writeAtomic (m := StateM Journal) target content ending?).run j = (result, j')) :
    Follows (target.replacementPlaces j.tree.current ending?) j j' := by
  rcases writeAtomic_cases h with ⟨-, -, rfl⟩ | ⟨temporary, outcome, moved, removed, hbeside, hmove,
    hremove, -⟩
  · exact .refl _ _
  obtain ⟨written, copied, copies, hstaged, hend⟩ := writeThenMove_cases hmove
  have htemporary : placeOf j.tree.current temporary.text ∈
      target.replacementPlaces j.tree.current ending? :=
    .inl (.inr ⟨temporary, hbeside, rfl⟩)
  have htarget : placeOf j.tree.current target.text ∈
      target.replacementPlaces j.tree.current ending? :=
    .inl (.inl rfl)
  have hbackup : copies ⊆ target.replacementPlaces j.tree.current ending? := by
    intro place hplace
    exact .inr (hstaged.current ▸
      target.copiesIn_subset copied.tree ending? (hstaged.isCopy place hplace).1)
  have hmoved : Follows (target.replacementPlaces j.tree.current ending?) copied moved := by
    rcases hend with ⟨-, hmoved⟩ | ⟨-, hmoved⟩
    · exact hmoved.mono (Set.empty_subset _)
    · refine hmoved.follows.mono ?_
      rw [hstaged.current]
      exact Set.insert_subset htemporary (Set.singleton_subset_iff.mpr htarget)
  have hfirst := Set.singleton_subset_iff.mpr htemporary
  have hall := (hstaged.follows.mono (Set.union_subset hfirst hbackup)).trans hmoved
  have hremoved := follows_removeLeftover hremove
  rw [hall.tree.current] at hremoved
  exact hall.trans (hremoved.mono hfirst)

end Journal

/-! ### The places of a replacement -/

namespace Path.IsNormal

variable {target temporary : Path} {ending? : Option String} {t : FileTree}

theorem placeOf_temporary (hp : target.IsNormal)
    (hq : target.beside? temporaryEnding = some temporary) (current : Place) :
    placeOf current temporary.text =
      target.directory current ++ [target.name ++ temporaryEnding] :=
  hp.placeOf_beside (by decide) hq current

/-- The file that is written first is not its target. -/
theorem temporary_ne (hp : target.IsNormal)
    (hq : target.beside? temporaryEnding = some temporary) (current : Place) :
    placeOf current target.text ≠ placeOf current temporary.text := by
  rw [hp.placeOf_temporary hq]
  exact hp.placeOf_ne (beside?_eq_some_iff.mp hq).1 (by simp [temporaryEnding]) current []

/-- A copy is in the directory of the file, by a longer name or below it. -/
theorem exists_of_mem_copiesIn (hp : target.IsNormal) {place : Place}
    (h : place ∈ target.copiesIn t ending?) :
    ∃ ending rest, ending? = some ending ∧ ending ≠ "" ∧ target.names ≠ [] ∧
      place = target.directory t.current ++ (target.name ++ ending) :: rest := by
  obtain ⟨ending, backup, hending, hne, hbackup, rfl⟩ := h
  have hplace := hp.placeOf_beside hne hbackup t.current
  refine ⟨ending, ?_⟩
  rcases t.copyGoal_mem target.text backup.text with hgoal | hgoal
  · exact ⟨[], hending, hne, (beside?_eq_some_iff.mp hbackup).1, by rw [hgoal, hplace]⟩
  · refine ⟨[lastName target.text], hending, hne, (beside?_eq_some_iff.mp hbackup).1, ?_⟩
    rw [Set.mem_singleton_iff.mp hgoal, hplace, List.append_assoc, List.singleton_append]

/-- A copy is not the file. -/
theorem target_notMem_copiesIn (hp : target.IsNormal) :
    placeOf t.current target.text ∉ target.copiesIn t ending? := by
  intro h
  obtain ⟨ending, rest, -, hne, hnames, hplace⟩ := hp.exists_of_mem_copiesIn h
  exact hp.placeOf_ne hnames (by simpa using hne) t.current rest hplace

/-- A copy is not the file that is written first, unless it has the same ending. -/
theorem temporary_notMem_copiesIn (hp : target.IsNormal)
    (hq : target.beside? temporaryEnding = some temporary)
    (hending : ending? ≠ some temporaryEnding) :
    placeOf t.current temporary.text ∉ target.copiesIn t ending? := by
  intro h
  obtain ⟨ending, rest, rfl, -, -, hplace⟩ := hp.exists_of_mem_copiesIn h
  rw [hp.placeOf_temporary hq] at hplace
  have hname := (List.cons_eq_cons.mp (List.append_cancel_left hplace)).1
  exact hending (congrArg some ((String.append_right_inj _).mp hname).symm)

end Path.IsNormal

/-! ### What a success means -/

namespace Journal

variable {target temporary : Path} {content : ByteArray} {ending? : Option String}
  {j j' written copied last : Journal} {copies : Set Place}

namespace Staged

variable (h : Staged target temporary ending? j written copied copies) (hp : target.IsNormal)

include h hp

theorem target_notMem : placeOf j.tree.current target.text ∉ copies := by
  intro hmem
  rw [← h.current] at hmem
  exact hp.target_notMem_copiesIn (h.isCopy _ hmem).1

theorem temporary_notMem (hbeside : target.beside? temporaryEnding = some temporary)
    (hending : ending? ≠ some temporaryEnding) :
    placeOf j.tree.current temporary.text ∉ copies := by
  intro hmem
  rw [← h.current] at hmem
  exact hp.temporary_notMem_copiesIn hbeside hending (h.isCopy _ hmem).1

end Staged

namespace Moved

variable (h : Moved target temporary content ending? written copied last)
  (hstaged : Staged target temporary ending? j written copied copies)

include h hstaged

/-- A file that was moved has its new content. -/
theorem file?_target (hapart : placeOf j.tree.current temporary.text ∉ copies) :
    last.tree.locate target.text = .ok (placeOf j.tree.current target.text) ∧
      last.tree.file? (placeOf j.tree.current target.text) = some content := by
  obtain ⟨source, found, goal, hsource, hfile, -, hgoal, hfree, hlast⟩ :=
    replace_eq_ok_iff.mp h.replace
  obtain rfl : source = placeOf j.tree.current temporary.text := by
    rw [locate_eq hsource, hstaged.current]
  obtain rfl : goal = placeOf j.tree.current target.text := by
    rw [locate_eq hgoal, hstaged.current]
  -- what is moved is what was written, since the copy is another file
  have hfound : found = content := by
    have hleft := hstaged.copy.tree.files _ hapart
    have hwritten := h.content
    rw [hstaged.write.tree.current] at hwritten
    rw [file?_eq_some_iff.mpr hfile, hwritten] at hleft
    exact Option.some.inj hleft
  refine ⟨(agreesOff_replace rfl h.replace).locate hgoal, ?_⟩
  rw [hlast, hfound]
  exact file?_put_self (ne_nil_of_ne_directory hfree)

/-- Nothing is left of the file that was written first. -/
theorem kind?_temporary
    (hne : placeOf j.tree.current target.text ≠ placeOf j.tree.current temporary.text) :
    last.tree.kind? temporary.text = .ok none := by
  obtain ⟨source, found, goal, hsource, hfile, -, hgoal, hfree, hlast⟩ :=
    replace_eq_ok_iff.mp h.replace
  have hsame : source ≠ goal := by
    rw [locate_eq hsource, locate_eq hgoal, hstaged.current]
    exact hne.symm
  have hlocate := (agreesOff_replace rfl h.replace).locate hsource
  have hsourceNe : source ≠ [] := by
    rintro rfl
    cases (FileTree.entry?_nil _).symm.trans hfile
  have hgone : last.tree.entry? source = none := by
    rw [hlast, entry?_put_of_ne hsame, entry?_erase_self hsourceNe]
  rw [FileTree.kind?, hlocate]
  simp only [kindAt?, hgone]

end Moved

/-- A file that is replaced has its new content afterwards. -/
theorem file?_of_writeAtomic (hp : target.IsNormal) (hending : ending? ≠ some temporaryEnding)
    (h : (writeAtomic (m := StateM Journal) target content ending?).run j = (.ok (), j')) :
    j'.tree.locate target.text = .ok (placeOf j.tree.current target.text) ∧
      j'.tree.file? (placeOf j.tree.current target.text) = some content := by
  rcases writeAtomic_cases h with ⟨-, hresult, -⟩ | ⟨temporary, outcome, moved, removed, hbeside,
    hmove, hremove, ⟨rfl, -⟩ | ⟨fault, hresult, -⟩⟩
  · cases hresult
  · obtain ⟨written, copied, copies, hstaged, ⟨⟨fault, hfault⟩, -⟩ | ⟨-, hmoved⟩⟩ :=
      writeThenMove_cases hmove
    · cases hfault
    obtain ⟨hlocate, hfile⟩ :=
      hmoved.file?_target hstaged (hstaged.temporary_notMem hp hbeside hending)
    have hremoved := follows_removeLeftover hremove
    rw [hmoved.follows.tree.current, hstaged.current] at hremoved
    exact ⟨hremoved.tree.locate hlocate,
      (hremoved.tree.files _ (hp.temporary_ne hbeside _)).trans hfile⟩
  · cases hresult

end Journal

/-! ### Disks without a journal -/

namespace Disk

variable {current : Place} {target : Path} {content : ByteArray} {ending? : Option String}
  {d d' : Disk}

/-- Making directories changes no file. -/
theorem touchesOnly_makeDirectories (path : Path) :
    TouchesOnly current ∅ (makeDirectories (m := StateM Disk) path) := by
  let P (α : Type) (x _ : StateM Disk α) : Prop := TouchesOnly current ∅ x
  have hlogical : IsLogical P := { pure := .pure, bind := .bind }
  exact hlogical.makeDirectories touchesOnly_kind? touchesOnly_makeDirectory path

/-- The replacement of a file changes at most the file, the one that is written first and the
copy. -/
theorem touchesOnly_writeAtomic (target : Path) (content : ByteArray) (ending? : Option String) :
    TouchesOnly current (target.replacementPlaces current ending?)
      (writeAtomic (m := StateM Disk) target content ending?) := by
  rintro d rfl
  have hsame := (Journal.isParametric_records.writeAtomic target content ending? ⟨d, []⟩).2
  rcases hrun : (writeAtomic (m := StateM Journal) target content ending?).run ⟨d, []⟩ with ⟨_, j'⟩
  rw [hrun] at hsame
  rw [← hsame]
  exact (Journal.follows_writeAtomic hrun).tree

/-- A file that is replaced has its new content afterwards. -/
theorem read_of_writeAtomic (hp : target.IsNormal) (hending : ending? ≠ some temporaryEnding)
    (h : (writeAtomic (m := StateM Disk) target content ending?).run d = (.ok (), d')) :
    d'.tree.read target.text = .ok content ∧
      d'.tree.file? (placeOf d.tree.current target.text) = some content := by
  have hsame := Journal.isParametric_records.writeAtomic target content ending? ⟨d, []⟩
  rcases hrun : (writeAtomic (m := StateM Journal) target content ending?).run ⟨d, []⟩ with ⟨_, j'⟩
  rw [hrun, h] at hsame
  obtain ⟨hresult, hdisk⟩ := hsame
  dsimp only at hresult hdisk
  subst hresult hdisk
  obtain ⟨hlocate, hfile⟩ := Journal.file?_of_writeAtomic hp hending hrun
  have hthere := contentAt_eq_ok_iff.mpr (file?_eq_some_iff.mp hfile)
  exact ⟨bind_eq_ok_iff.mpr ⟨_, hlocate, hthere⟩, hfile⟩

end Disk

end NumericControl
