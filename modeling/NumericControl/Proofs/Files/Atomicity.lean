import NumericControl.Proofs.Files.Undisturbed

/-!
# A file is replaced as a whole

Whatever fails on the way, and whatever an earlier run left behind, a file that is replaced has its
old content or the new one after every step: the new content becomes visible in one step, which is
made only after all of it was written elsewhere.  A fault that is reported leaves the file as it
was.  The copy that is kept of the old content is beside the file, or, where a directory has the
name of the copy, in that directory.

## Main definitions

* `IsAtomicReplacement` : what a replacement does to files, step by step and in the end.

## Main results

* `isAtomicReplacement_writeAtomic` : every replacement is one.
* `writeAtomic_copies_into_directory` : a copy that goes into a directory.
-/

namespace NumericControl

open FileTree

/-- What the replacement of a file does: `before` is the tree that it starts from, and `j` the
journal that it leaves, in which nothing else is written. -/
structure IsAtomicReplacement (target : Path) (content : ByteArray) (ending? : Option String)
    (before : FileTree) (result : Except WriteFault Unit) (j : Journal) : Prop where
  /-- After every step the file has its old content, if it had one, or all of the new content. -/
  whole : ∀ step ∈ j.steps,
    step.after.file? (placeOf before.current target.text) =
        before.file? (placeOf before.current target.text) ∨
      step.after.file? (placeOf before.current target.text) = some content
  /-- A fault leaves the file as it was. -/
  kept : ∀ fault, result = .error fault →
    j.tree.file? (placeOf before.current target.text) =
      before.file? (placeOf before.current target.text)
  /-- Without a fault the file has the new content. -/
  replaced : result = .ok () → j.tree.file? (placeOf before.current target.text) = some content
  /-- Without a fault the old content is in the copy, unless copying failed. -/
  backedUp : result = .ok () → j.CopiesSucceed →
    ∀ old, before.file? (placeOf before.current target.text) = some old →
      ∀ place ∈ target.copiesIn j.tree ending?, j.tree.file? place = some old
  /-- Nothing has the name of the file that was written first, unless it could not be removed. -/
  cleared : ∀ temporary, target.beside? temporaryEnding = some temporary →
    (∃ kind, j.tree.kind? temporary.text = .ok (some kind)) →
      ∃ step ∈ j.steps, step.action = .remove temporary.text ∧ step.outcome ≠ .ok ()
  /-- All other files are as they were. -/
  others : ∀ place, place ≠ placeOf before.current target.text →
    place ∉ target.besides before.current temporaryEnding → place ∉ target.copiesIn j.tree ending? →
      j.tree.file? place = before.file? place

namespace Journal.Staged

variable {target temporary : Path} {content : ByteArray} {ending? : Option String}
  {j written copied moved last : Journal} {copies : Set Place} {place : Place}
  {result : Except WriteFault Unit} {removed : Except FileFault Unit}
  (h : Staged target temporary ending? j written copied copies) (hp : target.IsNormal)
  (hbeside : target.beside? temporaryEnding = some temporary)

include h hp hbeside

theorem target_notMem_union :
    placeOf j.tree.current target.text ∉
      ({placeOf j.tree.current temporary.text} ∪ copies : Set Place) := by
  rintro (hmem | hmem)
  · exact hp.temporary_ne hbeside _ (Set.mem_singleton_iff.mp hmem)
  · exact h.target_notMem hp hmem

/-- If the file is not moved, and what was written first is removed, the file is as it was. -/
theorem isAtomicReplacement_of_fault (hsteps : j.steps = [])
    (hfault : ∃ fault, result = .error fault) (hmoved : Follows ∅ copied moved)
    (hremove : (removeLeftover (m := StateM Journal) temporary.text).run moved = (removed, last)) :
    IsAtomicReplacement target content ending? j.tree result last := by
  have hremoved := follows_removeLeftover hremove
  rw [hmoved.tree.current, h.current] at hremoved
  have hend := (hmoved.mono (Set.empty_subset _)).trans hremoved
  have hall := h.follows.trans (hend.mono Set.subset_union_left)
  have htarget := h.target_notMem_union hp hbeside
  obtain ⟨fault, rfl⟩ := hfault
  refine ⟨fun step hstep => ?_, fun _ _ => hall.tree.files _ htarget, nofun, nofun, ?_, ?_⟩
  · have hstep := hall.file?_after htarget hstep
    rw [hsteps] at hstep
    exact .inl (hstep.resolve_left List.not_mem_nil)
  · rintro other hother ⟨kind, hfound⟩
    obtain rfl := Option.some.inj (hbeside.symm.trans hother)
    exact exists_remove_of_found hremove hfound
  · intro place _ hfirst hcopy
    have hfirst : place ∉ ({placeOf j.tree.current temporary.text} : Set Place) :=
      fun hmem => hfirst ⟨temporary, hbeside, hmem⟩
    refine hall.tree.files place ?_
    rintro (hmem | hmem)
    · exact hfirst hmem
    · exact hcopy (h.mem_copiesIn hend hmem hfirst)

section

variable (hmoved : Moved target temporary content ending? written copied last)

include hmoved

omit hp hbeside in
theorem follows_of_moved :
    Follows {placeOf j.tree.current temporary.text, placeOf j.tree.current target.text}
      copied last := by
  have hend := hmoved.follows
  rwa [h.current] at hend

/-- The move is the only step that changes the file. -/
theorem file?_after_of_moved {step : DiskStep} (hstep : step ∈ last.steps) :
    step ∈ j.steps ∨ step.after.file? (placeOf j.tree.current target.text) =
        j.tree.file? (placeOf j.tree.current target.text) ∨ step.after = last.tree := by
  rw [hmoved.steps, List.mem_append, List.mem_singleton] at hstep
  rcases hstep with hstep | rfl
  · exact (h.follows.file?_after (h.target_notMem_union hp hbeside) hstep).imp_right .inl
  · exact .inr (.inr rfl)

variable (hending : ending? ≠ some temporaryEnding)

include hending

/-- The copy has the old content, since it is none of the two files that the move changes. -/
theorem file?_copy_of_moved {old : ByteArray} (hmade : CopiesSucceed last)
    (hold : j.tree.file? (placeOf j.tree.current target.text) = some old)
    (hplace : place ∈ target.copiesIn last.tree ending?) : last.tree.file? place = some old := by
  have hend := h.follows_of_moved hmoved
  have hwritten : written.tree.file? (placeOf written.tree.current target.text) = some old := by
    rw [h.write.tree.current, h.write.tree.files _ (hp.temporary_ne hbeside _), hold]
  have hmade : CopiesSucceed copied := fun step hstep => hmade step (hend.mem_steps hstep)
  obtain ⟨made, hcopy, hthere⟩ := hend.tree.exists_mem_copiesIn hplace
  have hapart : made ∉ ({placeOf j.tree.current temporary.text,
      placeOf j.tree.current target.text} : Set Place) := by
    rw [← h.current]
    rintro (rfl | rfl)
    · exact hp.temporary_notMem_copiesIn hbeside hending hcopy
    · exact hp.target_notMem_copiesIn hcopy
  have hcontent := hmoved.backup old hwritten hmade made hcopy
  rw [← hend.tree.files made hapart] at hcontent
  rw [hthere (by rw [hcontent]; rfl), hcontent]

/-- If the file is moved, it has the new content, and the copy has the old one. -/
theorem isAtomicReplacement_of_moved (hsteps : j.steps = []) :
    IsAtomicReplacement target content ending? j.tree (.ok ()) last := by
  have hend := h.follows_of_moved hmoved
  have hfile := (hmoved.file?_target h (h.temporary_notMem hp hbeside hending)).2
  refine ⟨fun step hstep => ?_, nofun, fun _ => hfile, fun _ hmade old hold place hplace => ?_,
    ?_, ?_⟩
  · rcases h.file?_after_of_moved hp hbeside hmoved hstep with hstep | hsame | hlast
    · rw [hsteps] at hstep
      cases hstep
    · exact .inl hsame
    · exact .inr (hlast ▸ hfile)
  · exact h.file?_copy_of_moved hp hbeside hmoved hending hmade hold hplace
  · rintro other hother ⟨kind, hfound⟩
    obtain rfl := Option.some.inj (hbeside.symm.trans hother)
    rw [hmoved.kind?_temporary h (hp.temporary_ne hbeside _)] at hfound
    cases hfound
  · intro place hplace hother hcopy
    have hother : place ≠ placeOf j.tree.current temporary.text :=
      fun hmem => hother ⟨temporary, hbeside, hmem⟩
    have hapart : place ∉ ({placeOf j.tree.current temporary.text,
        placeOf j.tree.current target.text} : Set Place) := by simp [hplace, hother]
    rw [hend.tree.files place hapart]
    refine h.follows.tree.files place ?_
    rintro (hmem | hmem)
    · exact hother hmem
    · exact hcopy (h.mem_copiesIn hend hmem hapart)

end

end Journal.Staged

/-- **A file is replaced as a whole.** Whatever stands in the tree before, leftovers of the file
that is written first and of the copy included, and whichever operations fail, possibly with a part
of what they were to write: after every step the file has its old content or all of the new one.
If a fault is reported, the file is as it was; otherwise it has the new content, and the copy, if
one was to be kept of a file that was there and copying did not fail, has the old one.  Nothing has
the name of the file that was written first, unless removing it failed, and no other file has
changed.  The ending of the copy is any other than that of the file that is written first, an empty
one being none; the copy is the file with the longer name, or one in the directory that has this
name. -/
theorem isAtomicReplacement_writeAtomic (path : String) (content : ByteArray)
    {ending? : Option String} (hending : ending? ≠ some temporaryEnding) (d : Disk) :
    IsAtomicReplacement (Path.ofText path) content ending? d.tree
      ((writeAtomic (m := StateM Journal) (Path.ofText path) content ending?).run ⟨d, []⟩).1
      ((writeAtomic (m := StateM Journal) (Path.ofText path) content ending?).run ⟨d, []⟩).2 := by
  have hp := Path.isNormal_ofText path
  rcases hrun : (writeAtomic (m := StateM Journal) (Path.ofText path) content ending?).run ⟨d, []⟩
    with ⟨result, last⟩
  rcases Journal.writeAtomic_cases hrun with ⟨hnone, rfl, rfl⟩ |
    ⟨temporary, outcome, moved, removed, hbeside, hmove, hremove, hresult⟩
  · refine ⟨by simp, fun _ _ => rfl, nofun, nofun, fun temporary hsome => ?_, fun _ _ _ _ => rfl⟩
    cases hnone.symm.trans hsome
  obtain ⟨written, copied, copies, hstaged, ⟨⟨fault, rfl⟩, hmoved⟩ | ⟨rfl, hmoved⟩⟩ :=
    Journal.writeThenMove_cases hmove
  · have hfault : ∃ fault, result = .error fault := by
      rcases hresult with ⟨rfl, -⟩ | ⟨fault, rfl, -⟩ <;> exact ⟨_, rfl⟩
    exact hstaged.isAtomicReplacement_of_fault hp hbeside rfl hfault hmoved hremove
  · have hne := hp.temporary_ne hbeside d.tree.current
    obtain ⟨rfl, rfl⟩ :=
      Journal.removeLeftover_of_absent (hmoved.kind?_temporary hstaged hne) hremove
    rcases hresult with ⟨rfl, -⟩ | ⟨fault, -, hfault⟩
    · exact hstaged.isAtomicReplacement_of_moved hp hbeside hmoved hending rfl
    · cases hfault

/-- A file, and what an interrupted run left behind. -/
def leftoverTree : FileTree :=
  { entries := [(["s"], .file "old".toUTF8), (["s.tmp"], .file "n".toUTF8)] }

/-- A disk on which one byte is written before there is no space left, and nothing is removed. -/
def failingDisk : Disk :=
  ⟨leftoverTree, [none, some ⟨.other 28 "No space left on device", some 1⟩,
    some ⟨.other 5 "Input/output error", none⟩]⟩

theorem isAtomicReplacement_failingDisk :
    some ".backup" ≠ some temporaryEnding ∧
      IsAtomicReplacement (Path.ofText "s") "new".toUTF8 (some ".backup") leftoverTree
        ((writeAtomic (m := StateM Journal) (Path.ofText "s") "new".toUTF8 (some ".backup")).run
          ⟨failingDisk, []⟩).1
        ((writeAtomic (m := StateM Journal) (Path.ofText "s") "new".toUTF8 (some ".backup")).run
          ⟨failingDisk, []⟩).2 := by
  have hending : some ".backup" ≠ some temporaryEnding := by decide
  exact ⟨hending, isAtomicReplacement_writeAtomic "s" "new".toUTF8 hending failingDisk⟩

/-- A file, and a directory that has the name of its copy. -/
def directoryTree : FileTree :=
  { entries := [(["s"], .file "old".toUTF8), (["s.backup"], .directory),
      (["s.backup", "note"], .file .empty)] }

theorem locate_directoryTree {name : String} (h : isFileName name = true) :
    directoryTree.locate (Path.ofText name).text = .ok [name] :=
  locate_text_of_isFileName h rfl

theorem besides_directoryTree {ending : String} (h : isFileName "s" = true)
    (hbeside : isFileName ("s" ++ ending) = true) :
    (Path.ofText "s").besides directoryTree.current ending = {["s" ++ ending]} := by
  have hplace := locate_eq (locate_directoryTree hbeside)
  ext place
  simp [Path.besides, Path.beside?_of_isFileName h hbeside, ← hplace]

/-- The copy is none of the three files that have the name of the file, that name with the ending of
the file that is written first, and that name with the ending of the copy: a directory has the last
of these names, and gets one more file. -/
theorem writeAtomic_copies_into_directory :
    placeOf directoryTree.current (Path.ofText "s").text = ["s"] ∧
      (Path.ofText "s").besides directoryTree.current temporaryEnding = {["s.tmp"]} ∧
      (Path.ofText "s").besides directoryTree.current ".backup" = {["s.backup"]} ∧
      directoryTree.file? ["s.backup", "s"] = none ∧
      ∃ d', (writeAtomic (m := StateM Disk) (Path.ofText "s") "new".toUTF8 (some ".backup")).run
          ⟨directoryTree, []⟩ = (.ok (), d') ∧
        d'.tree.file? ["s.backup", "s"] = some "old".toUTF8 ∧
        d'.tree.file? ["s.backup"] = none := by
  have hname : isFileName "s" = true := by decide
  have hfirst : isFileName "s.tmp" = true := by decide
  have hcopy : isFileName "s.backup" = true := by decide
  have hlast : lastName (Path.ofText "s").text = "s" := by
    have hslash : '/' ∉ "s".toList := by decide
    have hparts : "s".splitOn "/" = ["s"] := Text.splitOn_of_not_mem hslash
    rw [Path.text_of_isFileName hname, lastName, hparts]
    rfl
  have hnone : directoryTree.entry? ["s.tmp"] = none := rfl
  have hfree : directoryTree.entry? ["s.tmp"] ≠ some .directory := by simp [hnone]
  have hwritten := agreesOff_put hfree "new".toUTF8
  have hnew : FileTree.entry? (directoryTree.put ["s.tmp"] (.file "new".toUTF8))
      ["s.backup", "s"] = none := rfl
  have hinner : FileTree.entry? (directoryTree.put ["s.tmp"] (.file "new".toUTF8))
      (["s.backup"] ++ [lastName (Path.ofText "s").text]) ≠ some .directory := by
    rw [hlast]
    intro h
    cases hnew.symm.trans h
  have hbackUp := Disk.run_backUp_of_directory (by decide : ".backup" ≠ "")
    (Path.beside?_of_isFileName hname hcopy) (hwritten.locate (locate_directoryTree hname))
    (by rfl : FileTree.entry? _ _ = some (.file "old".toUTF8))
    (hwritten.locate (locate_directoryTree hcopy)) rfl hinner
  rw [hlast] at hbackUp hinner
  have hrun := Disk.run_writeAtomic (Path.beside?_of_isFileName hname hfirst)
    (lastName_of_isFileName hname) (locate_parent_of_isFileName hname rfl) rfl
    (locate_directoryTree hname) (locate_directoryTree hfirst) hfree (by decide) hbackUp
    (agreesOff_put hinner "old".toUTF8) (by decide) (fun h => by cases h)
  refine ⟨(locate_eq (locate_directoryTree hname)).symm, besides_directoryTree hname hfirst,
    besides_directoryTree hname hcopy, rfl, _, hrun, rfl, rfl⟩

end NumericControl
