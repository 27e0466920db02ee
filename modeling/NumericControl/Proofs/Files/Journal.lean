import NumericControl.Proofs.Files.Disk
import NumericControl.Proofs.Files.Programs

/-!
# Journals of disks

A disk with a journal keeps a record of every step that can change it: what was asked for, how that
ended, and the tree after it.  So what holds after every step of a run can be said and proved, and
not only what holds at its end.  The journal makes no difference to the run: programs that only use
the operations of a file system end alike on a disk with and without one.

## Main definitions

* `DiskStep` : a step.
* `Journal` : a disk and the steps made on it.
* `Journal.Follows` : a journal that goes on from another one, while no file changes but those at
  some places.
* `Journal.Records` : a program that does what another one does and keeps a journal.

## Main results

* `Journal.Follows.trans` : journals are continued one after another.
* `Journal.follows_take` : what a single step does.
* `Journal.isParametric_records` : the journal makes no difference to what a program does.
-/

namespace NumericControl

open FileTree

/-- What a disk is asked to do that can change it. -/
inductive DiskAction where
  | write (path : String) (content : ByteArray)
  | ensureFile (path : String)
  | makeDirectory (path : String)
  | copy (source target : String)
  | replace (source target : String)
  | remove (path : String)

/-- A step: what was asked for, how that ended, and the tree after it. -/
structure DiskStep where
  action : DiskAction
  outcome : Except FileFault Unit
  after : FileTree

/-- A disk and the steps made on it, the first one first. -/
structure Journal where
  disk : Disk
  steps : List DiskStep := []

namespace Journal

/-- The tree as it is now. -/
def tree (j : Journal) : FileTree :=
  j.disk.tree

/-- Look at the disk. -/
def look {α : Type} (x : StateM Disk α) : StateM Journal α := fun j =>
  ((x.run j.disk).1, ⟨(x.run j.disk).2, j.steps⟩)

/-- Take a step. -/
def take (action : DiskAction) (x : StateM Disk (Except FileFault Unit)) :
    StateM Journal (Except FileFault Unit) := fun j =>
  let (outcome, disk) := x.run j.disk
  (outcome, ⟨disk, j.steps ++ [⟨action, outcome, disk.tree⟩]⟩)

end Journal

instance : FileAccess (StateM Journal) where
  kind? path := Journal.look (FileAccess.kind? path)
  read path := Journal.look (FileAccess.read path)
  write path content := Journal.take (.write path content) (FileAccess.write path content)
  ensureFile path := Journal.take (.ensureFile path) (FileAccess.ensureFile path)
  makeDirectory path := Journal.take (.makeDirectory path) (FileAccess.makeDirectory path)
  copy source target := Journal.take (.copy source target) (FileAccess.copy source target)
  replace source target := Journal.take (.replace source target) (FileAccess.replace source target)
  remove path := Journal.take (.remove path) (FileAccess.remove path)
  currentDirectory := Journal.look FileAccess.currentDirectory

namespace Journal

variable {α β : Type} {places more : Set Place} {place : Place} {j j' j'' : Journal}

theorem run_bind (x : StateM Journal α) (f : α → StateM Journal β) (j : Journal) :
    (x >>= f).run j = (f (x.run j).1).run (x.run j).2 :=
  rfl

/-! ### What a journal goes on with -/

/-- A journal that goes on from another one: after each of the steps that are new, and now, no file
differs from what it was but those at some places. -/
structure Follows (places : Set Place) (j j' : Journal) : Prop where
  tree : AgreesOff places j.tree j'.tree
  steps : ∃ new, j'.steps = j.steps ++ new ∧ ∀ step ∈ new, AgreesOff places j.tree step.after

namespace Follows

theorem refl (places : Set Place) (j : Journal) : Follows places j j :=
  ⟨.refl places j.tree, [], by simp, by simp⟩

theorem mono (h : Follows places j j') (hplaces : places ⊆ more) : Follows more j j' := by
  obtain ⟨htree, new, hnew, hsteps⟩ := h
  exact ⟨htree.mono hplaces, new, hnew, fun step hstep => (hsteps step hstep).mono hplaces⟩

theorem trans (h : Follows places j j') (h' : Follows places j' j'') : Follows places j j'' := by
  obtain ⟨htree, first, hfirst, hsteps⟩ := h
  obtain ⟨htree', second, hsecond, hsteps'⟩ := h'
  refine ⟨htree.trans htree', first ++ second, by rw [hsecond, hfirst, List.append_assoc], ?_⟩
  intro step hstep
  rcases List.mem_append.mp hstep with hstep | hstep
  · exact hsteps step hstep
  · exact htree.trans (hsteps' step hstep)

/-- Files at some places change, and then files at others. -/
theorem trans_union (h : Follows places j j') (h' : Follows more j' j'') :
    Follows (places ∪ more) j j'' :=
  (h.mono Set.subset_union_left).trans (h'.mono Set.subset_union_right)

/-- Steps stay in the journal. -/
theorem mem_steps (h : Follows places j j') {step : DiskStep} (hstep : step ∈ j.steps) :
    step ∈ j'.steps := by
  obtain ⟨-, new, hnew, -⟩ := h
  rw [hnew]
  exact List.mem_append_left new hstep

/-- A file at another place is the same after every step that is new. -/
theorem file?_after (h : Follows places j j') (hplace : place ∉ places) {step : DiskStep}
    (hstep : step ∈ j'.steps) : step ∈ j.steps ∨ step.after.file? place = j.tree.file? place := by
  obtain ⟨-, new, hnew, hsteps⟩ := h
  rw [hnew] at hstep
  exact (List.mem_append.mp hstep).imp_right fun hstep => (hsteps step hstep).files place hplace

end Follows

/-- A step is made on the disk and written down. -/
theorem take_eq {action : DiskAction} {x : StateM Disk (Except FileFault Unit)}
    {outcome : Except FileFault Unit} (h : (take action x).run j = (outcome, j')) :
    x.run j.disk = (outcome, j'.disk) ∧ j'.steps = j.steps ++ [⟨action, outcome, j'.tree⟩] := by
  obtain ⟨rfl, rfl⟩ := Prod.ext_iff.mp h
  exact ⟨rfl, rfl⟩

/-- A step that changes files at some places only. -/
theorem follows_take {action : DiskAction} {x : StateM Disk (Except FileFault Unit)}
    {outcome : Except FileFault Unit} (h : (take action x).run j = (outcome, j'))
    (hagrees : AgreesOff places j.tree j'.tree) : Follows places j j' := by
  refine ⟨hagrees, [_], (take_eq h).2, fun step hstep => ?_⟩
  rw [List.mem_singleton.mp hstep]
  exact hagrees

theorem follows_take_of_touchesOnly {action : DiskAction}
    {x : StateM Disk (Except FileFault Unit)} {outcome : Except FileFault Unit}
    (h : (take action x).run j = (outcome, j'))
    (hx : Disk.TouchesOnly j.tree.current places x) : Follows places j j' := by
  have hagrees := hx j.disk rfl
  rw [(take_eq h).1] at hagrees
  exact follows_take h hagrees

/-! ### Programs with and without a journal -/

/-- A program that ends as another one does and leaves the same disk, and keeps a journal. -/
def Records (α : Type) (x : StateM Journal α) (y : StateM Disk α) : Prop :=
  ∀ j, (x.run j).1 = (y.run j.disk).1 ∧ (x.run j).2.disk = (y.run j.disk).2

/-- A program that only uses the operations of a file system does the same with a journal. -/
theorem isParametric_records : IsParametric Records where
  pure _ _ := ⟨rfl, rfl⟩
  bind {α β x y f g} hx hf j := by
    obtain ⟨hvalue, hdisk⟩ := hx j
    obtain ⟨hvalue', hdisk'⟩ := hf (x.run j).1 (x.run j).2
    rw [hdisk, hvalue] at hvalue' hdisk'
    rw [run_bind, hvalue]
    exact ⟨hvalue', hdisk'⟩
  kind? _ _ := ⟨rfl, rfl⟩
  makeDirectory _ _ := ⟨rfl, rfl⟩
  write _ _ _ := ⟨rfl, rfl⟩
  copy _ _ _ := ⟨rfl, rfl⟩
  replace _ _ _ := ⟨rfl, rfl⟩
  remove _ _ := ⟨rfl, rfl⟩

end Journal

end NumericControl
