import NumericControl.Files.Access

/-!
# Programs over file systems

A program that only uses the operations of a file system can be run over any kind of one.  Whatever
relates the operations of two kinds of file system, and is kept when steps are put together, relates
the runs of the program over both: what holds of its steps need not be said again for the program.

## Main definitions

* `IsLogical` : relations that hold of a program if they hold of its parts.
* `IsParametric` : relations that hold of the operations as well.

## Main results

* `IsLogical.makeDirectories` : directories are made by looking and by making single ones.
* `IsParametric.writeAtomic` : the replacement of a file.
-/

namespace NumericControl

variable {m n : Type → Type} [Monad m] [Monad n] [FileAccess m] [FileAccess n]

/-- A relation between programs over two kinds of file system that holds of a program if it holds of
its parts. -/
structure IsLogical (P : (α : Type) → m α → n α → Prop) : Prop where
  pure {α : Type} (a : α) : P α (pure a) (pure a)
  bind {α β : Type} {x : m α} {y : n α} {f : α → m β} {g : α → n β} (hx : P α x y)
    (hf : ∀ a, P β (f a) (g a)) : P β (x >>= f) (y >>= g)

/-- A relation that also holds of the operations that look at a file system or change it. -/
structure IsParametric (P : (α : Type) → m α → n α → Prop) : Prop extends IsLogical P where
  kind? (path : String) : P _ (FileAccess.kind? path) (FileAccess.kind? path)
  makeDirectory (path : String) :
    P _ (FileAccess.makeDirectory path) (FileAccess.makeDirectory path)
  write (path : String) (content : ByteArray) :
    P _ (FileAccess.write path content) (FileAccess.write path content)
  copy (source target : String) :
    P _ (FileAccess.copy source target) (FileAccess.copy source target)
  replace (source target : String) :
    P _ (FileAccess.replace source target) (FileAccess.replace source target)
  remove (path : String) : P _ (FileAccess.remove path) (FileAccess.remove path)

variable {P : (α : Type) → m α → n α → Prop}

namespace IsLogical

variable (h : IsLogical P) (hkind : ∀ path, P _ (FileAccess.kind? path) (FileAccess.kind? path))
  (hmake : ∀ path, P _ (FileAccess.makeDirectory path) (FileAccess.makeDirectory path))

include h hkind hmake

theorem ensureDirectory (path : Path) :
    P _ (NumericControl.ensureDirectory path) (NumericControl.ensureDirectory path) := by
  refine h.bind (hmake path.text) fun made => ?_
  rcases made with fault | _
  · dsimp only
    split
    · exact h.pure _
    · refine h.bind (hkind path.text) fun kind? => ?_
      rcases kind? with _ | _ | _ | _ <;> exact h.pure _
  · exact h.pure _

/-- Directories are made by looking and by making one after the other. -/
theorem makeDirectories (path : Path) :
    P _ (NumericControl.makeDirectories path) (NumericControl.makeDirectories path) := by
  induction path using NumericControl.makeDirectories.induct with
  | case1 path ih =>
    rw [NumericControl.makeDirectories.eq_def (m := m) path,
      NumericControl.makeDirectories.eq_def (m := n) path]
    refine h.bind (h.ensureDirectory hkind hmake path) fun made => ?_
    rcases made with fault | _
    · dsimp only
      split
      · exact h.pure _
      · next hnames =>
        split
        · exact h.pure _
        · refine h.bind (ih hnames) fun above => ?_
          rcases above with _ | _
          · exact h.pure _
          · exact h.ensureDirectory hkind hmake path
    · exact h.pure _

end IsLogical

namespace IsParametric

variable (h : IsParametric P)

include h

theorem backUp (target : Path) (ending? : Option String) :
    P _ (NumericControl.backUp target ending?) (NumericControl.backUp target ending?) := by
  rw [NumericControl.backUp, NumericControl.backUp]
  split
  · exact h.pure _
  · refine h.bind (h.kind? _) fun kind? => ?_
    rcases kind? with _ | _ | _
    · exact h.pure _
    · exact h.pure _
    · dsimp only
      split
      · exact h.pure _
      · refine h.bind (h.copy _ _) fun copied => ?_
        cases copied <;> exact h.pure _

theorem writeThenMove (target temporary : Path) (content : ByteArray) (ending? : Option String) :
    P _ (NumericControl.writeThenMove target temporary content ending?)
      (NumericControl.writeThenMove target temporary content ending?) := by
  refine h.bind (h.makeDirectories h.kind? h.makeDirectory _) fun made => ?_
  rcases made with _ | _
  · exact h.pure _
  refine h.bind (h.write _ _) fun written => ?_
  rcases written with _ | _
  · exact h.pure _
  refine h.bind (h.backUp target ending?) fun copied => ?_
  rcases copied with _ | _
  · exact h.pure _
  exact h.bind (h.replace _ _) fun _ => h.pure _

theorem removeLeftover (path : String) :
    P _ (NumericControl.removeLeftover path) (NumericControl.removeLeftover path) := by
  refine h.bind (h.kind? path) fun kind? => ?_
  rcases kind? with _ | _ | _
  · exact h.pure _
  · exact h.pure _
  · exact h.bind (h.remove path) fun _ => h.pure _

/-- A file is replaced by making directories, by writing, copying, moving and removing files and by
looking what is there. -/
theorem writeAtomic (target : Path) (content : ByteArray) (ending? : Option String) :
    P _ (NumericControl.writeAtomic target content ending?)
      (NumericControl.writeAtomic target content ending?) := by
  rw [NumericControl.writeAtomic, NumericControl.writeAtomic]
  split
  · exact h.pure _
  · next temporary _ =>
    refine h.bind (h.writeThenMove target temporary content ending?) fun outcome => ?_
    refine h.bind (h.removeLeftover temporary.text) fun removed => ?_
    cases removed <;> exact h.pure _

end IsParametric

end NumericControl
