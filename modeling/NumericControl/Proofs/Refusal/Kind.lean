import NumericControl.Failure
import NumericControl.Proofs.Outcome

/-!
# Failures of one kind

A failure is told apart by its kind: a refusal by that of its cause, wherever on the line it arose
and whatever it quotes.  Computations have the same outcome if they have the same result, or fail
with failures of one kind.

## Main definitions

* `FailureKind`, `Failure.kind` : the kinds of failures.
* `SameOutcome` : two computations with the same result or failures of one kind.
-/

namespace NumericControl

/-- The kinds of failures. -/
inductive FailureKind where
  | refused (kind : ErrorKind)
  | notWhole (fault : Number.NotFinite)
  | textualAxisCount

/-- The kind of a failure. -/
def Failure.kind : Failure → FailureKind
  | refused error => .refused error.cause.kind
  | notWhole fault => .notWhole fault
  | textualAxisCount => .textualAxisCount

/-- Two failures of one kind. -/
def Failure.SameKind (e e' : Failure) : Prop :=
  e.kind = e'.kind

theorem Failure.SameKind.refl (e : Failure) : e.SameKind e :=
  Eq.refl e.kind

/-- Two computations with the same result, or with failures of one kind. -/
abbrev SameOutcome {α : Type} (x y : Except Failure α) : Prop :=
  Corresponds Failure.SameKind Eq x y

variable {α β : Type}

theorem SameOutcome.refl (x : Except Failure α) : SameOutcome x x :=
  Corresponds.refl Failure.SameKind.refl Eq.refl x

theorem SameOutcome.of_eq {x y : Except Failure α} (h : x = y) : SameOutcome x y :=
  h ▸ refl x

/-- After steps with the same outcome it is enough to compare what follows the same result. -/
theorem SameOutcome.bind {S : β → β → Prop} {x y : Except Failure α} {f g : α → Except Failure β}
    (hx : SameOutcome x y) (hf : ∀ a, Corresponds Failure.SameKind S (f a) (g a)) :
    Corresponds Failure.SameKind S (x >>= f) (y >>= g) :=
  Corresponds.bind hx fun a _ _ h => h ▸ hf a

/-- What corresponds to a computation corresponds to those with the same outcome. -/
theorem Corresponds.trans_same {R : α → β → Prop} {x : Except Failure α} {y z : Except Failure β}
    (hx : Corresponds Failure.SameKind R x y) (hy : SameOutcome y z) :
    Corresponds Failure.SameKind R x z := by
  cases hx with
  | ok related =>
    cases hy with
    | ok heq => exact .ok (heq ▸ related)
  | error related =>
    cases hy with
    | error related' => exact .error (Eq.trans related related')

theorem SameOutcome.map {x y : Except Failure α} (hx : SameOutcome x y) (f : α → β) :
    SameOutcome (x.map f) (y.map f) :=
  Corresponds.map hx fun _ _ h => congrArg f h

end NumericControl
