import NumericControl.Code

/-!
# The table of codes by number

The codes as their numbers give them: the modal groups, the codes that claim the axis words and
the codes that a dialect withholds, each as a list of numbers.  A G number is a whole number with
one digit after the point.

## Main definitions

* `ModalGroup.gNumbers`, `mGroup` : the modal groups of G and M numbers.
* `movingNumbers`, `claimingNumbers` : the numbers of moves and of all codes that claim the axes.
* `Dialect.withheld` : the numbers that a dialect does not have.

## Main results

* `Code.listed_of_ofG?` : what the lists say about the code of a G number.
* `Code.exists_ofG?_of_mem` : every listed number has a code.
* `Code.group_ofM`, `Code.allowedIn_ofM` : the codes of M numbers.
-/

namespace NumericControl

/-- The G numbers of a modal group. -/
def ModalGroup.gNumbers : ModalGroup → List (Int × Int)
  | .nonModal =>
    [(4, 0), (10, 0), (28, 0), (28, 1), (30, 0), (30, 1), (53, 0), (92, 0), (92, 1), (92, 2),
      (92, 3)]
  | .motion =>
    [(0, 0), (1, 0), (2, 0), (3, 0), (33, 0), (38, 2), (38, 3), (38, 4), (38, 5), (73, 0), (76, 0),
      (80, 0), (81, 0), (82, 0), (83, 0), (85, 0), (86, 0), (89, 0)]
  | .plane => [(17, 0), (18, 0), (19, 0)]
  | .distance => [(90, 0), (91, 0)]
  | .arcDistance => [(90, 1), (91, 1)]
  | .feedMode => [(93, 0), (94, 0), (95, 0)]
  | .units => [(20, 0), (21, 0)]
  | .cutterCompensation => [(40, 0)]
  | .toolLength => [(43, 0), (43, 1), (43, 2), (49, 0)]
  | .returnMode => [(98, 0), (99, 0)]
  | .scaling => [(50, 0), (51, 0)]
  | .coordinateSystem =>
    [(54, 0), (55, 0), (56, 0), (57, 0), (58, 0), (59, 0), (59, 1), (59, 2), (59, 3)]
  | .pathControl => [(61, 0), (61, 1), (64, 0)]
  | .spindleSpeedMode => [(96, 0), (97, 0)]
  | .latheMode => [(7, 0), (8, 0)]
  | _ => []

/-- The modal group of an M number. -/
def mGroup (number : Int) : ModalGroup :=
  if number ∈ [0, 1, 2, 30] then .programFlow
  else if number ∈ [3, 4, 5] then .spindle
  else if number ∈ [6, 61] then .toolChange
  else if number ∈ [7, 8, 9] then .coolant
  else if number ∈ [48, 49, 50, 51, 52, 53, 56] then .override
  else .userCode

/-- The numbers of the moves: all motion codes but the one that cancels motion. -/
def movingNumbers : List (Int × Int) :=
  [(0, 0), (1, 0), (2, 0), (3, 0), (33, 0), (38, 2), (38, 3), (38, 4), (38, 5), (73, 0), (76, 0),
    (81, 0), (82, 0), (83, 0), (85, 0), (86, 0), (89, 0)]

/-- The numbers of the codes that claim the axis words for something else than a move or a
position: a dynamic tool length, and scaling off and on. -/
def adjustingNumbers : List (Int × Int) :=
  [(43, 1), (50, 0), (51, 0)]

/-- The numbers of the codes that claim the axis words. -/
def claimingNumbers : List (Int × Int) :=
  movingNumbers ++ adjustingNumbers ++
    [(10, 0), (28, 0), (28, 1), (30, 0), (30, 1), (92, 0), (92, 1), (92, 2), (92, 3)]

/-- The G numbers that a dialect does not have. -/
def Dialect.withheld : Dialect → List (Int × Int)
  | .strict => [(50, 0), (51, 0)]
  | .embedded =>
    [(7, 0), (8, 0), (33, 0), (38, 2), (38, 3), (38, 4), (38, 5), (50, 0), (51, 0), (59, 1),
      (59, 2), (59, 3), (61, 1), (64, 0), (73, 0), (76, 0), (81, 0), (82, 0), (83, 0), (85, 0),
      (86, 0), (89, 0), (90, 1), (98, 0), (99, 0)]
  | .extended => [(90, 1)]

namespace Code

/-- What the lists say about the code of a G number. -/
structure Listed (n : Int × Int) (c : Code) : Prop where
  group : n ∈ c.group.gNumbers
  claims : c.claim?.isSome ↔ n ∈ claimingNumbers
  moves : c.claim? = some .motion ↔ n ∈ movingNumbers
  adjusts : (c.claim? = some .toolLength ∨ c.claim? = some .scaling) ↔ n ∈ adjustingNumbers
  machine : c = .positioning .machine ↔ n = (53, 0)
  straight : (c = .motion .seek ∨ c = .motion .linear) ↔ n = (0, 0) ∨ n = (1, 0)
  allowed (dialect : Dialect) : c.allowedIn dialect ↔ n ∉ dialect.withheld

private theorem mem_of_lookup {α β : Type} [BEq α] [LawfulBEq α] {l : List (α × β)} {k : α} {v : β}
    (h : l.lookup k = some v) : (k, v) ∈ l := by
  obtain ⟨l₁, l₂, rfl, -⟩ := List.lookup_eq_some_iff.mp h
  exact List.mem_append_right l₁ List.mem_cons_self

/-- The number of the coordinate system that a code selects. -/
def slot? : Code → Option Nat
  | coordinateSystem slot => some slot
  | _ => none

theorem listed_of_ofG? {n : Int × Int} {c : Code} (h : ofG? n.1 n.2 = some c) : Listed n c := by
  have hmem : (n, c) ∈ gTable := mem_of_lookup h
  exact {
    group := (by decide : ∀ e ∈ gTable, e.1 ∈ e.2.group.gNumbers) _ hmem
    claims := (by decide : ∀ e ∈ gTable, e.2.claim?.isSome ↔ e.1 ∈ claimingNumbers) _ hmem
    moves := (by decide : ∀ e ∈ gTable, e.2.claim? = some .motion ↔ e.1 ∈ movingNumbers) _ hmem
    adjusts := (by decide : ∀ e ∈ gTable,
      (e.2.claim? = some .toolLength ∨ e.2.claim? = some .scaling) ↔ e.1 ∈ adjustingNumbers) _ hmem
    machine := (by decide : ∀ e ∈ gTable,
      e.2 = .positioning .machine ↔ e.1 = (53, 0)) _ hmem
    straight := (by decide : ∀ e ∈ gTable,
      (e.2 = .motion .seek ∨ e.2 = .motion .linear) ↔ e.1 = (0, 0) ∨ e.1 = (1, 0)) _ hmem
    allowed := by
      intro dialect
      have hall : ∀ e ∈ gTable, e.2.allowedIn dialect ↔ e.1 ∉ dialect.withheld := by
        cases dialect <;> decide
      exact hall _ hmem }

/-- Every listed number has a code of its group. -/
theorem exists_ofG?_of_mem {group : ModalGroup} {n : Int × Int} (h : n ∈ group.gNumbers) :
    ∃ c, ofG? n.1 n.2 = some c ∧ c.group = group := by
  have hall : ∀ n ∈ group.gNumbers, (ofG? n.1 n.2).map Code.group = some group := by
    cases group <;> decide
  exact Option.map_eq_some_iff.mp (hall n h)

/-- The code of a coordinate system has a number up to eight. -/
theorem slot_le_of_ofG? {n : Int × Int} {slot : Nat}
    (h : ofG? n.1 n.2 = some (.coordinateSystem slot)) : slot ≤ 8 := by
  have hall : ∀ e ∈ gTable, ∀ slot ∈ e.2.slot?, slot ≤ 8 := by decide
  exact hall _ (mem_of_lookup h) slot rfl

/-- An M number is in the table, or its code is a user code. -/
private theorem ofM_cases (number : Int) :
    (number, ofM number) ∈ mTable ∨ (∀ e ∈ mTable, number ≠ e.1) ∧ ofM number = user number := by
  unfold ofM
  cases h : mTable.lookup number with
  | some c => exact .inl (mem_of_lookup h)
  | none =>
    refine .inr ⟨fun e he heq => ?_, rfl⟩
    have hne := List.lookup_eq_none_iff.mp h e he
    simp [heq] at hne

theorem group_ofM (number : Int) : (ofM number).group = mGroup number := by
  rcases ofM_cases number with hmem | ⟨hne, heq⟩
  · exact (by decide : ∀ e ∈ mTable, e.2.group = mGroup e.1) _ hmem
  · simp only [mTable, List.forall_mem_cons] at hne
    simp [heq, group, mGroup, hne]

theorem claim?_ofM (number : Int) : (ofM number).claim? = none := by
  rcases ofM_cases number with hmem | ⟨-, heq⟩
  · exact (by decide : ∀ e ∈ mTable, e.2.claim? = none) _ hmem
  · rw [heq]
    rfl

theorem allowedIn_ofM (number : Int) (dialect : Dialect) :
    (ofM number).allowedIn dialect ↔ ¬ (number = 56 ∧ dialect = .strict) := by
  rcases ofM_cases number with hmem | ⟨hne, heq⟩
  · have hall : ∀ e ∈ mTable, e.2.allowedIn dialect ↔ ¬ (e.1 = 56 ∧ dialect = .strict) := by
      cases dialect <;> decide
    exact hall _ hmem
  · simp only [mTable, List.forall_mem_cons] at hne
    simp [heq, allowedIn, hne]

/-- An M code is none of the codes that act on positions. -/
theorem ofM_ne_positioning (number : Int) (action : Positioning) :
    ofM number ≠ .positioning action := by
  rcases ofM_cases number with hmem | ⟨-, heq⟩
  · have hall : ∀ e ∈ mTable, e.2.group ≠ .nonModal := by decide
    intro heq
    exact hall _ hmem (by rw [heq]; rfl)
  · rw [heq]
    nofun

/-- Only M61 sets the tool number without a change. -/
theorem eq_of_ofM_eq_setNumber {number : Int} (h : ofM number = .toolChange .setNumber) :
    number = 61 := by
  rcases ofM_cases number with hmem | ⟨-, heq⟩
  · have hall : ∀ e ∈ mTable, e.2 = .toolChange .setNumber → e.1 = 61 := by decide
    exact hall _ hmem h
  · rw [heq] at h
    cases h

/-- An M code selects no coordinate system. -/
theorem ofM_ne_coordinateSystem (number : Int) (slot : Nat) :
    ofM number ≠ .coordinateSystem slot := by
  rcases ofM_cases number with hmem | ⟨-, heq⟩
  · have hall : ∀ e ∈ mTable, e.2.group ≠ .coordinateSystem := by decide
    intro heq
    exact hall _ hmem (by rw [heq]; rfl)
  · rw [heq]
    nofun

end Code

end NumericControl
