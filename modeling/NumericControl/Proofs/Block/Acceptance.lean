import NumericControl.Proofs.Block.Roles
import NumericControl.Proofs.Block.Table

/-!
# When the words of a line make a block

The words of a line are accepted exactly if every code is in the table of the dialect, no two
codes are of one group, no two claim the axis words, a move in machine coordinates stands beside
straight moves only, and the other words have letters of the machine, each at most once.  The
order of the words plays no role, and neither do words that the policy removes.

## Main definitions

* `Word.IsG`, `Word.IsM`, `Word.IsValue` : the kinds of words.
* `Word.InGroup`, `Word.ClaimsAxes` : group and claim of a code, by its number.
* `BlockContext.kept` : the words that the policy does not remove.
* `Acceptable` : the conditions on the words that are kept.

## Main results

* `Block.exists_ofWords_iff` : words make a block if and only if they are acceptable.
-/

namespace NumericControl

namespace Word

/-- The number of a code word: whole number and digit. -/
def number? (w : Word) : Option (Int × Int) :=
  (splitCode w.value).toOption

/-- A G word with a number. -/
def IsG (w : Word) (n : Int × Int) : Prop :=
  w.letter = 'G' ∧ w.number? = some n

/-- An M word with a number, of which the digit does not count. -/
def IsM (w : Word) (n : Int) : Prop :=
  w.letter = 'M' ∧ ∃ digit, w.number? = some (n, digit)

/-- A word that is no code. -/
def IsValue (w : Word) : Prop :=
  w.letter ≠ 'G' ∧ w.letter ≠ 'M'

/-- A word with a code of a modal group. -/
def InGroup (w : Word) (group : ModalGroup) : Prop :=
  (∃ n, w.IsG n ∧ n ∈ group.gNumbers) ∨ ∃ n, w.IsM n ∧ mGroup n = group

/-- A word with a code that claims the axis words. -/
def ClaimsAxes (w : Word) : Prop :=
  ∃ n, w.IsG n ∧ n ∈ claimingNumbers

end Word

/-- Whether a letter other than G and M has a meaning on the machine. -/
def Config.TakesLetter (config : Config) (letter : Char) : Prop :=
  (∃ axis : Axis, axis.letter = letter ∧ axis.index < config.axisCount ∧
    config.axisCountIsText = false) ∨
  letter ∈ ['I', 'J', 'K'] ∨
  letter ∈ ['D', 'E', 'F', 'H', 'L', 'N', 'P', 'Q', 'R', 'S', 'T']

namespace BlockContext

/-- Whether the policy removes a word, which has to be one of M6, M7 and M8. -/
def ignores (ctx : BlockContext) (w : Word) : Bool :=
  w.letter == 'M' && w.number?.any fun n => [6, 7, 8].contains n.1 && ctx.strips n.1

/-- The words that the policy does not remove. -/
def kept (ctx : BlockContext) (words : List Word) : List Word :=
  words.filter fun w => !ctx.ignores w

end BlockContext

/-- The conditions under which words make a block. -/
structure Acceptable (ctx : BlockContext) (words : List Word) : Prop where
  /-- A G word is in the table and allowed by the dialect. -/
  known : ∀ w ∈ words, w.letter = 'G' →
    ∃ n, w.IsG n ∧ (∃ group : ModalGroup, n ∈ group.gNumbers) ∧ n ∉ ctx.config.dialect.withheld
  /-- An M word has a number, as every finite value has, and is not M56 in the strict dialect. -/
  numbered : ∀ w ∈ words, w.letter = 'M' →
    ∃ n, w.IsM n ∧ ¬ (n = 56 ∧ ctx.config.dialect = .strict)
  /-- No two codes belong to the same group. -/
  groups : words.Pairwise fun v w => ∀ group, v.InGroup group → ¬ w.InGroup group
  /-- At most one word claims the axes. -/
  claims : words.Pairwise fun v w => v.ClaimsAxes → ¬ w.ClaimsAxes
  /-- Beside G53 the axis words are claimed by G0 and G1 only, if at all. -/
  machine : ∀ v ∈ words, v.IsG (53, 0) → ∀ w ∈ words, ∀ n, w.IsG n →
    n ∉ adjustingNumbers ∧ (n ∈ movingNumbers → n = (0, 0) ∨ n = (1, 0))
  /-- Every other letter occurs at most once. -/
  once : words.Pairwise fun v w => v.IsValue → v.letter ≠ w.letter
  /-- Every other letter has a meaning on the machine. -/
  letters : ∀ w ∈ words, w.IsValue → ctx.config.TakesLetter w.letter

namespace BlockContext

variable {ctx : BlockContext} {w : Word} {r : Role}

/-! ### The roles of words by their numbers -/

theorem allowed?_eq_some_iff {code : Code} :
    ctx.allowed? code = some r ↔ code.allowedIn ctx.config.dialect ∧ r = .code code := by
  unfold allowed?
  split
  · simp only [Option.some.injEq, true_and, *]
    exact eq_comm
  · simp [*]

/-- The role of a G word is its code, if the dialect has it. -/
theorem role?_of_isG {n : Int × Int} (h : w.IsG n) :
    ctx.role? w = (Code.ofG? n.1 n.2).bind ctx.allowed? := by
  obtain ⟨hletter, hnumber⟩ := h
  unfold Word.number? at hnumber
  simp [role?, hletter, hnumber, roleOfG?]

/-- The role of an M word is its code, unless it is removed. -/
theorem role?_of_isM {n : Int} (h : w.IsM n) :
    ctx.role? w = if ctx.ignores w then some .removed else ctx.allowed? (.ofM n) := by
  obtain ⟨hletter, digit, hnumber⟩ := h
  have hignores : ctx.ignores w = (isRemovable n && ctx.strips n) := by
    simp [ignores, hletter, hnumber, isRemovable, Bool.or_assoc]
    rfl
  unfold Word.number? at hnumber
  simp [role?, hletter, hnumber, roleOfM?, hignores]

/-- The role of another word is its value, if the machine takes its letter. -/
theorem role?_of_isValue (h : w.IsValue) : ctx.role? w = ctx.roleOfValue? w.letter w.value := by
  simp [role?, h.1, h.2]

/-- A letter without a fault is one that the machine takes. -/
theorem letterFault?_eq_none_iff {config : Config} {letter : Char} :
    ((config.axisCountIsText && (Axis.ofLetter? letter).isSome) = false ∧
      Block.letterFault? config letter = none) ↔ config.TakesLetter letter := by
  unfold Block.letterFault? Config.TakesLetter
  cases haxis : Axis.ofLetter? letter with
  | some axis =>
    have hletter : axis.letter = letter := by simpa using List.find?_some haxis
    subst hletter
    have hnot : axis.letter ∉ ['I', 'J', 'K'] ∧
        axis.letter ∉ ['D', 'E', 'F', 'H', 'L', 'N', 'P', 'Q', 'R', 'S', 'T'] := by
      cases axis <;> decide
    constructor
    · rintro ⟨htext, hfault⟩
      refine .inl ⟨axis, rfl, Decidable.byContradiction fun hindex => ?_, by simpa using htext⟩
      simp [hindex] at hfault
    · rintro (⟨other, heq, hindex, htext⟩ | h | h)
      · have hother : other = axis := by
          have hofLetter := Axis.ofLetter?_letter other
          rw [heq, Axis.ofLetter?_letter] at hofLetter
          exact (Option.some.inj hofLetter).symm
        subst hother
        simp [htext, hindex]
      · exact absurd h hnot.1
      · exact absurd h hnot.2
  | none =>
    have hnone : ∀ axis : Axis, axis.letter ≠ letter := by
      intro axis heq
      rw [← heq, Axis.ofLetter?_letter] at haxis
      cases haxis
    have hvalue : valueLetters = ['D', 'E', 'F', 'H', 'L', 'N', 'P', 'Q', 'R', 'S', 'T'] := by
      decide
    simp only [Option.isSome_none, Bool.and_false, true_and, ite_eq_left_iff, reduceCtorEq,
      imp_false, Decidable.not_not, hnone, false_and, exists_false, false_or, hvalue,
      offsetLetters]
    rw [Bool.or_eq_true, List.contains_iff_mem, List.contains_iff_mem]

theorem roleOfValue?_eq_some_iff {letter : Char} {v : Float} :
    ctx.roleOfValue? letter v = some r ↔ ctx.config.TakesLetter letter ∧ r = .value letter v := by
  rw [← letterFault?_eq_none_iff]
  unfold roleOfValue?
  split
  · simp_all
  · split
    · simp_all [Option.isSome_iff_ne_none]
    · simp_all [@eq_comm _ r]

/-- The role that a word has by its number. -/
inductive Gives (ctx : BlockContext) (w : Word) : Role → Prop
  | ofG {n : Int × Int} {c : Code} (number : w.IsG n) (listed : Code.ofG? n.1 n.2 = some c)
      (allowed : c.allowedIn ctx.config.dialect) : Gives ctx w (.code c)
  | ofM {n : Int} (number : w.IsM n) (kept : ctx.ignores w = false)
      (allowed : (Code.ofM n).allowedIn ctx.config.dialect) : Gives ctx w (.code (.ofM n))
  | removed {n : Int} (number : w.IsM n) (ignored : ctx.ignores w = true) : Gives ctx w .removed
  | value (kind : w.IsValue) (letter : ctx.config.TakesLetter w.letter) :
      Gives ctx w (.value w.letter w.value)

/-- The role of a word is the one that it has by its number. -/
theorem role?_eq_some_iff : ctx.role? w = some r ↔ ctx.Gives w r := by
  constructor
  · intro h
    by_cases hG : w.letter = 'G'
    · cases hnumber : w.number? with
      | none =>
        unfold Word.number? at hnumber
        simp [role?, hG, hnumber] at h
      | some n =>
        rw [role?_of_isG ⟨hG, hnumber⟩] at h
        obtain ⟨c, hc, hrole⟩ := Option.bind_eq_some_iff.mp h
        obtain ⟨hallowed, rfl⟩ := allowed?_eq_some_iff.mp hrole
        exact .ofG ⟨hG, hnumber⟩ hc hallowed
    · by_cases hM : w.letter = 'M'
      · cases hnumber : w.number? with
        | none =>
          unfold Word.number? at hnumber
          simp [role?, hM, hnumber] at h
        | some n =>
          have hn : w.IsM n.1 := ⟨hM, n.2, hnumber⟩
          rw [role?_of_isM hn] at h
          cases hignores : ctx.ignores w with
          | true =>
            rw [hignores] at h
            cases h
            exact .removed hn hignores
          | false =>
            rw [hignores] at h
            obtain ⟨hallowed, rfl⟩ := allowed?_eq_some_iff.mp h
            exact .ofM hn hignores hallowed
      · have hvalue : w.IsValue := ⟨hG, hM⟩
        rw [role?_of_isValue hvalue, roleOfValue?_eq_some_iff] at h
        obtain ⟨hletter, rfl⟩ := h
        exact .value hvalue hletter
  · rintro (⟨number, listed, allowed⟩ | ⟨number, kept, allowed⟩ | ⟨number, ignored⟩ |
      ⟨kind, letter⟩)
    · rw [role?_of_isG number, listed]
      exact allowed?_eq_some_iff.mpr ⟨allowed, rfl⟩
    · rw [role?_of_isM number, kept]
      exact allowed?_eq_some_iff.mpr ⟨allowed, rfl⟩
    · rw [role?_of_isM number, if_pos ignored]
    · rw [role?_of_isValue kind]
      exact roleOfValue?_eq_some_iff.mpr ⟨letter, rfl⟩

theorem isG_unique {n m : Int × Int} (h : w.IsG n) (h' : w.IsG m) : n = m :=
  Option.some.inj (h.2.symm.trans h'.2)

theorem isM_unique {n m : Int} (h : w.IsM n) (h' : w.IsM m) : n = m := by
  obtain ⟨-, d, hd⟩ := h
  obtain ⟨-, e, he⟩ := h'
  exact congrArg Prod.fst (Option.some.inj (hd.symm.trans he))

theorem not_isM_of_isG {n : Int × Int} {m : Int} (h : w.IsG n) : ¬ w.IsM m := by
  rintro ⟨hletter, -⟩
  rw [h.1] at hletter
  exact absurd hletter (by decide)

theorem ignores_eq_false_of_isG {n : Int × Int} (h : w.IsG n) : ctx.ignores w = false := by
  simp [ignores, h.1]

theorem ignores_eq_false_of_isValue (h : w.IsValue) : ctx.ignores w = false := by
  simp [ignores, h.2]

/-- What the number of a word says if its role is a code. -/
structure CodeWord (ctx : BlockContext) (w : Word) (c : Code) : Prop where
  kept : ctx.ignores w = false
  group (group : ModalGroup) : w.InGroup group ↔ c.group = group
  claims : w.ClaimsAxes ↔ c.claim?.isSome
  notValue : ¬ w.IsValue
  machine : w.IsG (53, 0) ↔ c = .positioning .machine
  conflicts : (∃ n, w.IsG n ∧ (n ∈ adjustingNumbers ∨ n ∈ movingNumbers ∧ ¬ (n = (0, 0) ∨
      n = (1, 0)))) ↔
    (c.claim? = some .toolLength ∨ c.claim? = some .scaling) ∨
      c.claim? = some .motion ∧ ¬ (c = .motion .seek ∨ c = .motion .linear)

private theorem codeWord_of_isG {c : Code} {n : Int × Int} (hn : w.IsG n)
    (hc : Code.ofG? n.1 n.2 = some c) : CodeWord ctx w c := by
  have hlisted := Code.listed_of_ofG? hc
  have hexists (P : Int × Int → Prop) : (∃ m, w.IsG m ∧ P m) ↔ P n :=
    ⟨fun ⟨m, hm, hP⟩ => isG_unique hm hn ▸ hP, fun hP => ⟨n, hn, hP⟩⟩
  have hgroup (group : ModalGroup) : n ∈ group.gNumbers ↔ c.group = group := by
    constructor
    · intro hmem
      obtain ⟨c', hc', hgroup⟩ := Code.exists_ofG?_of_mem hmem
      rw [hc] at hc'
      cases hc'
      exact hgroup
    · rintro rfl
      exact hlisted.group
  refine ⟨ignores_eq_false_of_isG hn, fun group => ?_, ?_, fun hvalue => hvalue.1 hn.1, ?_, ?_⟩
  · rw [Word.InGroup, hexists, hgroup]
    simp [not_isM_of_isG hn]
  · rw [Word.ClaimsAxes, hexists, hlisted.claims]
  · rw [hlisted.machine]
    exact ⟨fun h => isG_unique hn h, fun h => h ▸ hn⟩
  · rw [hexists, hlisted.adjusts, hlisted.moves, hlisted.straight]

private theorem codeWord_of_isM {n : Int} (hn : w.IsM n)
    (hkept : ctx.ignores w = false) : CodeWord ctx w (.ofM n) := by
  have hnotG (m : Int × Int) : ¬ w.IsG m := fun h => not_isM_of_isG h hn
  refine ⟨hkept, fun group => ?_, ?_, fun hvalue => hvalue.2 hn.1, ?_, ?_⟩
  · have hexists : (∃ m, w.IsM m ∧ mGroup m = group) ↔ mGroup n = group :=
      ⟨fun ⟨m, hm, hgroup⟩ => isM_unique hm hn ▸ hgroup, fun hgroup => ⟨n, hn, hgroup⟩⟩
    simp [Word.InGroup, hnotG, hexists, Code.group_ofM]
  · simp [Word.ClaimsAxes, hnotG, Code.claim?_ofM]
  · simp [hnotG, Code.ofM_ne_positioning]
  · simp [hnotG, Code.claim?_ofM]

theorem Gives.codeWord {c : Code} (h : ctx.Gives w (.code c)) : CodeWord ctx w c := by
  cases h with
  | ofG number listed allowed => exact codeWord_of_isG number listed
  | ofM number kept allowed => exact codeWord_of_isM number kept

/-- What the letter of a word says if its role is a value. -/
structure ValueWord (ctx : BlockContext) (w : Word) (l : Char) : Prop where
  kept : ctx.ignores w = false
  group (group : ModalGroup) : ¬ w.InGroup group
  claims : ¬ w.ClaimsAxes
  isValue : w.IsValue
  letter : l = w.letter

theorem Gives.valueWord {l : Char} {v : Float} (h : ctx.Gives w (.value l v)) :
    ValueWord ctx w l := by
  cases h with
  | value kind letter =>
    have hnotG (n : Int × Int) : ¬ w.IsG n := fun h => kind.1 h.1
    have hnotM (n : Int) : ¬ w.IsM n := fun h => kind.2 h.1
    refine ⟨ignores_eq_false_of_isValue kind, fun group => ?_, ?_, kind, rfl⟩
    · simp [Word.InGroup, hnotG, hnotM]
    · simp [Word.ClaimsAxes, hnotG]

/-- A word is removed exactly if the policy says so. -/
theorem gives_removed_iff : ctx.Gives w .removed ↔ ctx.ignores w = true := by
  constructor
  · intro h
    cases h with
    | removed number ignored => exact ignored
  · intro h
    have hM : ∃ n, w.IsM n := by
      unfold ignores at h
      simp only [Bool.and_eq_true, beq_iff_eq, Option.any_eq_true] at h
      obtain ⟨hletter, n, hnumber, -⟩ := h
      exact ⟨n.1, hletter, n.2, hnumber⟩
    obtain ⟨n, hn⟩ := hM
    exact .removed hn h

/-- A word that is not removed has a role under the conditions on single words. -/
theorem exists_gives_iff (h : ctx.ignores w = false) :
    (∃ r, ctx.Gives w r) ↔
      (w.letter = 'G' → ∃ n, w.IsG n ∧ (∃ group : ModalGroup, n ∈ group.gNumbers) ∧
        n ∉ ctx.config.dialect.withheld) ∧
      (w.letter = 'M' → ∃ n, w.IsM n ∧ ¬ (n = 56 ∧ ctx.config.dialect = .strict)) ∧
      (w.IsValue → ctx.config.TakesLetter w.letter) := by
  constructor
  · rintro ⟨r, hr⟩
    cases hr with
    | @ofG n c number listed allowed =>
      have hlisted := Code.listed_of_ofG? listed
      refine ⟨fun _ => ⟨n, number, ⟨_, hlisted.group⟩, (hlisted.allowed _).mp allowed⟩, ?_, ?_⟩
      · intro hM
        exact absurd (number.1.symm.trans hM) (by decide)
      · intro hvalue
        exact absurd number.1 hvalue.1
    | @ofM n number kept allowed =>
      refine ⟨?_, fun _ => ⟨n, number, (Code.allowedIn_ofM n _).mp allowed⟩, ?_⟩
      · intro hG
        exact absurd (number.1.symm.trans hG) (by decide)
      · intro hvalue
        exact absurd number.1 hvalue.2
    | removed number ignored =>
      rw [h] at ignored
      cases ignored
    | value kind letter =>
      exact ⟨fun hG => absurd hG kind.1, fun hM => absurd hM kind.2, fun _ => letter⟩
  · rintro ⟨hG, hM, hvalue⟩
    by_cases hletterG : w.letter = 'G'
    · obtain ⟨n, hn, ⟨group, hgroup⟩, hwithheld⟩ := hG hletterG
      obtain ⟨c, hc, -⟩ := Code.exists_ofG?_of_mem hgroup
      exact ⟨_, .ofG hn hc (((Code.listed_of_ofG? hc).allowed _).mpr hwithheld)⟩
    · by_cases hletterM : w.letter = 'M'
      · obtain ⟨n, hn, hallowed⟩ := hM hletterM
        exact ⟨_, .ofM hn h ((Code.allowedIn_ofM n _).mpr hallowed)⟩
      · exact ⟨_, .value ⟨hletterG, hletterM⟩ (hvalue ⟨hletterG, hletterM⟩)⟩

/-- Two roles can stand on one line exactly if the words can. -/
theorem compatible_iff {v : Word} {s : Role} (hr : ctx.Gives v r) (hs : ctx.Gives w s) :
    r.Compatible s ↔
      (ctx.ignores v = false → ctx.ignores w = false →
        (∀ group, v.InGroup group → ¬ w.InGroup group) ∧ (v.ClaimsAxes → ¬ w.ClaimsAxes) ∧
          (v.IsValue → v.letter ≠ w.letter)) := by
  cases r with
  | removed => simp [Role.Compatible, gives_removed_iff.mp hr]
  | code c =>
    have hc := hr.codeWord
    cases s with
    | removed => simp [Role.Compatible, gives_removed_iff.mp hs]
    | code d =>
      have hd := hs.codeWord
      simp only [Role.Compatible, hc.kept, hd.kept, hc.group, hd.group, hc.claims, hd.claims,
        hc.notValue, true_imp_iff, false_imp_iff, and_true, forall_eq', not_and]
      exact and_congr_left' ne_comm
    | value m u =>
      have hm := hs.valueWord
      simp [Role.Compatible, hm.group, hm.claims, hc.notValue]
  | value l x =>
    have hl := hr.valueWord
    cases s with
    | removed => simp [Role.Compatible, gives_removed_iff.mp hs]
    | code d =>
      have hne : v.letter ≠ w.letter := by
        intro heq
        have hw := hl.isValue
        unfold Word.IsValue at hw
        rw [heq] at hw
        exact hs.codeWord.notValue hw
      simp [Role.Compatible, hl.group, hl.claims, hne]
    | value m u =>
      have hm := hs.valueWord
      simp [Role.Compatible, hl.kept, hm.kept, hl.group, hl.claims, hl.isValue, hl.letter,
        hm.letter]

end BlockContext

namespace Block

variable {ctx : BlockContext} {words : List Word}

/-! ### The words of a line -/

/-- Every word has a role if those that are kept meet the conditions on single words. -/
theorem forall_isSome_role?_iff :
    (∀ w ∈ words, (ctx.role? w).isSome) ↔
      (∀ w ∈ ctx.kept words, w.letter = 'G' → ∃ n, w.IsG n ∧
        (∃ group : ModalGroup, n ∈ group.gNumbers) ∧ n ∉ ctx.config.dialect.withheld) ∧
      (∀ w ∈ ctx.kept words, w.letter = 'M' →
        ∃ n, w.IsM n ∧ ¬ (n = 56 ∧ ctx.config.dialect = .strict)) ∧
      (∀ w ∈ ctx.kept words, w.IsValue → ctx.config.TakesLetter w.letter) := by
  have hrole (w : Word) : (ctx.role? w).isSome ↔ ∃ r, ctx.Gives w r := by
    simp only [Option.isSome_iff_exists, BlockContext.role?_eq_some_iff]
  simp only [BlockContext.kept, List.mem_filter, Bool.not_eq_true', and_imp, hrole]
  constructor
  · intro h
    have hkept (w : Word) (hw : w ∈ words) (hignores : ctx.ignores w = false) :=
      (BlockContext.exists_gives_iff hignores).mp (h w hw)
    exact ⟨fun w hw hignores => (hkept w hw hignores).1,
      fun w hw hignores => (hkept w hw hignores).2.1,
      fun w hw hignores => (hkept w hw hignores).2.2⟩
  · rintro ⟨hG, hM, hvalue⟩ w hw
    cases hignores : ctx.ignores w with
    | true => exact ⟨_, BlockContext.gives_removed_iff.mpr hignores⟩
    | false =>
      exact (BlockContext.exists_gives_iff hignores).mpr
        ⟨hG w hw hignores, hM w hw hignores, hvalue w hw hignores⟩

/-- The roles of words do not conflict if the words that are kept do not. -/
theorem pairwise_roles_iff (h : ∀ w ∈ words, (ctx.role? w).isSome) :
    (ctx.roles words).Pairwise Role.Compatible ↔
      (ctx.kept words).Pairwise (fun v w => ∀ group, v.InGroup group → ¬ w.InGroup group) ∧
      (ctx.kept words).Pairwise (fun v w => v.ClaimsAxes → ¬ w.ClaimsAxes) ∧
      (ctx.kept words).Pairwise (fun v w => v.IsValue → v.letter ≠ w.letter) := by
  rw [← List.pairwise_and_iff, ← List.pairwise_and_iff, BlockContext.kept, List.pairwise_filter,
    BlockContext.roles, List.pairwise_filterMap]
  refine List.Pairwise.iff_of_mem fun {v w} hv hw => ?_
  obtain ⟨r, hr⟩ := Option.isSome_iff_exists.mp (h v hv)
  obtain ⟨s, hs⟩ := Option.isSome_iff_exists.mp (h w hw)
  simp only [hr, hs, Option.some.injEq, forall_eq', Bool.not_eq_true']
  exact BlockContext.compatible_iff (BlockContext.role?_eq_some_iff.mp hr)
    (BlockContext.role?_eq_some_iff.mp hs)

/-- What roles contribute is contributed by the words that give them. -/
theorem mem_filterMap_roles_iff {α : Type} {f : Role → Option α} {role : α → Role}
    (hf : ∀ r a, f r = some a ↔ r = role a) {a : α} :
    a ∈ (ctx.roles words).filterMap f ↔ ∃ w ∈ words, ctx.Gives w (role a) := by
  simp only [BlockContext.roles, List.mem_filterMap, hf, exists_eq_right,
    BlockContext.role?_eq_some_iff]

/-- The codes of a block are those of its words. -/
theorem mem_codes_iff {b : Block} (h : ({} : Block).addAll ctx words = .ok b) {c : Code} :
    c ∈ b.codes ↔ ∃ w ∈ words, ctx.Gives w (.code c) := by
  obtain ⟨-, -, -, rfl⟩ := addAll_eq_ok_iff.mp h
  rw [extend, List.nil_append]
  exact mem_filterMap_roles_iff fun r c => by cases r <;> simp [Role.code?]

private theorem exists_motion_of_claim? {c : Code} (h : c.claim? = some .motion) :
    ∃ mode, c = .motion mode := by
  unfold Code.claim? at h
  split at h <;> first | exact ⟨_, rfl⟩ | cases h

/-- A coherent block conflicts with a move in machine coordinates exactly if one of its codes
does. -/
theorem Coherent.machineConflict_iff {b : Block} (h : b.Coherent) :
    b.machineConflict = true ↔ ∃ c ∈ b.codes,
      (c.claim? = some .toolLength ∨ c.claim? = some .scaling) ∨
        c.claim? = some .motion ∧ ¬ (c = .motion .seek ∨ c = .motion .linear) := by
  -- in a coherent block there is at most one claim, so the code in question is the one that claims
  have hclaim {c : Code} {owner : AxisOwner} (hc : c ∈ b.codes) (howner : c.claim? = some owner) :
      b.claim? = some owner := h.claim?_eq_some_iff.mpr ⟨c, hc, howner⟩
  constructor
  · intro hconflict
    unfold machineConflict at hconflict
    cases howner : b.claim? with
    | none => simp [howner] at hconflict
    | some owner =>
      obtain ⟨c, hc, hcowner⟩ := h.claim?_eq_some_iff.mp howner
      refine ⟨c, hc, ?_⟩
      cases owner with
      | nonModal => simp [howner] at hconflict
      | toolLength => exact .inl (.inl hcowner)
      | scaling => exact .inl (.inr hcowner)
      | motion =>
        refine .inr ⟨hcowner, ?_⟩
        rintro (rfl | rfl)
        · simp [howner, h.motion?_eq_some_iff.mpr hc] at hconflict
        · simp [howner, h.motion?_eq_some_iff.mpr hc] at hconflict
  · rintro ⟨c, hc, (howner | howner) | ⟨howner, hcurved⟩⟩
    · simp [machineConflict, hclaim hc howner]
    · simp [machineConflict, hclaim hc howner]
    · obtain ⟨mode, rfl⟩ := exists_motion_of_claim? howner
      rw [not_or] at hcurved
      have hseek : mode ≠ .seek := fun heq => hcurved.1 (congrArg Code.motion heq)
      have hlinear : mode ≠ .linear := fun heq => hcurved.2 (congrArg Code.motion heq)
      simp [machineConflict, hclaim hc howner, h.motion?_eq_some_iff.mpr hc, hseek, hlinear]

/-- A G word of a line gives a code. -/
private theorem exists_code_of_isG {b : Block} (h : ({} : Block).addAll ctx words = .ok b)
    {w : Word} (hw : w ∈ words) {n : Int × Int} (hn : w.IsG n) :
    ∃ c, ctx.Gives w (.code c) := by
  obtain ⟨r, hr⟩ := Option.isSome_iff_exists.mp ((addAll_eq_ok_iff.mp h).1 w hw)
  cases BlockContext.role?_eq_some_iff.mp hr with
  | ofG number listed allowed => exact ⟨_, .ofG number listed allowed⟩
  | ofM number => exact absurd number (BlockContext.not_isM_of_isG hn)
  | removed number => exact absurd number (BlockContext.not_isM_of_isG hn)
  | value kind => exact absurd hn.1 kind.1

/-- The axis words have an owner, unless a move in machine coordinates meets a conflict. -/
theorem exists_owner_iff {b : Block} :
    (∃ owner, b.owner ctx = .ok owner) ↔
      ¬ (b.positioning? = some .machine ∧ b.machineConflict = true) := by
  unfold owner
  split
  · split <;> simp_all
  · split <;> simp_all

/-- A line has no conflict with a move in machine coordinates if its words have none. -/
theorem exists_owner_iff_of_addAll {b : Block} (h : ({} : Block).addAll ctx words = .ok b) :
    (∃ owner, b.owner ctx = .ok owner) ↔
      ∀ v ∈ ctx.kept words, v.IsG (53, 0) → ∀ w ∈ ctx.kept words, ∀ n, w.IsG n →
        n ∉ adjustingNumbers ∧ (n ∈ movingNumbers → n = (0, 0) ∨ n = (1, 0)) := by
  have hcoherent := coherent_of_addAll h
  rw [exists_owner_iff, hcoherent.positioning?_eq_some_iff, hcoherent.machineConflict_iff]
  simp only [mem_codes_iff h]
  constructor
  · intro hnot v hv hmachine w hw n hn
    obtain ⟨c, hc⟩ := exists_code_of_isG h (List.mem_filter.mp hv).1 hmachine
    obtain ⟨d, hd⟩ := exists_code_of_isG h (List.mem_filter.mp hw).1 hn
    have hposition : ctx.Gives v (.code (.positioning .machine)) :=
      hc.codeWord.machine.mp hmachine ▸ hc
    have hfree := mt hd.codeWord.conflicts.mp fun hconflict =>
      hnot ⟨⟨v, (List.mem_filter.mp hv).1, hposition⟩,
        ⟨d, ⟨w, (List.mem_filter.mp hw).1, hd⟩, hconflict⟩⟩
    refine ⟨fun hadjusts => hfree ⟨n, hn, .inl hadjusts⟩, fun hmoves => ?_⟩
    exact Decidable.byContradiction fun hcurved => hfree ⟨n, hn, .inr ⟨hmoves, hcurved⟩⟩
  · rintro hwords ⟨⟨v, hv, hmachine⟩, ⟨d, ⟨w, hw, hd⟩, hconflict⟩⟩
    obtain ⟨n, hn, hadjusts⟩ := hd.codeWord.conflicts.mpr hconflict
    have hv' : v ∈ ctx.kept words := List.mem_filter.mpr ⟨hv, by simp [hmachine.codeWord.kept]⟩
    have hw' : w ∈ ctx.kept words := List.mem_filter.mpr ⟨hw, by simp [hd.codeWord.kept]⟩
    obtain ⟨hnot, hstraight⟩ := hwords v hv' (hmachine.codeWord.machine.mpr rfl) w hw' n hn
    rcases hadjusts with hadjusts | ⟨hmoves, hcurved⟩
    · exact hnot hadjusts
    · exact hcurved (hstraight hmoves)

/-- Words make a block if and only if those that the policy does not remove are acceptable. -/
theorem exists_ofWords_iff (ctx : BlockContext) (words : List Word) :
    (∃ result, ofWords ctx words = .ok result) ↔ Acceptable ctx (ctx.kept words) := by
  have hofWords : (∃ result, ofWords ctx words = .ok result) ↔
      ∃ b, ({} : Block).addAll ctx words = .ok b ∧ ∃ owner, b.owner ctx = .ok owner := by
    constructor
    · rintro ⟨result, h⟩
      obtain ⟨b, hb, h⟩ := bind_eq_ok_iff.mp h
      obtain ⟨owner, howner, -⟩ := bind_eq_ok_iff.mp h
      exact ⟨b, hb, owner, howner⟩
    · rintro ⟨b, hb, owner, howner⟩
      exact ⟨(b, owner), bind_eq_ok_iff.mpr ⟨b, hb, bind_eq_ok_iff.mpr ⟨owner, howner, rfl⟩⟩⟩
  rw [hofWords]
  constructor
  · rintro ⟨b, hb, howner⟩
    obtain ⟨hsome, hpairwise, -⟩ := addAll_eq_ok_iff.mp hb
    obtain ⟨known, numbered, letters⟩ := forall_isSome_role?_iff.mp hsome
    obtain ⟨groups, claims, once⟩ := (pairwise_roles_iff hsome).mp hpairwise
    exact ⟨known, numbered, groups, claims, (exists_owner_iff_of_addAll hb).mp howner, once,
      letters⟩
  · intro h
    have hsome := forall_isSome_role?_iff.mpr ⟨h.known, h.numbered, h.letters⟩
    have hpairwise := (pairwise_roles_iff hsome).mpr ⟨h.groups, h.claims, h.once⟩
    have hadmits : ∀ r ∈ ctx.roles words, ({} : Block).Admits r := by
      intro r _
      cases r <;> simp [Admits, hasGroup, claim?, value?]
    have hb := addAll_eq_ok_iff.mpr ⟨hsome, hpairwise, hadmits, rfl⟩
    exact ⟨_, hb, (exists_owner_iff_of_addAll hb).mpr h.machine⟩

end Block

end NumericControl
