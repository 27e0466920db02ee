import NumericControl.Block
import NumericControl.Proofs.Refusal.Kind

/-!
# The roles of words

What a word contributes to a block depends on the word alone: a code, a value, or nothing because
the word is removed.  Whether it is accepted depends on the other words only through conflicts
between two of them.  So the words of a line make a block if and only if every word has a role and
no two roles conflict, and the block lists their contributions in the order of the words.

## Main definitions

* `Role` : what a word contributes to a block.
* `BlockContext.role?` : the role of a word, if it has one.
* `Role.Compatible` : two roles that can stand on one line.
* `Block.extend` : a block with the contributions of more words.
* `Block.Coherent` : a block without conflicts.

## Main results

* `Block.add_eq_ok_iff` : when one more word is accepted.
* `Block.addAll_eq_ok_iff` : when a list of words is accepted, and the block that it makes.
* `Block.coherent_of_addAll` : the words of a line make a coherent block.
* `Block.owner_congr` : what the owner of the axis words depends on.
-/

namespace NumericControl

/-- What a word contributes to a block. -/
inductive Role where
  | code (code : Code)
  | removed
  | value (letter : Char) (value : Float)

namespace Role

/-- The code of a role. -/
def code? : Role → Option Code
  | .code c => some c
  | _ => none

/-- The value of a role. -/
def value? : Role → Option (Char × Float)
  | .value letter v => some (letter, v)
  | _ => none

/-- Two roles that can stand on one line: their codes are of different groups and do not both
claim the axis words, and their values are of different letters. -/
def Compatible : Role → Role → Prop
  | .code c, .code d => c.group ≠ d.group ∧ ¬ (c.claim?.isSome ∧ d.claim?.isSome)
  | .value l _, .value m _ => l ≠ m
  | _, _ => True

theorem Compatible.symm {r s : Role} (h : r.Compatible s) : s.Compatible r := by
  cases r <;> cases s
  case code.code => exact ⟨h.1.symm, fun hclaim => h.2 hclaim.symm⟩
  case value.value => exact Ne.symm h
  all_goals trivial

end Role

namespace BlockContext

variable (ctx : BlockContext)

/-- A code that the dialect has. -/
def allowed? (code : Code) : Option Role :=
  if code.allowedIn ctx.config.dialect then some (.code code) else none

/-- The role of a G word. -/
def roleOfG? (whole digit : Int) : Option Role :=
  (Code.ofG? whole digit).bind ctx.allowed?

/-- The role of an M word. -/
def roleOfM? (number : Int) : Option Role :=
  if isRemovable number && ctx.strips number then some .removed
  else ctx.allowed? (.ofM number)

/-- The role of another word. -/
def roleOfValue? (letter : Char) (value : Float) : Option Role :=
  if ctx.config.axisCountIsText && (Axis.ofLetter? letter).isSome then none
  else if (Block.letterFault? ctx.config letter).isSome then none
  else some (.value letter value)

/-- The role of a word, if there is one. -/
def role? (w : Word) : Option Role :=
  if w.letter == 'G' then
    (splitCode w.value).toOption.bind fun (whole, digit) => ctx.roleOfG? whole digit
  else if w.letter == 'M' then
    (splitCode w.value).toOption.bind fun (number, _) => ctx.roleOfM? number
  else ctx.roleOfValue? w.letter w.value

/-- The roles of a list of words. -/
def roles (words : List Word) : List Role :=
  words.filterMap ctx.role?

/-- Whether a word is removed. -/
def removes (w : Word) : Bool :=
  match ctx.role? w with
  | some .removed => true
  | _ => false

end BlockContext

namespace Block

variable {ctx : BlockContext} {b b' : Block} {w : Word} {words : List Word} {r s : Role}

/-- A block that has nothing against a role. -/
def Admits (b : Block) : Role → Prop
  | .code c => b.hasGroup c.group = false ∧ ¬ (c.claim?.isSome ∧ b.claim?.isSome)
  | .removed => True
  | .value letter _ => b.value? letter = none

/-- The block with the contribution of one more word. -/
def put (b : Block) (w : Word) : Role → Block
  | .code c => { b with codes := b.codes ++ [c] }
  | .removed => { b with stripped := b.stripped ++ [w] }
  | .value letter value => { b with values := b.values ++ [(letter, value)] }

/-- The block with the contributions of more words. -/
def extend (ctx : BlockContext) (b : Block) (words : List Word) : Block where
  codes := b.codes ++ (ctx.roles words).filterMap Role.code?
  values := b.values ++ (ctx.roles words).filterMap Role.value?
  stripped := b.stripped ++ words.filter ctx.removes

/-! ### One word -/

private theorem addCode_eq_ok_iff {code : Code} :
    b.addCode ctx w code = .ok b' ↔
      ∃ r, ctx.allowed? code = some r ∧ b.Admits r ∧ b' = b.put w r := by
  unfold addCode BlockContext.allowed?
  by_cases hallowed : code.allowedIn ctx.config.dialect
  · by_cases hgroup : b.hasGroup code.group
    · simp [hallowed, hgroup, Admits]
    · by_cases hclaim : code.claim?.isSome && b.claim?.isSome
      · have hadmits : ¬ b.Admits (.code code) := fun h => h.2 (by simpa using hclaim)
        simp [hallowed, hgroup, hclaim, hadmits]
      · have hadmits : b.Admits (.code code) :=
          ⟨by simpa using hgroup, by simpa using hclaim⟩
        simp only [hallowed, hgroup, hclaim, hadmits, put, Bool.not_true, Bool.false_eq_true,
          if_false, if_true, Option.some.injEq, exists_eq_left', true_and, Except.ok.injEq]
        exact eq_comm
  · simp [hallowed]

/-- A code word is accepted if it has a number whose code is accepted. -/
private theorem bind_splitCode_eq_ok_iff {fault : Number.NotFinite → Failure}
    {f : Int × Int → Except Failure Block} {g : Int × Int → Option Role}
    (h : ∀ n, f n = .ok b' ↔ ∃ r, g n = some r ∧ b.Admits r ∧ b' = b.put w r) :
    ((splitCode w.value).mapError fault >>= f) = .ok b' ↔
      ∃ r, (splitCode w.value).toOption.bind g = some r ∧ b.Admits r ∧ b' = b.put w r := by
  rw [bind_eq_ok_iff]
  simp only [mapError_eq_ok_iff, h, Option.bind_eq_some_iff, toOption_eq_some_iff]
  constructor
  · rintro ⟨n, hn, r, hr, hput⟩
    exact ⟨r, ⟨n, hn, hr⟩, hput⟩
  · rintro ⟨r, ⟨n, hn, hr⟩, hput⟩
    exact ⟨n, hn, r, hr, hput⟩

private theorem addG_eq_ok_iff :
    b.addG ctx w = .ok b' ↔
      ∃ r, ((splitCode w.value).toOption.bind fun (whole, digit) => ctx.roleOfG? whole digit) =
        some r ∧ b.Admits r ∧ b' = b.put w r := by
  unfold addG
  refine bind_splitCode_eq_ok_iff fun n => ?_
  obtain ⟨whole, digit⟩ := n
  simp only [BlockContext.roleOfG?]
  cases hcode : Code.ofG? whole digit with
  | none => simp [throw, throwThe, MonadExceptOf.throw]
  | some code => simpa using addCode_eq_ok_iff

private theorem addM_eq_ok_iff :
    b.addM ctx w = .ok b' ↔
      ∃ r, ((splitCode w.value).toOption.bind fun (number, _) => ctx.roleOfM? number) =
        some r ∧ b.Admits r ∧ b' = b.put w r := by
  unfold addM
  refine bind_splitCode_eq_ok_iff fun n => ?_
  obtain ⟨number, digit⟩ := n
  simp only [BlockContext.roleOfM?]
  by_cases hremoved : isRemovable number && ctx.strips number
  · simp only [hremoved, if_true, Option.some.injEq, exists_eq_left', Admits, put, true_and,
      pure, Except.pure, Except.ok.injEq]
    exact eq_comm
  · simp only [hremoved, Bool.false_eq_true, if_false]
    exact addCode_eq_ok_iff

private theorem addValue_eq_ok_iff :
    b.addValue ctx w = .ok b' ↔
      ∃ r, ctx.roleOfValue? w.letter w.value = some r ∧ b.Admits r ∧ b' = b.put w r := by
  unfold addValue BlockContext.roleOfValue?
  by_cases hrepeated : (b.value? w.letter).isSome
  · have hadmits : ∀ v, ¬ b.Admits (.value w.letter v) := by
      intro v h
      rw [show b.value? w.letter = none from h] at hrepeated
      cases hrepeated
    simp only [hrepeated, if_true]
    constructor
    · nofun
    · rintro ⟨r, hr, hadmits', -⟩
      split at hr
      · cases hr
      · split at hr
        · cases hr
        · cases hr
          exact absurd hadmits' (hadmits _)
  · have hadmits : b.Admits (.value w.letter w.value) := by simpa [Admits] using hrepeated
    by_cases htext : ctx.config.axisCountIsText && (Axis.ofLetter? w.letter).isSome
    · simp [hrepeated, htext]
    · cases hfault : letterFault? ctx.config w.letter with
      | some cause => simp [hrepeated, htext]
      | none =>
        simp only [hrepeated, htext, hadmits, put, Bool.false_eq_true, if_false, Option.isSome_none,
          Option.some.injEq, exists_eq_left', true_and, Except.ok.injEq]
        exact eq_comm

/-- A word is accepted if it has a role and the block has nothing against it. -/
theorem add_eq_ok_iff :
    b.add ctx w = .ok b' ↔ ∃ r, ctx.role? w = some r ∧ b.Admits r ∧ b' = b.put w r := by
  unfold add BlockContext.role?
  split
  · exact addG_eq_ok_iff
  · split
    · exact addM_eq_ok_iff
    · exact addValue_eq_ok_iff

private theorem hasGroup_put {c : Code} {group : ModalGroup} :
    (b.put w (.code c)).hasGroup group = (b.hasGroup group || c.group == group) := by
  simp [put, hasGroup]

private theorem claim?_put {c : Code} : (b.put w (.code c)).claim? = b.claim?.or c.claim? := by
  simp only [put, claim?, List.findSome?_append, List.findSome?_singleton]

private theorem value?_put {l m : Char} {v : Float} :
    (b.put w (.value l v)).value? m = (b.value? m).or (if m == l then some v else none) := by
  simp only [put, value?, List.lookup_append, List.lookup_cons, List.lookup_nil]
  split <;> simp_all

/-- A block with one more contribution admits what the block admits that the contribution does not
conflict with. -/
theorem admits_put : (b.put w r).Admits s ↔ b.Admits s ∧ r.Compatible s := by
  cases r <;> cases s
  case code.code c d =>
    simp only [Admits, Role.Compatible, hasGroup_put, claim?_put]
    cases b.hasGroup d.group <;> cases c.claim? <;> cases d.claim? <;> simp [and_comm]
  case value.value l v m u =>
    simp only [Admits, Role.Compatible, value?_put]
    cases b.value? m <;> simp [@eq_comm _ m l]
  all_goals simp [Admits, put, Role.Compatible, hasGroup, claim?, value?]

/-! ### All words -/

theorem extend_nil : b.extend ctx [] = b := by
  simp [extend, BlockContext.roles]

theorem roles_cons (h : ctx.role? w = some r) : ctx.roles (w :: words) = r :: ctx.roles words :=
  List.filterMap_cons_some h

theorem extend_cons (h : ctx.role? w = some r) :
    b.extend ctx (w :: words) = (b.put w r).extend ctx words := by
  cases r <;>
    simp [extend, roles_cons h, put, BlockContext.removes, h, List.filterMap_cons, Role.code?,
      Role.value?]

/-- Words are accepted if each of them has a role, no two of the roles conflict, and the block has
nothing against any of them. -/
theorem addAll_eq_ok_iff :
    b.addAll ctx words = .ok b' ↔
      (∀ w ∈ words, (ctx.role? w).isSome) ∧ (ctx.roles words).Pairwise Role.Compatible ∧
        (∀ r ∈ ctx.roles words, b.Admits r) ∧ b' = b.extend ctx words := by
  induction words generalizing b with
  | nil =>
    simp only [addAll, extend_nil, BlockContext.roles, List.filterMap_nil, List.not_mem_nil,
      false_imp_iff, implies_true, List.Pairwise.nil, true_and, Except.ok.injEq]
    exact eq_comm
  | cons w words ih =>
    rw [addAll, bind_eq_ok_iff]
    simp only [add_eq_ok_iff, ih]
    cases hrole : ctx.role? w with
    | none => simp [hrole]
    | some r =>
      simp only [roles_cons hrole, extend_cons hrole, List.forall_mem_cons, List.pairwise_cons,
        hrole, Option.isSome_some, Option.some.injEq]
      constructor
      · rintro ⟨_, ⟨_, rfl, hadmits, rfl⟩, hsome, hpairwise, hall, hb'⟩
        have hall' := fun s hs => admits_put.mp (hall s hs)
        exact ⟨⟨trivial, hsome⟩, ⟨fun s hs => (hall' s hs).2, hpairwise⟩,
          ⟨hadmits, fun s hs => (hall' s hs).1⟩, hb'⟩
      · rintro ⟨⟨-, hsome⟩, ⟨hcompatible, hpairwise⟩, ⟨hadmits, hall⟩, hb'⟩
        exact ⟨_, ⟨r, rfl, hadmits, rfl⟩, hsome, hpairwise,
          fun s hs => admits_put.mpr ⟨hall s hs, hcompatible s hs⟩, hb'⟩

/-! ### Coherent blocks -/

/-- Two codes that can stand on one line. -/
def Separate (c d : Code) : Prop :=
  c.group ≠ d.group ∧ ¬ (c.claim?.isSome ∧ d.claim?.isSome)

/-- A block without conflicts: no two codes of one group, no two that claim the axis words, and no
letter twice. -/
structure Coherent (b : Block) : Prop where
  codes : b.codes.Pairwise Separate
  values : b.values.Pairwise fun v u => v.1 ≠ u.1

/-- The words of a line make a coherent block. -/
theorem coherent_of_addAll (h : ({} : Block).addAll ctx words = .ok b) : b.Coherent := by
  obtain ⟨-, hpairwise, -, rfl⟩ := addAll_eq_ok_iff.mp h
  constructor
  · simp only [extend, List.nil_append, List.pairwise_filterMap]
    refine hpairwise.imp fun {r s} hcompatible c hc d hd => ?_
    cases r <;> cases hc
    cases s <;> cases hd
    exact hcompatible
  · simp only [extend, List.nil_append, List.pairwise_filterMap]
    refine hpairwise.imp fun {r s} hcompatible v hv u hu => ?_
    cases r <;> cases hv
    cases s <;> cases hu
    exact hcompatible

/-- What is found in a list of which at most one member has it. -/
theorem findSome?_eq_some_iff {α β : Type} {f : α → Option β} {l : List α} {x : β}
    (h : l.Pairwise fun a b => ¬ ((f a).isSome ∧ (f b).isSome)) :
    l.findSome? f = some x ↔ ∃ a ∈ l, f a = some x := by
  constructor
  · exact List.exists_of_findSome?_eq_some
  · rintro ⟨a, ha, hx⟩
    induction l with
    | nil => cases ha
    | cons b l ih =>
      rw [List.pairwise_cons] at h
      rcases List.mem_cons.mp ha with rfl | ha
      · rw [List.findSome?_cons, hx]
      · have hb : f b = none := by
          have hnot := h.1 a ha
          simpa [hx] using hnot
        rw [List.findSome?_cons, hb]
        exact ih h.2 ha

theorem Coherent.claim?_eq_some_iff (h : b.Coherent) {owner : AxisOwner} :
    b.claim? = some owner ↔ ∃ c ∈ b.codes, c.claim? = some owner :=
  findSome?_eq_some_iff (h.codes.imp fun hseparate => hseparate.2)

/-- What a family of codes of one group says is found in a coherent block wherever a code of the
family stands. -/
theorem Coherent.findSome?_codes_eq_some_iff (h : b.Coherent) {α : Type} (code : α → Code)
    {f : Code → Option α} {group : ModalGroup} (hf : ∀ c a, f c = some a ↔ c = code a)
    (hgroup : ∀ a, (code a).group = group) {a : α} :
    b.codes.findSome? f = some a ↔ code a ∈ b.codes := by
  have hunique : b.codes.Pairwise fun c d => ¬ ((f c).isSome ∧ (f d).isSome) := by
    refine h.codes.imp fun {c d} hseparate hboth => hseparate.1 ?_
    obtain ⟨i, hi⟩ := Option.isSome_iff_exists.mp hboth.1
    obtain ⟨j, hj⟩ := Option.isSome_iff_exists.mp hboth.2
    rw [(hf c i).mp hi, (hf d j).mp hj, hgroup, hgroup]
  rw [findSome?_eq_some_iff hunique]
  simp only [hf, exists_eq_right]

theorem Coherent.motion?_eq_some_iff (h : b.Coherent) {mode : MotionMode} :
    b.motion? = some mode ↔ .motion mode ∈ b.codes := by
  unfold motion?
  refine h.findSome?_codes_eq_some_iff .motion (fun c m => ?_) (fun _ => rfl)
  cases c <;> simp

theorem Coherent.positioning?_eq_some_iff (h : b.Coherent) {action : Positioning} :
    b.positioning? = some action ↔ .positioning action ∈ b.codes := by
  unfold positioning?
  refine h.findSome?_codes_eq_some_iff .positioning (fun c p => ?_) (fun _ => rfl)
  cases c <;> simp

/-! ### The owner of the axis words -/

/-- The axis words have the same owner, or a conflict in both cases, whatever their values and
wherever the words stand. -/
theorem owner_congr {ctx' : BlockContext} (hpositioning : b'.positioning? = b.positioning?)
    (hclaim : b'.claim? = b.claim?) (hmotion : b'.motion? = b.motion?)
    (hgiven : b'.axisWords.given = b.axisWords.given) :
    SameOutcome (b.owner ctx) (b'.owner ctx') := by
  have hconflict : b'.machineConflict = b.machineConflict := by
    rw [machineConflict, machineConflict, hclaim, hmotion]
  unfold owner
  rw [hpositioning, hconflict, hclaim, hmotion, hgiven]
  split
  · split
    · exact .error rfl
    · exact .refl _
  · exact .refl _

end Block

end NumericControl
