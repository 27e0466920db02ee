import NumericControl.Proofs.Execution.Origin
import NumericControl.Proofs.Execution.Relocation

/-!
# The order of the words of a line

The words of a line mean the same in every order.  Their roles are the same up to order, so they
make a block if the others do, and a coherent block has the same code in every group and the same
value for every letter whatever the order of its words.

## Main definitions

* `Word.key` : letter and value of a word.
* `Block.Reorders` : two blocks with the same codes and values up to order.

## Main results

* `Block.exists_addAll_of_perm` : words in another order make a block as well.
* `Block.Reorders.code?_eq`, `Block.Reorders.value?_eq`, `Block.Reorders.owner_eq` : reordered
  blocks mean the same.
* `interpret_of_perm` : lines with the same words up to order are interpreted alike.
-/

namespace NumericControl

/-- What counts of a word: its letter and its value, but not where it stands. -/
def Word.key (w : Word) : Char × Float :=
  (w.letter, w.value)

namespace BlockContext

/-- The same context in another text. -/
def relocate (ctx : BlockContext) (source : List Char) : BlockContext :=
  { ctx with source }

/-- The role of words with a given letter and value. -/
def roleOfKey? (ctx : BlockContext) (key : Char × Float) : Option Role :=
  ctx.role? ⟨key.1, [], key.2, 0, 0⟩

variable (ctx : BlockContext) (source : List Char) {words words' : List Word}

theorem roles_eq_filterMap_key :
    ctx.roles words = (words.map Word.key).filterMap ctx.roleOfKey? := by
  rw [List.filterMap_map]
  rfl

/-- Words in another order have the same roles up to order. -/
theorem roles_perm (h : (words.map Word.key).Perm (words'.map Word.key)) :
    (ctx.roles words).Perm ((ctx.relocate source).roles words') := by
  rw [roles_eq_filterMap_key, roles_eq_filterMap_key]
  exact h.filterMap ctx.roleOfKey?

/-- Words in another order have the same removed words up to order. -/
theorem removed_perm (h : (words.map Word.key).Perm (words'.map Word.key)) :
    ((words.filter ctx.removes).map Word.key).Perm
      ((words'.filter (ctx.relocate source).removes).map Word.key) := by
  have hfilter (words : List Word) : (words.filter ctx.removes).map Word.key =
      (words.map Word.key).filter fun key => ctx.removes ⟨key.1, [], key.2, 0, 0⟩ := by
    rw [List.filter_map]
    rfl
  have hremoves : (ctx.relocate source).removes = ctx.removes := rfl
  rw [hremoves, hfilter, hfilter]
  exact h.filter _

theorem forall_isSome_role?_of_perm (h : (words.map Word.key).Perm (words'.map Word.key))
    (hsome : ∀ w ∈ words, (ctx.role? w).isSome) :
    ∀ w ∈ words', ((ctx.relocate source).role? w).isSome := by
  have hkeys (words : List Word) : (∀ w ∈ words, (ctx.role? w).isSome) ↔
      ∀ key ∈ words.map Word.key, (ctx.roleOfKey? key).isSome := by
    rw [List.forall_mem_map]
    rfl
  have hrole : (ctx.relocate source).role? = ctx.role? := rfl
  rw [hrole]
  rw [hkeys] at hsome ⊢
  exact fun key hkey => hsome key (h.mem_iff.mpr hkey)

end BlockContext

namespace Block

variable {ctx : BlockContext} {words words' : List Word} {b b' : Block}

/-! ### What a coherent block says -/

theorem Coherent.code?_eq_some_iff (h : b.Coherent) {group : ModalGroup} {c : Code} :
    b.code? group = some c ↔ c ∈ b.codes ∧ c.group = group := by
  have hunique : b.codes.Pairwise fun c d =>
      ¬ ((Option.guard (·.group == group) c).isSome ∧
        (Option.guard (·.group == group) d).isSome) := by
    refine h.codes.imp fun {c d} hseparate hboth => hseparate.1 ?_
    simp only [Option.isSome_guard, beq_iff_eq] at hboth
    exact hboth.1.trans hboth.2.symm
  rw [code?, List.find?_eq_findSome?_guard, findSome?_eq_some_iff hunique]
  simp only [Option.guard_eq_some_iff, beq_iff_eq]
  constructor
  · rintro ⟨_, hmem, rfl, hgroup⟩
    exact ⟨hmem, hgroup⟩
  · rintro ⟨hmem, hgroup⟩
    exact ⟨c, hmem, rfl, hgroup⟩

theorem Coherent.value?_eq_some_iff (h : b.Coherent) {letter : Char} {value : Float} :
    b.value? letter = some value ↔ (letter, value) ∈ b.values := by
  have hunique : b.values.Pairwise fun v u =>
      ¬ ((if letter == v.1 then some v.2 else none).isSome ∧
        (if letter == u.1 then some u.2 else none).isSome) := by
    refine h.values.imp fun {v u} hne hboth => hne ?_
    simp only [Option.isSome_ite, beq_iff_eq] at hboth
    exact hboth.1.symm.trans hboth.2
  rw [value?, List.lookup_eq_findSome?, findSome?_eq_some_iff hunique]
  simp only [Option.ite_none_right_eq_some, beq_iff_eq, Option.some.injEq]
  constructor
  · rintro ⟨_, hmem, rfl, rfl⟩
    exact hmem
  · intro hmem
    exact ⟨_, hmem, rfl, rfl⟩

/-! ### Blocks in another order -/

/-- Two blocks with the same codes and values up to order. -/
structure Reorders (b b' : Block) : Prop where
  codes : b.codes.Perm b'.codes
  values : b.values.Perm b'.values

/-- Words in another order make a block as well, with the same codes, values and removed words up
to order. -/
theorem exists_addAll_of_perm (source : List Char)
    (h : (words.map Word.key).Perm (words'.map Word.key))
    (hb : ({} : Block).addAll ctx words = .ok b) :
    ∃ b', ({} : Block).addAll (ctx.relocate source) words' = .ok b' ∧ b.Reorders b' ∧
      (b.stripped.map Word.key).Perm (b'.stripped.map Word.key) := by
  obtain ⟨hsome, hpairwise, hadmits, rfl⟩ := addAll_eq_ok_iff.mp hb
  have hroles := ctx.roles_perm source h
  refine ⟨_, addAll_eq_ok_iff.mpr
    ⟨ctx.forall_isSome_role?_of_perm source h hsome,
      (hroles.pairwise_iff Role.Compatible.symm).mp hpairwise,
      fun r hr => hadmits r (hroles.mem_iff.mpr hr), rfl⟩, ?_, ?_⟩
  · exact ⟨hroles.filterMap Role.code?, hroles.filterMap Role.value?⟩
  · exact ctx.removed_perm source h

namespace Reorders

theorem coherent (h : b.Reorders b') (hb : b.Coherent) : b'.Coherent where
  codes := by
    refine (h.codes.pairwise_iff fun {c d} hseparate => ?_).mp hb.codes
    exact ⟨hseparate.1.symm, fun hboth => hseparate.2 hboth.symm⟩
  values := (h.values.pairwise_iff Ne.symm).mp hb.values

theorem code?_eq (h : b.Reorders b') (hb : b.Coherent) : b'.code? = b.code? := by
  funext group
  refine Option.ext fun c => ?_
  rw [(h.coherent hb).code?_eq_some_iff, hb.code?_eq_some_iff, h.codes.mem_iff]

theorem value?_eq (h : b.Reorders b') (hb : b.Coherent) : b'.value? = b.value? := by
  funext letter
  refine Option.ext fun value => ?_
  rw [(h.coherent hb).value?_eq_some_iff, hb.value?_eq_some_iff, h.values.mem_iff]

theorem claim?_eq (h : b.Reorders b') (hb : b.Coherent) : b'.claim? = b.claim? := by
  refine Option.ext fun owner => ?_
  rw [(h.coherent hb).claim?_eq_some_iff, hb.claim?_eq_some_iff]
  simp only [h.codes.mem_iff]

theorem motion?_eq (h : b.Reorders b') (hb : b.Coherent) : b'.motion? = b.motion? := by
  refine Option.ext fun mode => ?_
  rw [(h.coherent hb).motion?_eq_some_iff, hb.motion?_eq_some_iff, h.codes.mem_iff]

theorem positioning?_eq (h : b.Reorders b') (hb : b.Coherent) :
    b'.positioning? = b.positioning? := by
  refine Option.ext fun action => ?_
  rw [(h.coherent hb).positioning?_eq_some_iff, hb.positioning?_eq_some_iff, h.codes.mem_iff]

/-- The axis words of reordered blocks have the same owner, or a conflict in both. -/
theorem owner_eq (h : b.Reorders b') (hb : b.Coherent) (ctx ctx' : BlockContext) :
    SameOutcome (b.owner ctx) (b'.owner ctx') := by
  refine owner_congr (h.positioning?_eq hb) (h.claim?_eq hb) (h.motion?_eq hb) ?_
  rw [axisWords, axisWords, h.value?_eq hb]

end Reorders

end Block

/-! ### Lines in another order -/

variable {config : Config} {operator : Operator} {s : State} {line line' : Line}

/-- A line with the same words in another order has the same execution in its own text. -/
theorem exists_executionOf_of_perm (hmessage : line.message? = line'.message?)
    (hwords : (line.words.map Word.key).Perm (line'.words.map Word.key)) {ex : Execution}
    (h : executionOf config operator s line = .ok ex) :
    ∃ stripped, executionOf config operator s line' = .ok (ex.relocate line'.source stripped) ∧
      (ex.stripped.map Word.key).Perm (stripped.map Word.key) := by
  obtain ⟨b, owner, hb, howner, rfl⟩ := executionOf_eq_ok_iff.mp h
  obtain ⟨b', hb', hreorders, hstripped⟩ :=
    Block.exists_addAll_of_perm line'.source hwords hb
  have hcoherent := Block.coherent_of_addAll hb
  obtain ⟨_, howner', rfl⟩ := (hreorders.owner_eq hcoherent (blockContext config operator s line)
    (blockContext config operator s line')).exists_ok howner
  refine ⟨b'.stripped, executionOf_eq_ok_iff.mpr ⟨b', owner, hb', howner', ?_⟩, hstripped⟩
  rw [hreorders.code?_eq hcoherent, hreorders.value?_eq hcoherent, ← hmessage]
  rfl

/-- Two results of a line that differ in its text only. -/
structure LineResult.Alike (result result' : LineResult) : Prop where
  tokens : result.tokens = result'.tokens
  state : result.state = result'.state
  handled : result.handled = result'.handled
  warnings : result.warnings = result'.warnings
  stripped : (result.stripped.map Word.key).Perm (result'.stripped.map Word.key)

/-- A line with words that is accepted is accepted with its words in another order, with the same
result. -/
theorem exists_interpretBlock_of_perm (hmessage : line.message? = line'.message?)
    (hwords : (line.words.map Word.key).Perm (line'.words.map Word.key)) {result : LineResult}
    (h : interpretBlock config operator s line = .ok result) :
    ∃ result', interpretBlock config operator s line' = .ok result' ∧ result.Alike result' := by
  obtain ⟨ex, hex, h⟩ := bind_eq_ok_iff.mp h
  obtain ⟨⟨tokens, next, tools⟩, hrun, hresult⟩ := bind_eq_ok_iff.mp h
  cases hresult
  obtain ⟨stripped, hex', hstripped⟩ := exists_executionOf_of_perm hmessage hwords hex
  obtain ⟨_, hrun', rfl⟩ := (ex.run_relocate line'.source stripped).exists_ok hrun
  exact ⟨_, bind_eq_ok_iff.mpr ⟨_, hex', bind_eq_ok_iff.mpr ⟨_, hrun', rfl⟩⟩,
    ⟨rfl, rfl, rfl, rfl, hstripped⟩⟩

theorem interpret_block {items : List Item} (h : line.content = .block items) :
    interpret config operator s line =
      if s.programEnd then .ok { state := s, line := line.text, handled := false }
      else interpretBlock config operator s line := by
  unfold interpret
  rw [h]

/-- The order of the words of a line does not matter: both lines are refused, or both are accepted
with the same tokens, state and warnings and with the same words removed up to order. -/
theorem interpret_of_perm (config : Config) (operator : Operator) (s : State) (line line' : Line)
    (hblock : ∃ items, line.content = .block items)
    (hblock' : ∃ items, line'.content = .block items) (hmessage : line.message? = line'.message?)
    (hwords : (line.words.map Word.key).Perm (line'.words.map Word.key)) :
    (∃ fault fault', interpret config operator s line = .error fault ∧
        interpret config operator s line' = .error fault') ∨
      ∃ result result', interpret config operator s line = .ok result ∧
        interpret config operator s line' = .ok result' ∧ result.Alike result' := by
  obtain ⟨items, hitems⟩ := hblock
  obtain ⟨items', hitems'⟩ := hblock'
  rw [interpret_block hitems, interpret_block hitems']
  by_cases hend : s.programEnd
  · simp only [hend, if_true]
    exact .inr ⟨_, _, rfl, rfl, ⟨rfl, rfl, rfl, rfl, .nil⟩⟩
  · simp only [hend, Bool.false_eq_true, if_false]
    cases h : interpretBlock config operator s line with
    | ok result =>
      obtain ⟨result', h', halike⟩ := exists_interpretBlock_of_perm hmessage hwords h
      exact .inr ⟨result, result', rfl, h', halike⟩
    | error fault =>
      cases h' : interpretBlock config operator s line' with
      | error fault' => exact .inl ⟨fault, fault', rfl, rfl⟩
      | ok result' =>
        obtain ⟨result, hok, -⟩ := exists_interpretBlock_of_perm hmessage.symm hwords.symm h'
        rw [h] at hok
        cases hok

/-- A straight move. -/
def straightMove : Line :=
  ⟨"G1 X2".toList, .block [.word ⟨'G', ['1'], 1.0, 0, 2⟩, .word ⟨'X', ['2'], 2.0, 3, 5⟩]⟩

/-- The same move with its words in the other order. -/
def straightMoveTurned : Line :=
  ⟨"X2 G1".toList, .block [.word ⟨'X', ['2'], 2.0, 0, 2⟩, .word ⟨'G', ['1'], 1.0, 3, 5⟩]⟩

theorem interpret_straightMove :
    straightMove.message? = straightMoveTurned.message? ∧
      (straightMove.words.map Word.key).Perm (straightMoveTurned.words.map Word.key) ∧
      ∃ result result', interpret {} {} .initial straightMove = .ok result ∧
        interpret {} {} .initial straightMoveTurned = .ok result' ∧ result.Alike result' ∧
        result'.tokens.length = 1 := by
  have hmessage : straightMove.message? = straightMoveTurned.message? := by decide
  have hwords : (straightMove.words.map Word.key).Perm (straightMoveTurned.words.map Word.key) :=
    .swap _ _ _
  have hlength :
      (interpret {} {} .initial straightMove).toOption.map (·.tokens.length) = some 1 := by
    decide +kernel
  refine ⟨hmessage, hwords, ?_⟩
  rcases interpret_of_perm {} {} .initial straightMove straightMoveTurned ⟨_, rfl⟩ ⟨_, rfl⟩ hmessage
    hwords with ⟨fault, fault', h, h'⟩ | ⟨result, result', h, h', halike⟩
  · rw [h] at hlength
    cases hlength
  · rw [h] at hlength
    refine ⟨result, result', h, h', halike, ?_⟩
    rw [← halike.tokens]
    exact Option.some.inj hlength

end NumericControl
