import Mathlib.Data.List.Basic
import NumericControl.Proofs.Block.WordOrder

/-!
# Blocks without their removed words

The words that a context does not remove have the same roles in every context of the same machine
that removes no other codes.  So without the removed words a line makes the same block, and nothing
is removed from it any more.

## Main definitions

* `BlockContext.Keeps` : a context in which the words are kept that another one keeps.

## Main results

* `BlockContext.Keeps.role?_eq` : words that are kept have the same role.
* `Block.addAll_of_keeps` : the words that are kept make the same block.
-/

namespace NumericControl

/-- A context of the same machine as another one which keeps every code that the other one keeps. -/
structure BlockContext.Keeps (ctx ctx' : BlockContext) : Prop where
  dialect : ctx'.config.dialect = ctx.config.dialect
  axisCount : ctx'.config.axisCount = ctx.config.axisCount
  axisCountText : ctx'.config.axisCountText = ctx.config.axisCountText
  axisCountIsText : ctx'.config.axisCountIsText = ctx.config.axisCountIsText
  strips : ∀ number, ctx.strips number = false → ctx'.strips number = false

variable {ctx ctx' : BlockContext} {words words' : List Word} {w : Word} {b : Block}

namespace BlockContext

theorem removes_iff : ctx.removes w = true ↔ ctx.role? w = some .removed := by
  unfold removes
  split <;> simp_all

theorem Keeps.allowed?_eq (h : ctx.Keeps ctx') : ctx'.allowed? = ctx.allowed? := by
  funext code
  rw [allowed?, allowed?, h.dialect]

/-- The role of an M word that is kept. -/
private theorem Keeps.roleOfM?_eq (h : ctx.Keeps ctx') {number : Int}
    (hkept : ctx.roleOfM? number ≠ some .removed) :
    ctx'.roleOfM? number = ctx.roleOfM? number := by
  have hstrips : (isRemovable number && ctx.strips number) = false := by
    rw [← Bool.not_eq_true]
    exact fun hremoved => hkept (if_pos hremoved)
  have hstrips' : (isRemovable number && ctx'.strips number) = false := by
    cases hnumber : isRemovable number with
    | false => rfl
    | true =>
      rw [hnumber, Bool.true_and] at hstrips
      exact h.strips number hstrips
  rw [roleOfM?, roleOfM?, hstrips, hstrips', h.allowed?_eq]

/-- Words that are kept have the same role. -/
theorem Keeps.role?_eq (h : ctx.Keeps ctx') (hw : ctx.removes w = false) :
    ctx'.role? w = ctx.role? w := by
  have hfault :
      Block.letterFault? ctx'.config w.letter = Block.letterFault? ctx.config w.letter := by
    unfold Block.letterFault?
    rw [h.axisCount, h.axisCountText]
  have hkept : ctx.role? w ≠ some .removed := fun hremoved => by
    rw [removes_iff.mpr hremoved] at hw
    cases hw
  unfold role? at hkept ⊢
  split
  · simp only [roleOfG?, h.allowed?_eq]
  · split
    · rename_i hG hM
      rw [if_neg hG, if_pos hM] at hkept
      cases hcode : splitCode w.value with
      | error fault => rfl
      | ok code =>
        rw [hcode] at hkept
        exact h.roleOfM?_eq hkept
    · rw [roleOfValue?, roleOfValue?, h.axisCountIsText, hfault]

/-- Words that are kept are kept again. -/
theorem Keeps.removes_eq_false (h : ctx.Keeps ctx') (hw : ctx.removes w = false) :
    ctx'.removes w = false := by
  rw [← hw, removes, removes, h.role?_eq hw]

end BlockContext

namespace Block

/-- The words that are kept make the same block, from which nothing is removed. -/
theorem addAll_of_keeps (h : ctx.Keeps ctx')
    (hkeys : words'.map Word.key = (words.filter fun w => !ctx.removes w).map Word.key)
    (hb : ({} : Block).addAll ctx words = .ok b) :
    ({} : Block).addAll ctx' words' = .ok { b with stripped := [] } := by
  obtain ⟨hsome, hpairwise, hadmits, rfl⟩ := addAll_eq_ok_iff.mp hb
  have hperm :
      ((words.filter fun w => !ctx.removes w).map Word.key).Perm (words'.map Word.key) :=
    hkeys ▸ .refl _
  have hkept : ∀ w ∈ words.filter (fun w => !ctx.removes w), w ∈ words ∧ ctx.removes w = false := by
    intro w hw
    simpa using hw
  -- the roles of the words that stay are those of the line that are no removals
  have hroles : ctx'.roles words' = ctx.roles (words.filter fun w => !ctx.removes w) := by
    rw [BlockContext.roles_eq_filterMap_key, hkeys, ← BlockContext.roles_eq_filterMap_key]
    exact List.filterMap_congr fun w hw => h.role?_eq (hkept w hw).2
  have hsublist : (ctx'.roles words').Sublist (ctx.roles words) := by
    rw [hroles]
    exact List.Sublist.filterMap _ List.filter_sublist
  have hcontributions {α : Type} {f : Role → Option α} (hf : f .removed = none) :
      (ctx'.roles words').filterMap f = (ctx.roles words).filterMap f := by
    rw [hroles, BlockContext.roles, BlockContext.roles, List.filterMap_filterMap,
      List.filterMap_filterMap, List.filterMap_filter]
    refine List.filterMap_congr fun w _ => ?_
    cases hw : ctx.removes w with
    | false => rfl
    | true =>
      rw [BlockContext.removes_iff.mp hw]
      exact hf.symm
  have hstripped : words'.filter ctx'.removes = [] := by
    have hremoved := ctx'.removed_perm ctx'.source hperm
    have hnone : (words.filter fun w => !ctx.removes w).filter ctx'.removes = [] := by
      rw [List.filter_eq_nil_iff]
      intro w hw
      simp [h.removes_eq_false (hkept w hw).2]
    rw [hnone] at hremoved
    exact List.map_eq_nil_iff.mp hremoved.nil_eq.symm
  refine addAll_eq_ok_iff.mpr ⟨?_, hpairwise.sublist hsublist,
    fun r hr => hadmits r (hsublist.mem hr), ?_⟩
  · refine ctx'.forall_isSome_role?_of_perm ctx'.source hperm fun w hw => ?_
    rw [h.role?_eq (hkept w hw).2]
    exact hsome w (hkept w hw).1
  · simp only [extend, @hcontributions _ Role.code? rfl, @hcontributions _ Role.value? rfl,
      hstripped, List.append_nil]

end Block

end NumericControl
