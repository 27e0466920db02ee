import NumericControl.Proofs.Block.WordOrder

/-!
# Words with other values

Words that are no codes are refused for their letters only.  So words with the same codes and
letters but other values make a block with the same codes and those values, or they are refused for
a cause of the same kind.

## Main definitions

* `Revalues` : words whose values are changed letter by letter.
* `Block.Revalues` : a block with the same codes and changed values.

## Main results

* `Block.addAll_of_revalues` : words with other values make a block with other values.
* `executionOf_of_revalues` : a line with other values is executed with other values.
-/

namespace NumericControl

/-- A change of values, letter by letter, that leaves the numbers of codes as they are. -/
structure KeepsCodes (f : Char → Float → Float) : Prop where
  ofG (value : Float) : f 'G' value = value
  ofM (value : Float) : f 'M' value = value

/-- Words with changed values. -/
def Revalues (f : Char → Float → Float) (words words' : List Word) : Prop :=
  words'.map Word.key = words.map fun w => (w.letter, f w.letter w.value)

variable {f : Char → Float → Float} {words words' : List Word}

namespace Block

/-- A block with the same codes and changed values. -/
structure Revalues (f : Char → Float → Float) (b b' : Block) : Prop where
  codes : b'.codes = b.codes
  values : b'.values = b.values.map fun v => (v.1, f v.1 v.2)

variable {b b' : Block} {ctx : BlockContext} {source : List Char} {w w' : Word}

namespace Revalues

theorem code?_eq (h : b.Revalues f b') : b'.code? = b.code? := by
  funext group
  rw [code?, code?, h.codes]

theorem hasGroup_eq (h : b.Revalues f b') : b'.hasGroup = b.hasGroup := by
  funext group
  rw [hasGroup, hasGroup, h.codes]

theorem claim?_eq (h : b.Revalues f b') : b'.claim? = b.claim? := by
  rw [claim?, claim?, h.codes]

theorem value?_eq (h : b.Revalues f b') (letter : Char) :
    b'.value? letter = (b.value? letter).map (f letter) := by
  rw [value?, value?, h.values]
  induction b.values with
  | nil => rfl
  | cons v values ih =>
    rw [List.map_cons, List.lookup_cons, List.lookup_cons, ih]
    by_cases hletter : letter = v.1
    · rw [← hletter, beq_self_eq_true]
      rfl
    · rw [beq_false_of_ne hletter]

theorem given_eq (h : b.Revalues f b') : b'.axisWords.given = b.axisWords.given := by
  unfold axisWords PerAxis.given
  refine List.filter_congr fun axis _ => ?_
  rw [PerAxis.get_ofFn, PerAxis.get_ofFn, h.value?_eq, Option.isSome_map]

end Revalues

/-! ### Reading words -/

theorem addCode_of_revalues (h : b.Revalues f b') (code : Code) :
    Corresponds Failure.SameKind (Block.Revalues f) (b.addCode ctx w code)
      (b'.addCode (ctx.relocate source) w' code) := by
  have hdialect : (ctx.relocate source).config.dialect = ctx.config.dialect := rfl
  unfold addCode
  rw [hdialect, h.hasGroup_eq, h.claim?_eq]
  split
  · exact .error rfl
  · split
    · exact .error rfl
    · split
      · exact .error rfl
      · exact .ok ⟨congrArg (· ++ [code]) h.codes, h.values⟩

theorem addG_of_revalues (h : b.Revalues f b') (hvalue : w'.value = w.value) :
    Corresponds Failure.SameKind (Block.Revalues f) (b.addG ctx w)
      (b'.addG (ctx.relocate source) w') := by
  unfold addG
  rw [hvalue]
  refine (SameOutcome.refl ((splitCode w.value).mapError .notWhole)).bind ?_
  rintro ⟨whole, digit⟩
  dsimp only
  split
  · exact addCode_of_revalues h _
  · exact .error rfl

theorem addM_of_revalues (h : b.Revalues f b') (hvalue : w'.value = w.value) :
    Corresponds Failure.SameKind (Block.Revalues f) (b.addM ctx w)
      (b'.addM (ctx.relocate source) w') := by
  have hstrips : (ctx.relocate source).strips = ctx.strips := rfl
  unfold addM
  rw [hvalue, hstrips]
  refine (SameOutcome.refl ((splitCode w.value).mapError .notWhole)).bind ?_
  rintro ⟨number, digit⟩
  dsimp only
  split
  · exact .ok ⟨h.codes, h.values⟩
  · exact addCode_of_revalues h _

theorem addValue_of_revalues (h : b.Revalues f b')
    (hkey : w'.key = (w.letter, f w.letter w.value)) :
    Corresponds Failure.SameKind (Block.Revalues f) (b.addValue ctx w)
      (b'.addValue (ctx.relocate source) w') := by
  have hconfig : (ctx.relocate source).config = ctx.config := rfl
  obtain ⟨hletter, hvalue⟩ := Prod.mk.inj hkey
  unfold addValue
  rw [hconfig, hletter, hvalue, h.value?_eq, Option.isSome_map]
  split
  · exact .error rfl
  · split
    · exact .error rfl
    · split
      · exact .error rfl
      · refine .ok ⟨h.codes, ?_⟩
        rw [h.values, List.map_append]
        rfl

theorem add_of_revalues (hf : KeepsCodes f) (h : b.Revalues f b')
    (hkey : w'.key = (w.letter, f w.letter w.value)) :
    Corresponds Failure.SameKind (Block.Revalues f) (b.add ctx w)
      (b'.add (ctx.relocate source) w') := by
  obtain ⟨hletter, hvalue⟩ := Prod.mk.inj hkey
  unfold add
  rw [hletter]
  split
  · rename_i hG
    rw [beq_iff_eq.mp hG, hf.ofG] at hvalue
    exact addG_of_revalues h hvalue
  · split
    · rename_i hM
      rw [beq_iff_eq.mp hM, hf.ofM] at hvalue
      exact addM_of_revalues h hvalue
    · exact addValue_of_revalues h hkey

/-- Words with changed values make a block with changed values, or are refused for a cause of the
same kind. -/
theorem addAll_of_revalues (hf : KeepsCodes f) (h : b.Revalues f b')
    (hwords : NumericControl.Revalues f words words') :
    Corresponds Failure.SameKind (Block.Revalues f) (b.addAll ctx words)
      (b'.addAll (ctx.relocate source) words') := by
  induction words generalizing words' b b' with
  | nil =>
    rw [List.map_eq_nil_iff.mp hwords]
    exact .ok h
  | cons w words ih =>
    obtain ⟨w', rest, rfl, hkey, hrest⟩ := List.map_eq_cons_iff.mp hwords
    exact (add_of_revalues hf h hkey).bind fun b₁ b₁' _ h₁ => ih h₁ hrest

end Block

/-! ### Executions -/

variable {config : Config} {operator : Operator} {s : State} {line line' : Line}

/-- The execution of the same codes with changed values in another state. -/
def Execution.revalue (ex : Execution) (f : Char → Float → Float) (state : State) : Execution :=
  { ex with
    state
    word? := fun letter => (ex.word? letter).map (f letter) }

/-- A line with changed values is executed with changed values, or is refused for a cause of the
same kind. -/
theorem executionOf_of_revalues (hf : KeepsCodes f) {s' : State}
    (hnumber : s'.lineNumber = s.lineNumber) (hmessage : line'.message? = line.message?)
    (hwords : Revalues f line.words line'.words) :
    Corresponds Failure.SameKind
      (fun ex ex' => ∃ stripped, ex' = (ex.revalue f s').relocate line'.source stripped)
      (executionOf config operator s line) (executionOf config operator s' line') := by
  have hctx : blockContext config operator s' line' =
      (blockContext config operator s line).relocate line'.source := by
    rw [blockContext, blockContext, hnumber]
    rfl
  unfold executionOf Block.ofWords
  rw [hctx]
  have hblocks : Corresponds Failure.SameKind
      (fun x y : Block × Option AxisOwner => x.1.Revalues f y.1 ∧ y.2 = x.2)
      (Block.ofWords (blockContext config operator s line) line.words)
      (Block.ofWords ((blockContext config operator s line).relocate line'.source)
        line'.words) := by
    refine (Block.addAll_of_revalues hf ⟨rfl, rfl⟩ hwords).bind fun b b' _ h => ?_
    have howner : SameOutcome (b.owner (blockContext config operator s line))
        (b'.owner ((blockContext config operator s line).relocate line'.source)) :=
      Block.owner_congr (by rw [Block.positioning?, Block.positioning?, h.codes]) h.claim?_eq
        (by rw [Block.motion?, Block.motion?, h.codes]) h.given_eq
    exact howner.bind fun _ => .ok ⟨h, rfl⟩
  refine hblocks.bind ?_
  rintro ⟨b, owner⟩ ⟨b', _⟩ - ⟨h, rfl⟩
  refine .ok ⟨b'.stripped, ?_⟩
  have hvalues : b'.value? = fun letter => (b.value? letter).map (f letter) := funext h.value?_eq
  rw [h.code?_eq, hvalues, hmessage]
  rfl

end NumericControl
