import Mathlib.Data.String.Basic

/-!
# Texts split at a mark

A text is split at each place of a character, which is told by its list of characters: there is
always a part, no part holds the character, and parts without it that are joined by it are taken
apart again.

## Main results

* `Text.splitOn_eq` : the parts of a text, by its characters.
* `Text.splitOn_ne_nil`, `Text.not_mem_of_mem_splitOn` : what the parts are like.
* `Text.splitOn_intercalate` : parts that are joined are split again.
* `Text.splitOn_of_not_mem` : a text without the mark.
-/

namespace NumericControl.Text

open String

/-- The parts of a text from a place on, after a part that is under way and some that are done. -/
theorem splitOnAux_eq (mark : Char) (before part rest : List Char) (done : List String) :
    splitOnAux (ofList (before ++ part ++ rest)) (ofList [mark]) ⟨utf8Len before⟩
        ⟨utf8Len before + utf8Len part⟩ 0 done =
      done.reverse ++ (rest.splitOnPPrepend (· == mark) part.reverse).map ofList := by
  have hend : Pos.Raw.atEnd (ofList (before ++ part ++ rest)) ⟨utf8Len before + utf8Len part⟩ ↔
      rest = [] := by
    rw [atEnd_iff, rawEndPos_ofList, utf8Len_append, utf8Len_append, Pos.Raw.mk_le_mk,
      ← utf8Len_eq_zero]
    omega
  have hpart := extract_of_valid before part rest
  have hget := get_of_valid (before ++ part) rest
  have hmark : Pos.Raw.get (ofList [mark]) 0 = mark := get_of_valid [] [mark]
  have hafter : Pos.Raw.next (ofList [mark]) 0 = ⟨mark.utf8Size⟩ := by
    simpa using next_of_valid [] mark []
  have hmarkEnd : Pos.Raw.atEnd (ofList [mark]) ⟨mark.utf8Size⟩ := by
    rw [atEnd_iff, rawEndPos_ofList]
    simp
  rw [utf8Len_append] at hget
  rw [splitOnAux]
  match rest with
  | [] =>
    rw [if_pos (hend.mpr rfl), hpart]
    simp
  | c :: rest =>
    have hnext := next_of_valid (before ++ part) c rest
    rw [utf8Len_append] at hnext
    rw [if_neg (mt hend.mp (List.cons_ne_nil _ _)), hget, hmark, List.headD_cons,
      List.splitOnPPrepend_cons_eq_if]
    by_cases hc : c = mark
    · subst hc
      have ih := splitOnAux_eq c (before ++ part ++ [c]) [] rest (ofList part :: done)
      rw [if_pos (beq_self_eq_true c), hnext, hafter, if_pos hmarkEnd,
        if_pos (beq_self_eq_true c)]
      simp only [Pos.Raw.unoffsetBy, Nat.add_sub_cancel, hpart]
      simpa [-ofList_append, Nat.add_assoc] using ih
    · have ih := splitOnAux_eq mark before (part ++ [c]) rest done
      have hsame : (⟨utf8Len before + utf8Len part⟩ : Pos.Raw).unoffsetBy 0 =
          ⟨utf8Len before + utf8Len part⟩ := rfl
      rw [if_neg (by simpa using hc), hsame, hnext, if_neg (by simpa using hc)]
      simpa [-ofList_append, Nat.add_assoc] using ih
termination_by rest.length

/-- The parts of a text are those of its characters. -/
theorem splitOn_eq (s : String) (mark : Char) :
    s.splitOn (singleton mark) = (s.toList.splitOn mark).map ofList := by
  have h := splitOnAux_eq mark [] [] s.toList []
  have hmark : (ofList [mark] == "") = false := by simp
  rw [splitOn, singleton_eq_ofList, hmark, if_neg Bool.false_ne_true]
  simpa [List.splitOn_eq_splitOnP] using h

variable {s : String} {mark : Char}

theorem splitOn_ne_nil (s : String) (mark : Char) : s.splitOn (singleton mark) ≠ [] := by
  rw [splitOn_eq]
  simp

/-- No part of a list that is split at a mark holds it. -/
theorem not_mem_of_mem_list_splitOn {cs part : List Char} (h : part ∈ cs.splitOn mark) :
    mark ∉ part := by
  induction cs generalizing part with
  | nil => simp_all
  | cons c cs ih =>
    rw [List.splitOn_cons_eq_if_modifyHead] at h
    split at h
    · rcases List.mem_cons.mp h with rfl | h
      · exact List.not_mem_nil
      · exact ih h
    · next hc =>
      obtain ⟨first, others, hparts⟩ := List.exists_cons_of_ne_nil (List.splitOn_ne_nil mark cs)
      rw [hparts] at ih h
      rcases List.mem_cons.mp h with rfl | h
      · have hne : mark ≠ c := by
          rintro rfl
          simp at hc
        simpa [hne] using ih List.mem_cons_self
      · exact ih (List.mem_cons_of_mem _ h)

theorem not_mem_of_mem_splitOn {part : String} (h : part ∈ s.splitOn (singleton mark)) :
    mark ∉ part.toList := by
  rw [splitOn_eq] at h
  obtain ⟨cs, hcs, rfl⟩ := List.mem_map.mp h
  rw [toList_ofList]
  exact not_mem_of_mem_list_splitOn hcs

/-- Parts without the mark that are joined by it are split again. -/
theorem splitOn_intercalate {parts : List String} (hparts : ∀ part ∈ parts, mark ∉ part.toList)
    (hne : parts ≠ []) : ((singleton mark).intercalate parts).splitOn (singleton mark) = parts := by
  have hlists : ∀ cs ∈ parts.map toList, mark ∉ cs := List.forall_mem_map.mpr hparts
  rw [splitOn_eq, toList_intercalate, toList_singleton,
    List.splitOn_intercalate mark hlists (by simpa using hne), List.map_map]
  simp

/-- A text without the mark is its only part. -/
theorem splitOn_of_not_mem (h : mark ∉ s.toList) : s.splitOn (singleton mark) = [s] := by
  have hparts := splitOn_intercalate (List.forall_mem_singleton.mpr h) (List.cons_ne_nil s [])
  rwa [intercalate_singleton] at hparts

end NumericControl.Text
