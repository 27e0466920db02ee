import Mathlib.Data.List.Forall2
import NumericControl.Digest.Lines
import NumericControl.Proofs.Text.Spacing

/-!
# The framing of programs

The digest of a program is taken of its lines one after another, each without the carriage returns
and line feeds at its end and with one line feed.  Where line feeds stand at the end of lines only,
each line feed of these bytes is the end of a line.  So the bytes tell how many lines there are and
what is in each of them: no two programs run together, whether lines are empty or one program is the
beginning of the other.

## Main definitions

* `Text.HasBody` : what is in a line, without carriage returns and line feeds behind it.
* `Text.BreaksAtEnd` : the texts that are one line.
* `Text.SameBody` : lines that differ at most in how they end.

## Main results

* `framedLines_eq` : the bytes of a program, by the characters of its lines.
* `linesHash?_eq_of_sameBody` : copies with other line ends have one digest.
* `framedLines_eq_iff` : programs with the same bytes.
-/

namespace NumericControl

namespace Text

/-- A text is a body with carriage returns and line feeds behind it, if any. -/
def HasBody (s : String) (body : List Char) : Prop :=
  ∃ ending, s.toList = body ++ ending ∧ ∀ c ∈ ending, c = '\r' ∨ c = '\n'

/-- A text in which line feeds stand only among the carriage returns and line feeds at the end. -/
def BreaksAtEnd (s : String) : Prop :=
  ∃ body, HasBody s body ∧ '\n' ∉ body

/-- Texts that differ at most in the carriage returns and line feeds at their ends. -/
def SameBody (s t : String) : Prop :=
  ∃ body, HasBody s body ∧ HasBody t body

variable {s t : String} {body : List Char}

theorem isLineEnd_iff {c : Char} : isLineEnd c = true ↔ c = '\r' ∨ c = '\n' := by
  simp [isLineEnd]

/-- What is left of a trimmed line is a body of it. -/
theorem hasBody_trimLineEnd (s : String) : HasBody s (trimLineEnd s).toList := by
  refine ⟨s.toList.rtakeWhile isLineEnd, ?_, fun c hc => ?_⟩
  · rw [trimLineEnd, String.toList_ofList, dropTailWhile_eq_rdropWhile,
      List.rdropWhile_append_rtakeWhile]
  · exact isLineEnd_iff.mp (List.mem_rtakeWhile_imp hc)

/-- A body is trimmed to what is left of the line. -/
theorem HasBody.toList_trimLineEnd (h : HasBody s body) :
    (trimLineEnd s).toList = dropTailWhile isLineEnd body := by
  obtain ⟨ending, hs, hending⟩ := h
  rw [trimLineEnd, String.toList_ofList, hs, dropTailWhile, List.reverse_append,
    List.dropWhile_append_of_pos fun c hc => isLineEnd_iff.mpr (hending c (List.mem_reverse.mp hc)),
    dropTailWhile]

theorem sameBody_iff : SameBody s t ↔ trimLineEnd s = trimLineEnd t := by
  constructor
  · rintro ⟨body, hs, ht⟩
    rw [← String.toList_inj, hs.toList_trimLineEnd, ht.toList_trimLineEnd]
  · intro h
    exact ⟨_, hasBody_trimLineEnd s, h ▸ hasBody_trimLineEnd t⟩

/-- A line without its end has no line feed. -/
theorem BreaksAtEnd.notMem_trimLineEnd (h : BreaksAtEnd s) : '\n' ∉ (trimLineEnd s).toList := by
  obtain ⟨body, hbody, hfeed⟩ := h
  rw [hbody.toList_trimLineEnd, dropTailWhile_eq_rdropWhile]
  exact fun hmem => hfeed ((List.rdropWhile_prefix _ _).subset hmem)

end Text

open Text

/-- Parts that are each followed by a mark are joined by it, with an empty part at the end. -/
theorem flatMap_append_mark {α : Type} (mark : α) (parts : List (List α)) :
    parts.flatMap (· ++ [mark]) = [mark].intercalate (parts ++ [[]]) := by
  induction parts with
  | nil => rfl
  | cons part parts ih =>
    rw [List.flatMap_cons, ih, List.cons_append, List.intercalate_cons_of_ne_nil (by simp)]

/-- Parts without a mark are told from what they make with the mark behind each of them. -/
theorem flatMap_append_mark_inj {α : Type} [BEq α] [LawfulBEq α] {mark : α}
    {parts others : List (List α)} (hparts : ∀ part ∈ parts, mark ∉ part)
    (hothers : ∀ part ∈ others, mark ∉ part) :
    parts.flatMap (· ++ [mark]) = others.flatMap (· ++ [mark]) ↔ parts = others := by
  refine ⟨fun h => ?_, fun h => h ▸ rfl⟩
  have hsplit {parts : List (List α)} (hparts : ∀ part ∈ parts, mark ∉ part) :
      (parts.flatMap (· ++ [mark])).splitOn mark = parts ++ [[]] := by
    rw [flatMap_append_mark]
    exact List.splitOn_intercalate mark (by simpa [or_imp, forall_and] using hparts) (by simp)
  have hsame := congrArg (List.splitOn mark) h
  rw [hsplit hparts, hsplit hothers] at hsame
  exact List.append_cancel_right hsame

variable {lines others : List String}

/-- What is left of the lines of a program without their ends. -/
def lineBodies (lines : List String) : List (List Char) :=
  lines.map fun line => (trimLineEnd line).toList

/-- The bytes of a program are what is left of its lines, each followed by one line feed. -/
theorem framedLines_eq (lines : List String) :
    framedLines lines = (String.ofList ((lineBodies lines).flatMap (· ++ ['\n']))).toByteArray := by
  have hbytes : framedLines lines =
      (lines.foldl (fun s line => s ++ framedLine line) "").toByteArray := by
    rw [framedLines, ← String.toByteArray_empty]
    refine List.foldl_hom String.toByteArray fun s line => ?_
    rw [String.toByteArray_append]
    rfl
  have hchars : (lines.foldl (fun s line => s ++ framedLine line) "").toList =
      (lineBodies lines).flatMap (· ++ ['\n']) := by
    rw [lineBodies, List.flatMap_map, List.flatMap_eq_foldl, ← String.toList_empty]
    refine (List.foldl_hom String.toList fun s line => ?_).symm
    rw [String.toList_append, framedLine, String.toList_append]
    rfl
  rw [hbytes, ← hchars, String.ofList_toList]

/-- Two programs have the same lines, but for how they end, if the same is left of them. -/
theorem lineBodies_eq_iff :
    lineBodies lines = lineBodies others ↔ List.Forall₂ SameBody lines others := by
  rw [lineBodies, lineBodies, ← List.forall₂_eq_eq_eq, List.forall₂_map_left_iff,
    List.forall₂_map_right_iff]
  simp only [String.toList_inj, ← sameBody_iff]

theorem notMem_of_mem_lineBodies (h : ∀ line ∈ lines, BreaksAtEnd line) :
    ∀ body ∈ lineBodies lines, '\n' ∉ body :=
  List.forall_mem_map.mpr fun line hline => (h line hline).notMem_trimLineEnd

/-- What keeps a program from being written in bytes does not depend on how its lines end. -/
theorem linesEncodingFault?_eq_of_sameBody (h : List.Forall₂ SameBody lines others) :
    linesEncodingFault? lines = linesEncodingFault? others := by
  unfold linesEncodingFault?
  induction h with
  | nil => rfl
  | cons hsame _ ih =>
    rw [List.findSome?_cons, List.findSome?_cons, ih, lineEncodingFault?, lineEncodingFault?,
      sameBody_iff.mp hsame]

/-- Programs whose lines are the same, but for how they end, have one digest. -/
theorem linesHash?_eq_of_sameBody (h : List.Forall₂ SameBody lines others) :
    linesHash? lines = linesHash? others := by
  have hempty : lines.isEmpty = others.isEmpty := by cases h <;> rfl
  rw [linesHash?, linesHash?, linesEncodingFault?_eq_of_sameBody h, framedLines_eq, framedLines_eq,
    lineBodies_eq_iff.mpr h, hempty]

/-- Only a program without lines has no digest; whether one with lines can be written in bytes is
another question. -/
theorem linesHash?_eq_none_iff : linesHash? lines = .ok none ↔ lines = [] := by
  unfold linesHash?
  cases hfault : linesEncodingFault? lines with
  | none => simp
  | some fault =>
    refine iff_of_false nofun ?_
    rintro rfl
    cases hfault

/-- **Programs are framed without ambiguity.** Where line feeds stand at the end of lines only, two
programs have the same bytes exactly if they have as many lines and each line is the same but for
the carriage returns and line feeds at its end.  Only a program without lines has no digest. -/
theorem framedLines_eq_iff (hlines : ∀ line ∈ lines, BreaksAtEnd line)
    (hothers : ∀ line ∈ others, BreaksAtEnd line) :
    (framedLines lines = framedLines others ↔ List.Forall₂ SameBody lines others) ∧
      (linesHash? lines = .ok none ↔ lines = []) := by
  refine ⟨?_, linesHash?_eq_none_iff⟩
  rw [framedLines_eq, framedLines_eq, String.toByteArray_inj, String.ofList_inj,
    flatMap_append_mark_inj (notMem_of_mem_lineBodies hlines) (notMem_of_mem_lineBodies hothers),
    lineBodies_eq_iff]

/-- An empty line counts, whatever it ends with: a carriage return, a line feed, both or nothing. -/
theorem framedLines_eq_emptyLine :
    (∀ line ∈ ["G0 X1\r\n", "\n", "M2"], BreaksAtEnd line) ∧
      (∀ line ∈ ["G0 X1", "", "M2\r"], BreaksAtEnd line) ∧
      framedLines ["G0 X1\r\n", "\n", "M2"] = framedLines ["G0 X1", "", "M2\r"] ∧
      linesHash? ["G0 X1\r\n", "\n", "M2"] ≠ .ok none := by
  have hfirst : HasBody "G0 X1\r\n" "G0 X1".toList := ⟨['\r', '\n'], by simp, by simp⟩
  have hempty : HasBody "\n" [] := ⟨['\n'], by simp, by simp⟩
  have hlast : HasBody "M2\r" "M2".toList := ⟨['\r'], by simp, by simp⟩
  have hself (s : String) : HasBody s s.toList := ⟨[], by simp, by simp⟩
  have hlines : ∀ line ∈ ["G0 X1\r\n", "\n", "M2"], BreaksAtEnd line := by
    simp only [List.forall_mem_cons]
    exact ⟨⟨_, hfirst, by decide⟩, ⟨_, hempty, by decide⟩, ⟨_, hself "M2", by decide⟩, by simp⟩
  have hothers : ∀ line ∈ ["G0 X1", "", "M2\r"], BreaksAtEnd line := by
    simp only [List.forall_mem_cons]
    exact ⟨⟨_, hself "G0 X1", by decide⟩, ⟨_, hself "", by decide⟩, ⟨_, hlast, by decide⟩, by simp⟩
  obtain ⟨hbytes, hnone⟩ := framedLines_eq_iff hlines hothers
  refine ⟨hlines, hothers, hbytes.mpr ?_, mt hnone.mp (List.cons_ne_nil _ _)⟩
  exact .cons ⟨_, hfirst, hself _⟩ (.cons ⟨_, hempty, hself ""⟩ (.cons ⟨_, hself _, hlast⟩ .nil))

end NumericControl
