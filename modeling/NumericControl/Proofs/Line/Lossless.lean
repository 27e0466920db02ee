import NumericControl.Proofs.Line.Removal
import NumericControl.Proofs.Number.Numeral

/-!
# What a block consists of

A block up to its remark is a sequence of blanks, comments and words, and nothing else is read: the
spans of its words tile it together with its comments and the blanks between them.

## Main definitions

* `codePart` : a block in front of its remark.
* `IsCode` : the sequences of blanks, comments and words.
* `InComment` : the places of a text that lie in its comments.
* `Tiles` : words that take up a part of a text together with comments and blanks.

## Main results

* `exists_spells_iff` : a block is read exactly if it consists of blanks, comments and words.
* `Spells.tiles` : every character of a block is in a word or a comment or blank.
* `Line.read_lossless` : both, for the lines that are blocks.
-/

namespace NumericControl

/-- Whether a text is inside a comment after a character, if it is or is not so before. -/
def encloses (inside : Bool) (c : Char) : Bool :=
  if inside then c != ')' else c == '('

/-- A text up to its first semicolon outside of comments. -/
def codePart (inside : Bool) : List Char → List Char
  | [] => []
  | c :: cs => if !inside && c == ';' then [] else c :: codePart (encloses inside c) cs

/-- A sequence of blanks, comments and words.  A comment ends at the first closing parenthesis or
with the text; a word is a letter with a plain decimal, and may have blanks anywhere inside. -/
inductive IsCode : List Char → Prop
  | nil : IsCode []
  | blank {c : Char} {cs : List Char} (hc : Text.isBlank c = true) (rest : IsCode cs) :
      IsCode (c :: cs)
  | comment {text cs : List Char} (htext : ')' ∉ text) (rest : IsCode cs) :
      IsCode ('(' :: (text ++ ')' :: cs))
  | openComment {text : List Char} (htext : ')' ∉ text) : IsCode ('(' :: text)
  | word {c : Char} {body cs : List Char} (hc : c.isAlpha = true)
      (hbody : Number.IsNumeral (digitsOf body)) (rest : IsCode cs) : IsCode (c :: (body ++ cs))

/-- A place that is inside a comment, its parentheses included. -/
def InComment (source : List Char) (i : Nat) : Prop :=
  (source.take i).foldl encloses false = true ∨ source[i]? = some '('

/-- What a place of a text belongs to: exactly one of a word, a comment and the blanks outside of
both. -/
inductive Belongs (words : List Word) (source : List Char) (i : Nat) : Prop
  | word (covered : words.any (·.covers i) = true) (outside : ¬ InComment source i)
  | comment (inside : InComment source i) (uncovered : words.any (·.covers i) = false)
  | blank {c : Char} (char : source[i]? = some c) (hc : Text.isBlank c = true)
      (outside : ¬ InComment source i) (uncovered : words.any (·.covers i) = false)

/-- Words that take up a part of a text together with comments and blanks. -/
structure Tiles (source : List Char) (pos stop : Nat) (words : List Word) : Prop where
  /-- The spans of the words are not empty and within the part. -/
  bounds : ∀ w ∈ words, pos ≤ w.start ∧ w.start < w.stop ∧ w.stop ≤ stop
  /-- The spans are increasing and disjoint. -/
  ordered : words.Pairwise fun v w => v.stop ≤ w.start
  /-- A word is what stands in its span: a letter as a capital, and the text behind it without its
  blanks. -/
  spelled : ∀ w ∈ words, ∃ c body, (source.drop w.start).take (w.stop - w.start) = c :: body ∧
    c.isAlpha = true ∧ w.text = String.ofList (c.toUpper :: digitsOf body)
  /-- No place is left out, and none belongs to a word and to a comment. -/
  placed : ∀ i, pos ≤ i → i < stop → Belongs words source i

variable {c : Char} {cs us vs body text source pre : List Char} {pos mid stop i : Nat}
  {inside : Bool} {items : List Item} {words front : List Word} {w : Word}

/-! ### Text without marks -/

/-- Neither a semicolon nor an opening parenthesis. -/
def Unmarked (us : List Char) : Prop :=
  ∀ c ∈ us, c ≠ ';' ∧ c ≠ '('

/-- A character whose number tells it from both marks. -/
private theorem ne_marks_of_toNat (h : c.toNat ≠ 59 ∧ c.toNat ≠ 40) : c ≠ ';' ∧ c ≠ '(' := by
  constructor
  · rintro rfl
    exact h.1 rfl
  · rintro rfl
    exact h.2 rfl

theorem ne_marks_of_isBlank (h : Text.isBlank c = true) : c ≠ ';' ∧ c ≠ '(' := by
  have hnat := toNat_of_isBlank h
  exact ne_marks_of_toNat ⟨by omega, by omega⟩

/-- A word holds no mark. -/
theorem unmarked_word (hc : c.isAlpha = true)
    (hbody : ∀ d ∈ body, Text.isBlank d = true ∨ isValueChar d = true) : Unmarked (c :: body) := by
  intro d hd
  rcases List.mem_cons.mp hd with rfl | hd
  · have hnat := toNat_of_isAlpha hc
    exact ne_marks_of_toNat ⟨by omega, by omega⟩
  · rcases hbody d hd with hblank | hvalue
    · exact ne_marks_of_isBlank hblank
    · have hnat := toNat_of_isValueChar hvalue
      refine ⟨?_, ?_⟩ <;>
      · rintro rfl
        revert hvalue
        decide

theorem IsBody.forall_mem (h : IsBody body) :
    ∀ d ∈ body, Text.isBlank d = true ∨ isValueChar d = true := by
  induction h with
  | nil => nofun
  | value hc _ ih => exact List.forall_mem_cons.mpr ⟨.inr hc, ih⟩
  | blank hc _ _ ih => exact List.forall_mem_cons.mpr ⟨.inl hc, ih⟩

theorem forall_mem_of_isNumeral (h : Number.IsNumeral (digitsOf body)) :
    ∀ d ∈ body, Text.isBlank d = true ∨ isValueChar d = true := by
  intro d hd
  cases hblank : Text.isBlank d with
  | true => exact .inl rfl
  | false =>
    have hmem : d ∈ digitsOf body := List.mem_filter.mpr ⟨hd, by rw [hblank]; rfl⟩
    refine .inr ?_
    rcases h.forall_mem d hmem with hdigit | rfl | rfl | rfl
    · simp [isValueChar, hdigit]
    · decide
    · decide
    · decide

/-- A text of value characters and blanks is a value with blanks behind it. -/
theorem exists_isBody_append (h : ∀ d ∈ body, Text.isBlank d = true ∨ isValueChar d = true) :
    ∃ value gap, body = value ++ gap ∧ IsBody value ∧ (∀ d ∈ gap, Text.isBlank d = true) ∧
      digitsOf value = digitsOf body := by
  induction body with
  | nil => exact ⟨[], [], rfl, .nil, nofun, rfl⟩
  | cons c body ih =>
    obtain ⟨hc, hrest⟩ := List.forall_mem_cons.mp h
    obtain ⟨value, gap, hbody, hvalue, hgap, hdigits⟩ := ih hrest
    cases hblank : Text.isBlank c with
    | false =>
      rw [hblank] at hc
      refine ⟨c :: value, gap, by rw [hbody]; rfl, .value (hc.resolve_left nofun) hvalue, hgap, ?_⟩
      simp only [digitsOf, List.filter_cons, hblank, Bool.not_false, if_true]
      exact congrArg (c :: ·) hdigits
    | true =>
      have hskip : digitsOf (c :: body) = digitsOf body := by
        simp [digitsOf, hblank]
      by_cases hempty : value = []
      · subst hempty
        exact ⟨[], c :: gap, by rw [hbody]; rfl, .nil, List.forall_mem_cons.mpr ⟨hblank, hgap⟩,
          by rw [hskip, hdigits]⟩
      · refine ⟨c :: value, gap, by rw [hbody]; rfl, .blank hblank hempty hvalue, hgap, ?_⟩
        rw [hskip, ← hdigits]
        simp [digitsOf, hblank]

/-! ### The part in front of the remark -/

theorem foldl_encloses_of_unmarked (h : Unmarked us) : us.foldl encloses false = false := by
  induction us with
  | nil => rfl
  | cons c us ih =>
    obtain ⟨hc, hus⟩ := List.forall_mem_cons.mp h
    rw [List.foldl_cons, encloses, if_neg Bool.false_ne_true, beq_false_of_ne hc.2]
    exact ih hus

theorem foldl_encloses_of_comment (h : ')' ∉ text) : text.foldl encloses true = true := by
  induction text with
  | nil => rfl
  | cons c text ih =>
    rw [List.mem_cons, not_or] at h
    rw [List.foldl_cons, encloses, if_pos rfl, bne_iff_ne.mpr (Ne.symm h.1)]
    exact ih h.2

theorem codePart_of_unmarked (h : Unmarked us) :
    codePart false (us ++ cs) = us ++ codePart false cs := by
  induction us with
  | nil => rfl
  | cons c us ih =>
    obtain ⟨hc, hus⟩ := List.forall_mem_cons.mp h
    have hremark : (c == ';') = false := beq_false_of_ne hc.1
    have hparen : encloses false c = false := beq_false_of_ne hc.2
    rw [List.cons_append, codePart, hremark, hparen, ih hus]
    rfl

theorem codePart_of_comment (h : ')' ∉ text) :
    codePart true (text ++ cs) = text ++ codePart true cs := by
  induction text with
  | nil => rfl
  | cons c text ih =>
    rw [List.mem_cons, not_or] at h
    have hinside : encloses true c = true := bne_iff_ne.mpr (Ne.symm h.1)
    rw [List.cons_append, codePart, hinside, ih h.2]
    rfl

theorem codePart_blank (hc : Text.isBlank c = true) :
    codePart false (c :: cs) = c :: codePart false cs :=
  codePart_of_unmarked (List.forall_mem_singleton.mpr (ne_marks_of_isBlank hc))

theorem codePart_closedComment (htext : ')' ∉ text) :
    codePart false ('(' :: (text ++ ')' :: cs)) = '(' :: (text ++ ')' :: codePart false cs) := by
  rw [codePart, if_neg (by decide)]
  exact congrArg ('(' :: ·) (codePart_of_comment htext)

theorem codePart_openComment (htext : ')' ∉ text) : codePart false ('(' :: text) = '(' :: text := by
  have hcode : codePart true (text ++ []) = text ++ [] := codePart_of_comment htext
  rw [List.append_nil] at hcode
  rw [codePart, if_neg (by decide)]
  exact congrArg ('(' :: ·) hcode

theorem codePart_word (hc : c.isAlpha = true)
    (hbody : ∀ d ∈ body, Text.isBlank d = true ∨ isValueChar d = true) :
    codePart false (c :: (body ++ cs)) = c :: (body ++ codePart false cs) :=
  codePart_of_unmarked (unmarked_word hc hbody)

theorem foldl_encloses_closedComment (htext : ')' ∉ text) :
    ('(' :: (text ++ [')'])).foldl encloses false = false := by
  rw [List.foldl_cons, List.foldl_append]
  exact congrArg (encloses · ')') (foldl_encloses_of_comment htext)

/-- What starts the part in front of the remark starts the text. -/
theorem exists_append_of_codePart (us vs : List Char) (h : codePart inside cs = us ++ vs) :
    ∃ rest, cs = us ++ rest ∧ codePart (us.foldl encloses inside) rest = vs := by
  induction us generalizing inside cs with
  | nil => exact ⟨cs, rfl, h⟩
  | cons c us ih =>
    cases cs with
    | nil => cases h
    | cons d cs =>
      rw [codePart] at h
      split at h
      · cases h
      · obtain ⟨rfl, htail⟩ := List.cons.inj h
        obtain ⟨rest, rfl, hrest⟩ := ih htail
        exact ⟨rest, rfl, hrest⟩

/-- A comment has no remark behind its text. -/
theorem eq_nil_of_codePart_true (h : codePart true cs = []) : cs = [] := by
  cases cs with
  | nil => rfl
  | cons c cs => cases h

/-! ### A block is read exactly if it is a sequence of blanks, comments and words -/

/-- A block that spells something is such a sequence. -/
theorem Spells.isCode (h : Spells pos cs items) : IsCode (codePart false cs) := by
  induction h with
  | done pos => exact .nil
  | remark pos cs => exact .nil
  | blank hc _ ih =>
    rw [codePart_blank hc]
    exact .blank hc ih
  | comment htext _ _ ih =>
    rw [codePart_closedComment htext]
    exact .comment htext ih
  | openComment pos htext =>
    rw [codePart_openComment htext]
    exact .openComment htext
  | word hc hbody hvalue _ _ ih =>
    rw [codePart_word hc hbody.forall_mem]
    refine .word hc (Number.plain?_isSome_iff.mp ?_) ih
    rw [hvalue]
    rfl

theorem Spells.append_blanks (hus : ∀ c ∈ us, Text.isBlank c = true)
    (h : Spells (pos + us.length) cs items) : Spells pos (us ++ cs) items := by
  induction us generalizing pos with
  | nil => exact h
  | cons c us ih =>
    obtain ⟨hc, hus⟩ := List.forall_mem_cons.mp hus
    refine .blank hc (ih hus ?_)
    rwa [List.length_cons, Nat.add_comm us.length, ← Nat.add_assoc] at h

/-- A block that is such a sequence in front of its remark spells something. -/
theorem exists_spells_of_isCode (h : IsCode us) (hcode : codePart false cs = us) (pos : Nat) :
    ∃ items, Spells pos cs items := by
  induction h generalizing cs pos with
  | nil =>
    cases cs with
    | nil => exact ⟨[], .done pos⟩
    | cons c cs =>
      rw [codePart] at hcode
      split at hcode
      · rename_i hremark
        obtain rfl : c = ';' := by simpa using hremark
        exact ⟨[], .remark pos cs⟩
      · cases hcode
  | @blank c us hc _ ih =>
    obtain ⟨rest, rfl, hrest⟩ := exists_append_of_codePart [c] us hcode
    have hunmarked : Unmarked [c] := List.forall_mem_singleton.mpr (ne_marks_of_isBlank hc)
    rw [foldl_encloses_of_unmarked hunmarked] at hrest
    obtain ⟨items, hitems⟩ := ih hrest (pos + 1)
    exact ⟨items, .blank hc hitems⟩
  | @comment text us htext _ ih =>
    have hsplit : codePart false cs = ('(' :: (text ++ [')'])) ++ us := by
      rw [hcode]
      simp
    obtain ⟨rest, rfl, hrest⟩ := exists_append_of_codePart _ us hsplit
    rw [foldl_encloses_closedComment htext] at hrest
    obtain ⟨items, hitems⟩ := ih hrest (pos + text.length + 2)
    have hspells := Spells.comment htext rfl hitems
    refine ⟨.comment text :: items, ?_⟩
    simpa using hspells
  | @openComment text htext =>
    obtain ⟨rest, rfl, hrest⟩ :=
      exists_append_of_codePart ('(' :: text) [] (by rw [hcode, List.append_nil])
    have hopen : ('(' :: text).foldl encloses false = true := foldl_encloses_of_comment htext
    rw [hopen] at hrest
    rw [eq_nil_of_codePart_true hrest, List.append_nil]
    exact ⟨_, .openComment pos htext⟩
  | @word c body us hc hbody _ ih =>
    obtain ⟨rest, rfl, hrest⟩ := exists_append_of_codePart (c :: body) us hcode
    have hchars := forall_mem_of_isNumeral hbody
    rw [foldl_encloses_of_unmarked (unmarked_word hc hchars)] at hrest
    -- blanks behind the value belong to what follows the word
    obtain ⟨value, gap, rfl, hvalue, hgap, hdigits⟩ := exists_isBody_append hchars
    obtain ⟨p, hp⟩ := Option.isSome_iff_exists.mp (Number.plain?_isSome_iff.mpr hbody)
    rw [← hdigits] at hp
    obtain ⟨items, hitems⟩ := ih hrest (pos + value.length + 1 + gap.length)
    refine ⟨.word ⟨c.toUpper, digitsOf value, p.value, pos, pos + value.length + 1⟩ :: items, ?_⟩
    rw [List.cons_append, List.append_assoc]
    exact .word hc hvalue hp rfl (hitems.append_blanks hgap)

/-- A block spells something exactly if it consists of blanks, comments and words up to its
remark. -/
theorem exists_spells_iff : (∃ items, Spells pos cs items) ↔ IsCode (codePart false cs) :=
  ⟨fun ⟨_, h⟩ => h.isCode, fun h => exists_spells_of_isCode h rfl pos⟩

/-! ### Places -/

/-- A place behind a text that ends outside of comments is in a comment exactly if it is so without
that text. -/
theorem inComment_append (hpre : pre.foldl encloses false = false) :
    InComment (pre ++ cs) (pre.length + i) ↔ InComment cs i := by
  unfold InComment
  rw [List.take_length_add_append, List.foldl_append, hpre,
    List.getElem?_append_right (Nat.le_add_right _ _), Nat.add_sub_cancel_left]

theorem not_inComment_of_unmarked (h : Unmarked us) (hi : i < us.length) :
    ¬ InComment (us ++ cs) i := by
  have htake : Unmarked (us.take i) := fun c hc => h c (List.mem_of_mem_take hc)
  rw [InComment, List.take_append_of_le_length (Nat.le_of_lt hi),
    foldl_encloses_of_unmarked htake, List.getElem?_append_left hi, List.getElem?_eq_getElem hi]
  rintro (hopen | hparen)
  · cases hopen
  · exact (h _ (List.getElem_mem hi)).2 (Option.some.inj hparen)

/-- The parentheses of a comment are in it, and so is all text between them. -/
theorem inComment_of_comment (h : ')' ∉ text) (hi : i < text.length + 2) :
    InComment ('(' :: (text ++ cs)) i := by
  cases i with
  | zero => exact .inr rfl
  | succ i =>
    have htake : ')' ∉ text.take i := fun hmem => h (List.mem_of_mem_take hmem)
    refine .inl ?_
    rw [List.take_succ_cons, List.take_append_of_le_length (by omega), List.foldl_cons]
    exact foldl_encloses_of_comment htake

/-! ### Tiles -/

/-- What a place belongs to depends only on whether a word covers it. -/
theorem Belongs.of_covers_eq (h : Belongs words source i)
    (hcovers : front.any (·.covers i) = words.any (·.covers i)) : Belongs front source i := by
  cases h with
  | word covered outside => exact .word (hcovers.trans covered) outside
  | comment inside uncovered => exact .comment inside (hcovers.trans uncovered)
  | blank char hc outside uncovered => exact .blank char hc outside (hcovers.trans uncovered)

/-- Words that start behind a place or end in front of it do not cover it. -/
theorem any_covers_eq_false (h : ∀ w ∈ words, i < w.start ∨ w.stop ≤ i) :
    words.any (·.covers i) = false := by
  rw [List.any_eq_false]
  intro w hw
  have hcase := h w hw
  simp only [Word.covers, Bool.and_eq_true, decide_eq_true_eq]
  omega

namespace Tiles

/-- A part behind another one. -/
theorem append (h : Tiles source pos mid front) (h' : Tiles source mid stop words)
    (hpos : pos ≤ mid) (hstop : mid ≤ stop) : Tiles source pos stop (front ++ words) where
  bounds w hw := by
    rcases List.mem_append.mp hw with hw | hw
    · have hbounds := h.bounds w hw
      omega
    · have hbounds := h'.bounds w hw
      omega
  ordered := by
    refine List.pairwise_append.mpr ⟨h.ordered, h'.ordered, fun v hv w hw => ?_⟩
    have hbounds := h.bounds v hv
    have hbounds' := h'.bounds w hw
    omega
  spelled w hw := by
    rcases List.mem_append.mp hw with hw | hw
    · exact h.spelled w hw
    · exact h'.spelled w hw
  placed i hlow hhigh := by
    by_cases hi : i < mid
    · have hnone : words.any (·.covers i) = false := by
        refine any_covers_eq_false fun w hw => ?_
        have hbounds := h'.bounds w hw
        omega
      refine (h.placed i hlow hi).of_covers_eq ?_
      rw [List.any_append, hnone, Bool.or_false]
    · have hnone : front.any (·.covers i) = false := by
        refine any_covers_eq_false fun w hw => ?_
        have hbounds := h.bounds w hw
        omega
      refine (h'.placed i (by omega) hhigh).of_covers_eq ?_
      rw [List.any_append, hnone, Bool.false_or]

/-- A blank outside of comments. -/
theorem blank (hpos : pos = pre.length) (hpre : pre.foldl encloses false = false)
    (hc : Text.isBlank c = true) : Tiles (pre ++ c :: cs) pos (pos + 1) [] where
  bounds := nofun
  ordered := .nil
  spelled := nofun
  placed i hlow hhigh := by
    obtain rfl : i = pre.length + 0 := by omega
    have hunmarked : Unmarked [c] := List.forall_mem_singleton.mpr (ne_marks_of_isBlank hc)
    refine .blank (c := c) (by simp) hc ?_ rfl
    rw [inComment_append hpre]
    exact not_inComment_of_unmarked hunmarked Nat.one_pos

/-- A part of a comment from its start on. -/
theorem comment (hpos : pos = pre.length) (hpre : pre.foldl encloses false = false)
    (htext : ')' ∉ text) (hstop : stop ≤ pos + text.length + 2) :
    Tiles (pre ++ '(' :: (text ++ cs)) pos stop [] where
  bounds := nofun
  ordered := .nil
  spelled := nofun
  placed i hlow hhigh := by
    obtain ⟨j, rfl⟩ := Nat.exists_eq_add_of_le hlow
    subst hpos
    refine .comment ?_ rfl
    rw [inComment_append hpre]
    exact inComment_of_comment htext (by omega)

/-- A word outside of comments. -/
theorem word (hpos : pos = pre.length) (hpre : pre.foldl encloses false = false)
    (hc : c.isAlpha = true) (hbody : ∀ d ∈ body, Text.isBlank d = true ∨ isValueChar d = true)
    (value : Float) (hstop : stop = pos + body.length + 1) :
    Tiles (pre ++ c :: (body ++ cs)) pos stop [⟨c.toUpper, digitsOf body, value, pos, stop⟩] where
  bounds w hw := by
    rw [List.mem_singleton.mp hw]
    dsimp only
    omega
  ordered := List.pairwise_singleton _ _
  spelled w hw := by
    rw [List.mem_singleton.mp hw]
    refine ⟨c, body, ?_, hc, rfl⟩
    have hlength : stop - pos = (c :: body).length := by
      rw [List.length_cons]
      omega
    rw [hlength, hpos, List.drop_left, ← List.cons_append, List.take_left]
  placed i hlow hhigh := by
    obtain ⟨j, rfl⟩ := Nat.exists_eq_add_of_le hlow
    subst hpos
    refine .word ?_ ?_
    · simp [Word.covers, hhigh]
    · rw [inComment_append hpre, ← List.cons_append]
      refine not_inComment_of_unmarked (unmarked_word hc hbody) ?_
      rw [List.length_cons]
      omega

/-- A part of a block that ends outside of comments, with what the rest of the block consists of. -/
theorem append_rest (h : Tiles (pre ++ (us ++ cs)) pos mid front) (hpos : pos = pre.length)
    (hpre : pre.foldl encloses false = false) (hus : us.foldl encloses false = false)
    (hmid : mid = pos + us.length) (hcode : codePart false (us ++ cs) = us ++ codePart false cs)
    (hrest : ∀ {pre : List Char}, mid = pre.length → pre.foldl encloses false = false →
      Tiles (pre ++ cs) mid (mid + (codePart false cs).length) words) :
    Tiles (pre ++ (us ++ cs)) pos (pos + (codePart false (us ++ cs)).length) (front ++ words) := by
  have hlength : mid = (pre ++ us).length := by rw [hmid, hpos, List.length_append]
  have hclosed : (pre ++ us).foldl encloses false = false := by
    rw [List.foldl_append, hpre, hus]
  have hstop : mid + (codePart false cs).length = pos + (codePart false (us ++ cs)).length := by
    rw [hcode, List.length_append, hmid, Nat.add_assoc]
  have htail := hrest hlength hclosed
  rw [List.append_assoc, hstop] at htail
  exact h.append htail (by omega) (by omega)

end Tiles

/-- The words that a block spells behind a text that ends outside of comments tile it up to its
remark. -/
theorem Spells.tiles (h : Spells pos cs items) (hpos : pos = pre.length)
    (hpre : pre.foldl encloses false = false) :
    Tiles (pre ++ cs) pos (pos + (codePart false cs).length) (wordsOf items) := by
  induction h generalizing pre with
  | done pos | remark pos cs => exact ⟨nofun, .nil, nofun, fun i hlow hhigh => absurd hhigh (by
      simp only [codePart, Bool.not_false, beq_self_eq_true, Bool.and_self, if_true,
        List.length_nil]
      omega)⟩
  | @blank pos c cs items hc _ ih =>
    have hclosed : [c].foldl encloses false = false :=
      foldl_encloses_of_unmarked (List.forall_mem_singleton.mpr (ne_marks_of_isBlank hc))
    exact (Tiles.blank hpos hpre hc).append_rest hpos hpre hclosed rfl (codePart_blank hc) ih
  | @comment pos stop text cs items htext hstop _ ih =>
    have hsource : '(' :: (text ++ ')' :: cs) = ('(' :: (text ++ [')'])) ++ cs := by simp
    have hcode := @codePart_closedComment cs text htext
    have hfront := @Tiles.comment (')' :: cs) text pre pos stop hpos hpre htext (by omega)
    have hlength : stop = pos + ('(' :: (text ++ [')'])).length := by
      simp
      omega
    rw [hsource] at hcode hfront ⊢
    exact hfront.append_rest hpos hpre (foldl_encloses_closedComment htext) hlength
      (hcode.trans (by simp)) ih
  | @openComment pos text htext =>
    have htiles := @Tiles.comment [] text pre pos (pos + ('(' :: text).length) hpos hpre htext
      (by rw [List.length_cons]; omega)
    rw [List.append_nil] at htiles
    rwa [codePart_openComment htext]
  | @word pos stop c body cs items p hc hbody hvalue hstop _ ih =>
    have hclosed := foldl_encloses_of_unmarked (unmarked_word hc hbody.forall_mem)
    have hfront := @Tiles.word c cs body pre pos stop hpos hpre hc hbody.forall_mem p.value hstop
    exact hfront.append_rest hpos hpre hclosed hstop (codePart_word hc hbody.forall_mem) ih

/-! ### Lines -/

/-- The first characters of lines that are no blocks. -/
def lineMarks : List Char := [';', '%', '$', '!', '~', '?']

/-- A line that starts with none of the marks is a block. -/
theorem Line.ofSource_eq (hhead : ∃ c rest, source.dropWhile Text.isBlank = c :: rest ∧
    c ∉ lineMarks) :
    ofSource source = (scan 0 .between source).map fun items => ⟨source, .block items⟩ := by
  obtain ⟨c, rest, hdrop, hc⟩ := hhead
  have hne : ∀ mark ∈ lineMarks, (c == mark) = false := by
    intro mark hmark
    rw [beq_eq_false_iff_ne]
    rintro rfl
    exact hc hmark
  have hpass : passThroughMarks.contains c = false := by
    rw [← Bool.not_eq_true, List.contains_iff_mem]
    intro hmem
    exact hc ((by decide : passThroughMarks ⊆ lineMarks) hmem)
  rw [ofSource, hdrop]
  dsimp only
  rw [hne ';' (by decide), hpass, hne '%' (by decide)]
  rfl

/-- Reading a line that is neither blank nor starts with a mark loses nothing and accepts exactly
its grammar.  The line is read exactly if it is a sequence of blanks, comments and words up to its
remark.  Then every character up to there is in exactly one of a word, a comment and the blanks
outside of both, and each word is what stands in its span. -/
theorem Line.read_lossless (text : String)
    (hhead : ∃ c rest, (sourceOf text).dropWhile Text.isBlank = c :: rest ∧ c ∉ lineMarks) :
    ((∃ line, read text = .ok line) ↔ IsCode (codePart false (sourceOf text))) ∧
      ∀ line, read text = .ok line → line.source = sourceOf text ∧
        Tiles (sourceOf text) 0 (codePart false (sourceOf text)).length line.words := by
  have hread (line : Line) : read text = .ok line ↔
      ∃ items, Spells 0 (sourceOf text) items ∧ line = ⟨sourceOf text, .block items⟩ := by
    rw [read_eq_ok_iff, ofSource_eq hhead, map_eq_ok_iff]
    exact exists_congr fun items => and_congr scan_eq_ok_iff eq_comm
  constructor
  · rw [← @exists_spells_iff _ 0]
    constructor
    · rintro ⟨line, hline⟩
      obtain ⟨items, hitems, -⟩ := (hread line).mp hline
      exact ⟨items, hitems⟩
    · rintro ⟨items, hitems⟩
      exact ⟨_, (hread _).mpr ⟨items, hitems, rfl⟩⟩
  · intro line hline
    obtain ⟨items, hitems, rfl⟩ := (hread line).mp hline
    have htiles := @Spells.tiles _ [] _ _ hitems rfl rfl
    rw [Nat.zero_add] at htiles
    exact ⟨rfl, htiles⟩

/-- A line with blanks in a word, a semicolon in a comment and a remark. -/
def remarkedMove : String :=
  "g1 X -2 .5(a;b)Y3 ;c"

theorem read_lossless_remarkedMove :
    (∃ c rest, (Line.sourceOf remarkedMove).dropWhile Text.isBlank = c :: rest ∧ c ∉ lineMarks) ∧
      codePart false (Line.sourceOf remarkedMove) = "g1 X -2 .5(a;b)Y3 ".toList ∧
      IsCode (codePart false (Line.sourceOf remarkedMove)) ∧
      ∃ line, Line.read remarkedMove = .ok line ∧
        Tiles (Line.sourceOf remarkedMove) 0 18 line.words ∧
        line.words.map Word.text = ["G1", "X-2.5", "Y3"] := by
  have hhead : ∃ c rest, (Line.sourceOf remarkedMove).dropWhile Text.isBlank = c :: rest ∧
      c ∉ lineMarks := by
    refine ⟨'g', "1 X -2 .5(a;b)Y3 ;c".toList, ?_, ?_⟩ <;> decide +kernel
  have hcode : codePart false (Line.sourceOf remarkedMove) = "g1 X -2 .5(a;b)Y3 ".toList := by
    decide +kernel
  have hwords : (Line.read remarkedMove).toOption.map (·.words.map Word.text) =
      some ["G1", "X-2.5", "Y3"] := by decide +kernel
  obtain ⟨line, hline, htexts⟩ := map_toOption_eq_some_iff.mp hwords
  obtain ⟨hiff, htiles⟩ := Line.read_lossless remarkedMove hhead
  have htiled := (htiles line hline).2
  rw [hcode] at htiled
  exact ⟨hhead, hcode, hiff.mp ⟨line, hline⟩, line, hline, htiled, htexts⟩

end NumericControl
