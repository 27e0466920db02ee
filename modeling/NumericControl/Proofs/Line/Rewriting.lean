import NumericControl.Line.Removal
import NumericControl.Proofs.Block.WordOrder
import NumericControl.Proofs.Line.Grammar
import NumericControl.Proofs.Text.Spacing

/-!
# Blocks from which words are removed

A block from which some of its words are cut spells the other words and all comments.  A block that
is respaced spells the same words, and its message is respaced.  The words that stay move, so what
is compared is all of a word but its place.

## Main definitions

* `wordsOf`, `commentsOf` : the words and the comments of items.
* `Word.written` : letter, value and text of a word.

## Main results

* `Spells.cut_front` : a word is cut out or stays as a whole.
* `Spells.cut` : what a block spells when words are cut out.
* `Spells.squeeze` : what a block spells when it is respaced.
* `messageOf?_squeeze_append` : the message of a respaced comment.
* `Spells.exists_removed` : what a block spells when words are removed.
-/

namespace NumericControl

/-- The words of items, in order. -/
def wordsOf (items : List Item) : List Word :=
  items.filterMap Item.word?

/-- The comments of items, in order. -/
def commentsOf (items : List Item) : List (List Char) :=
  items.filterMap Item.comment?

/-- What is written of a word: its letter, its value and its text, but not where it stands. -/
def Word.written (w : Word) : Char × Float × String :=
  (w.letter, w.value, w.text)

/-- Words that are written alike have the same letters and values. -/
theorem map_key_of_map_written {words words' : List Word}
    (h : words'.map Word.written = words.map Word.written) :
    words'.map Word.key = words.map Word.key := by
  have hkeys (words : List Word) : words.map Word.key =
      (words.map Word.written).map fun written => (written.1, written.2.1) := by
    rw [List.map_map]
    rfl
  rw [hkeys, hkeys, h]

variable {c : Char} {cs us text : List Char} {pos : Nat} {items : List Item} {words : List Word}
  {p : Word → Bool}

@[simp]
theorem wordsOf_nil : wordsOf [] = [] :=
  rfl

@[simp]
theorem wordsOf_word (w : Word) (items : List Item) :
    wordsOf (.word w :: items) = w :: wordsOf items :=
  rfl

@[simp]
theorem wordsOf_comment (text : List Char) (items : List Item) :
    wordsOf (.comment text :: items) = wordsOf items :=
  rfl

@[simp]
theorem commentsOf_nil : commentsOf [] = [] :=
  rfl

@[simp]
theorem commentsOf_word (w : Word) (items : List Item) :
    commentsOf (.word w :: items) = commentsOf items :=
  rfl

@[simp]
theorem commentsOf_comment (text : List Char) (items : List Item) :
    commentsOf (.comment text :: items) = text :: commentsOf items :=
  rfl

/-! ### Words are cut out -/

/-- The words of a block stand behind one another, from its first character on. -/
theorem Spells.start_of_mem (h : Spells pos cs items) :
    ∀ w ∈ wordsOf items, pos ≤ w.start := by
  induction h with
  | done pos => nofun
  | remark pos cs => nofun
  | blank _ _ ih => exact fun w hw => Nat.le_of_succ_le (ih w hw)
  | comment _ hstop _ ih =>
    intro w hw
    have := ih w hw
    omega
  | openComment pos _ => nofun
  | word _ _ _ hstop _ ih =>
    intro w hw
    rcases List.mem_cons.mp hw with rfl | hw
    · exact Nat.le_refl _
    · have := ih w hw
      omega

/-- No place before a block belongs to one of its words. -/
theorem Spells.covers_eq_false {stop q : Nat} (h : Spells stop cs items) (hq : q < stop)
    (p : Word → Bool) : ((wordsOf items).filter p).any (·.covers q) = false := by
  rw [List.any_eq_false]
  intro w hw
  have hstart := h.start_of_mem w (List.mem_filter.mp hw).1
  simp only [Word.covers, Bool.and_eq_true, decide_eq_true_eq, not_and_or]
  omega

theorem cut_append (words : List Word) (pos : Nat) (us cs : List Char) :
    cut words pos (us ++ cs) = cut words pos us ++ cut words (pos + us.length) cs := by
  induction us generalizing pos with
  | nil => rfl
  | cons c us ih =>
    have hpos : pos + 1 + us.length = pos + (us.length + 1) := by omega
    by_cases hcovered : words.any (·.covers pos) <;> simp [cut, hcovered, ih, hpos]

theorem cut_of_not_covered
    (h : ∀ q, pos ≤ q → q < pos + us.length → words.any (·.covers q) = false) :
    cut words pos us = us := by
  induction us generalizing pos with
  | nil => rfl
  | cons c us ih =>
    rw [List.length_cons] at h
    rw [cut, h pos (by omega) (by omega), if_neg Bool.false_ne_true,
      ih fun q hlow hhigh => h q (by omega) (by omega)]

theorem cut_of_covered
    (h : ∀ q, pos ≤ q → q < pos + us.length → words.any (·.covers q) = true) :
    cut words pos us = [] := by
  induction us generalizing pos with
  | nil => rfl
  | cons c us ih =>
    rw [List.length_cons] at h
    rw [cut, h pos (by omega) (by omega), if_pos rfl,
      ih fun q hlow hhigh => h q (by omega) (by omega)]

/-- A stretch that no word covers stays in front of what is cut. -/
theorem cut_append_of_not_covered
    (h : ∀ q, pos ≤ q → q < pos + us.length → words.any (·.covers q) = false) (cs : List Char) :
    cut words pos (us ++ cs) = us ++ cut words (pos + us.length) cs := by
  rw [cut_append, cut_of_not_covered h]

/-- A stretch that words cover is cut out. -/
theorem cut_append_of_covered
    (h : ∀ q, pos ≤ q → q < pos + us.length → words.any (·.covers q) = true) (cs : List Char) :
    cut words pos (us ++ cs) = cut words (pos + us.length) cs := by
  rw [cut_append, cut_of_covered h, List.nil_append]

/-- A word in front of a block covers its own characters, and no word of the block does. -/
theorem Spells.covers_front {w : Word} {q : Nat} (rest : Spells w.stop cs items)
    (hlow : w.start ≤ q) (hhigh : q < w.stop) (p : Word → Bool) :
    ((wordsOf (.word w :: items)).filter p).any (·.covers q) = p w := by
  have hothers := rest.covers_eq_false hhigh p
  rw [wordsOf_word, List.filter_cons]
  by_cases hp : p w
  · simp [hp, Word.covers, hlow, hhigh]
  · simp [hp, hothers]

/-- A word in front of a block covers nothing of the block. -/
theorem covers_behind {w : Word} {q : Nat} (hq : w.stop ≤ q) (p : Word → Bool)
    (items : List Item) :
    ((wordsOf (.word w :: items)).filter p).any (·.covers q) =
      ((wordsOf items).filter p).any (·.covers q) := by
  have hpast : ¬ q < w.stop := Nat.not_lt.mpr hq
  rw [wordsOf_word, List.filter_cons]
  split <;> simp [Word.covers, hpast]

/-- A word in front of a block is cut out or stays as a whole. -/
theorem Spells.cut_front {w : Word} (rest : Spells w.stop cs items)
    (hstop : w.start + us.length = w.stop)
    (hwords : ∀ q, w.start ≤ q → words.any (·.covers q) =
      ((wordsOf (.word w :: items)).filter p).any (·.covers q)) :
    cut words w.start (us ++ cs) = (if p w then [] else us) ++ cut words w.stop cs := by
  have hown (q : Nat) (hlow : w.start ≤ q) (hhigh : q < w.start + us.length) :
      words.any (·.covers q) = p w := by
    rw [hwords q hlow]
    exact rest.covers_front hlow (hstop ▸ hhigh) p
  cases hp : p w with
  | true =>
    rw [cut_append_of_covered fun q hlow hhigh => (hown q hlow hhigh).trans hp, hstop]
    rfl
  | false =>
    rw [cut_append_of_not_covered fun q hlow hhigh => (hown q hlow hhigh).trans hp, hstop]
    rfl

theorem mem_of_mem_cut (h : c ∈ cut words pos cs) : c ∈ cs := by
  induction cs generalizing pos with
  | nil => cases h
  | cons d cs ih =>
    by_cases hcovered : words.any (·.covers pos)
    · rw [cut, if_pos hcovered] at h
      exact List.mem_cons_of_mem d (ih h)
    · rw [cut, if_neg hcovered] at h
      rcases List.mem_cons.mp h with rfl | h
      · exact List.mem_cons_self
      · exact List.mem_cons_of_mem d (ih h)

/-- A block from which words are cut spells the other words and all comments, wherever it starts. -/
theorem Spells.cut (h : Spells pos cs items) (p : Word → Bool) {words : List Word}
    (hwords : ∀ q, pos ≤ q → words.any (·.covers q) =
      ((wordsOf items).filter p).any (·.covers q)) (pos' : Nat) :
    ∃ items', Spells pos' (NumericControl.cut words pos cs) items' ∧
      (wordsOf items').map Word.written =
        ((wordsOf items).filter fun w => !p w).map Word.written ∧
      commentsOf items' = commentsOf items := by
  induction h generalizing pos' with
  | done pos => exact ⟨[], .done pos', rfl, rfl⟩
  | remark pos cs =>
    rw [cut_of_not_covered fun q hlow _ => hwords q hlow]
    exact ⟨[], .remark pos' cs, rfl, rfl⟩
  | @blank pos c cs items hc rest ih =>
    have hfree : words.any (·.covers pos) = false := by
      rw [hwords pos (Nat.le_refl pos)]
      exact rest.covers_eq_false (Nat.lt_succ_self pos) p
    obtain ⟨items', hitems, hwritten, hcomments⟩ :=
      ih (fun q hq => hwords q (Nat.le_of_succ_le hq)) (pos' + 1)
    refine ⟨items', ?_, hwritten, hcomments⟩
    rw [NumericControl.cut, hfree, if_neg Bool.false_ne_true]
    exact .blank hc hitems
  | @comment pos stop text cs items htext hstop rest ih =>
    have hsource : '(' :: (text ++ ')' :: cs) = ('(' :: (text ++ [')'])) ++ cs := by simp
    have hlength : pos + ('(' :: (text ++ [')'])).length = stop := by
      simp
      omega
    have hfree (q : Nat) (hlow : pos ≤ q) (hhigh : q < pos + ('(' :: (text ++ [')'])).length) :
        words.any (·.covers q) = false := by
      rw [hwords q hlow]
      exact rest.covers_eq_false (hlength ▸ hhigh) p
    obtain ⟨items', hitems, hwritten, hcomments⟩ :=
      ih (fun q hq => hwords q (by omega)) (pos' + text.length + 2)
    refine ⟨.comment text :: items', ?_, hwritten, congrArg (text :: ·) hcomments⟩
    rw [hsource, cut_append_of_not_covered hfree, hlength]
    simpa using Spells.comment htext rfl hitems
  | @openComment pos text htext =>
    rw [cut_of_not_covered fun q hlow _ => hwords q hlow]
    exact ⟨[.comment text], .openComment pos' htext, rfl, rfl⟩
  | @word pos stop c body cs items v hc hbody hvalue hstop rest ih =>
    let w : Word := ⟨c.toUpper, digitsOf body, v.value, pos, stop⟩
    have hlength : w.start + (c :: body).length = w.stop := by
      simp [w, hstop, Nat.add_assoc]
    have hcut : NumericControl.cut words pos (c :: (body ++ cs)) =
        (if p w then [] else c :: body) ++ NumericControl.cut words stop cs :=
      Spells.cut_front rest hlength hwords
    have hrest (q : Nat) (hq : stop ≤ q) : words.any (·.covers q) =
        ((wordsOf items).filter p).any (·.covers q) := by
      rw [hwords q (by omega)]
      exact covers_behind hq p items
    rw [hcut]
    by_cases hp : p w
    · obtain ⟨items', hitems, hwritten, hcomments⟩ := ih hrest pos'
      refine ⟨items', by rwa [if_pos hp], ?_, hcomments⟩
      rw [hwritten, wordsOf_word, List.filter_cons_of_neg (by simpa [w] using hp)]
    · obtain ⟨items', hitems, hwritten, hcomments⟩ := ih hrest (pos' + body.length + 1)
      refine ⟨.word ⟨c.toUpper, digitsOf body, v.value, pos', pos' + body.length + 1⟩ :: items',
        ?_, ?_, hcomments⟩
      · rw [if_neg hp]
        exact .word hc hbody hvalue rfl hitems
      · rw [wordsOf_word, wordsOf_word, List.map_cons, hwritten,
          List.filter_cons_of_pos (by simpa [w] using hp)]
        rfl

/-! ### Messages are respaced -/

private theorem isBlank_eq_false_of_matchesLetter {capital : Char}
    (hcapital : Text.isBlank capital = false) (h : matchesLetter capital c = true) :
    Text.isBlank c = false := by
  rw [← Bool.not_eq_true]
  intro hblank
  have hrange := toNat_of_isBlank hblank
  have hupper : c.toUpper = c := by
    have hnat : c.toNat = c.val.toNat := rfl
    refine dif_neg ?_
    simp only [UInt32.le_iff_toNat_le]
    simp
    omega
  rcases Bool.or_eq_true_iff.mp h with h | h
  · rw [hupper, beq_iff_eq] at h
    rw [h, hcapital] at hblank
    cases hblank
  · have hlong : c.toNat = 0x17F := by simpa using (Bool.and_eq_true_iff.mp h).2
    simp [Text.isBlank, hlong] at hblank

/-- The message of a comment follows its mark. -/
theorem messageOf?_eq_some_iff {message : List Char} :
    messageOf? text = some message ↔ ∃ m s g rest, text = m :: s :: g :: ',' :: rest ∧
      matchesLetter 'M' m ∧ matchesLetter 'S' s ∧ matchesLetter 'G' g ∧
        Text.trimChars rest = message := by
  unfold messageOf?
  constructor
  · intro h
    split at h
    · rename_i m s g rest
      obtain ⟨hletters, hmessage⟩ := Option.ite_none_right_eq_some.mp h
      simp only [Bool.and_eq_true] at hletters
      exact ⟨m, s, g, rest, rfl, hletters.1.1, hletters.1.2, hletters.2, Option.some.inj hmessage⟩
    · cases h
  · rintro ⟨m, s, g, rest, rfl, hm, hs, hg, rfl⟩
    simp [hm, hs, hg]

/-- The message of a respaced comment is the respaced message, whatever blanks follow. -/
theorem messageOf?_squeeze_append {bs : List Char} (hbs : ∀ b ∈ bs, Text.isBlank b = true)
    (text : List Char) :
    messageOf? (Text.squeeze false text ++ bs) = (messageOf? text).map Text.respace := by
  refine Option.ext fun message => ?_
  rw [messageOf?_eq_some_iff, Option.map_eq_some_iff]
  constructor
  · rintro ⟨m, s, g, rest, htext, hm, hs, hg, hmessage⟩
    obtain ⟨text₁, rfl, htext₁⟩ := Text.exists_of_squeeze_append hbs
      (isBlank_eq_false_of_matchesLetter rfl hm) htext
    obtain ⟨text₂, rfl, htext₂⟩ := Text.exists_of_squeeze_append hbs
      (isBlank_eq_false_of_matchesLetter rfl hs) htext₁.symm
    obtain ⟨text₃, rfl, htext₃⟩ := Text.exists_of_squeeze_append hbs
      (isBlank_eq_false_of_matchesLetter rfl hg) htext₂.symm
    obtain ⟨text₄, rfl, htext₄⟩ := Text.exists_of_squeeze_append hbs rfl htext₃.symm
    have hwhole := messageOf?_eq_some_iff.mpr ⟨m, s, g, text₄, rfl, hm, hs, hg, rfl⟩
    refine ⟨Text.trimChars text₄, hwhole, ?_⟩
    rw [Text.respace_trimChars, ← hmessage, htext₄, Text.trimChars_squeeze_append false text₄ hbs]
  · rintro ⟨message', hmessage, rfl⟩
    obtain ⟨m, s, g, rest, rfl, hm, hs, hg, rfl⟩ := messageOf?_eq_some_iff.mp hmessage
    refine ⟨m, s, g, Text.squeeze false rest ++ bs, ?_, hm, hs, hg, ?_⟩
    · have hcomma : Text.isBlank ',' = false := rfl
      simp [Text.squeeze, isBlank_eq_false_of_matchesLetter rfl hm, hcomma,
        isBlank_eq_false_of_matchesLetter rfl hs, isBlank_eq_false_of_matchesLetter rfl hg]
    · rw [Text.trimChars_squeeze_append false rest hbs, Text.respace_trimChars]

/-! ### Blocks are respaced -/

theorem digitsOf_squeeze (gap : Bool) (cs : List Char) :
    digitsOf (Text.squeeze gap cs) = digitsOf cs := by
  have hspace : Text.isBlank ' ' = true := rfl
  induction cs generalizing gap with
  | nil => rfl
  | cons c cs ih =>
    unfold digitsOf at ih ⊢
    by_cases hc : Text.isBlank c
    · simp [Text.squeeze, hc, ih]
    · cases gap <;> simp [Text.squeeze, hc, hspace, ih]

/-- The text of a value stays one when it is respaced. -/
theorem IsBody.squeeze (h : IsBody us) (gap : Bool) : IsBody (Text.squeeze gap us) := by
  induction h generalizing gap with
  | nil => exact .nil
  | value hc _ ih =>
    rw [Text.squeeze_cons_of_not_isBlank (isBlank_eq_false_of_isValueChar hc)]
    have hvalue := IsBody.value hc (ih false)
    cases gap with
    | false => exact hvalue
    | true => exact .blank rfl (List.cons_ne_nil _ _) hvalue
  | blank hc _ _ ih =>
    rw [Text.squeeze_cons_of_isBlank hc]
    exact ih true

/-- The text of a value does not end with white space. -/
theorem IsBody.endsBlank_eq_false (h : IsBody us) : Text.endsBlank false us = false := by
  have hany {us : List Char} (h : IsBody us) (hus : us ≠ []) (gap : Bool) :
      Text.endsBlank gap us = false := by
    induction h generalizing gap with
    | nil => exact absurd rfl hus
    | @value c cs hc _ ih =>
      rw [Text.endsBlank_cons, isBlank_eq_false_of_isValueChar hc]
      by_cases hcs : cs = []
      · rw [hcs]
        rfl
      · exact ih hcs false
    | blank _ hcs _ ih => exact ih hcs _
  by_cases hus : us = []
  · rw [hus]
    rfl
  · exact hany h hus false

/-- Items with the same words and with the same message but for its white space. -/
structure Respaces (items items' : List Item) : Prop where
  words : (wordsOf items').map Word.written = (wordsOf items).map Word.written
  message : (commentsOf items').findSome? messageOf? =
    ((commentsOf items).findSome? messageOf?).map Text.respace

/-- A space in front of a block does not count. -/
private theorem Spells.exists_of_gap {P : List Item → Prop}
    (h : ∀ pos', ∃ items', Spells pos' (c :: cs) items' ∧ P items') (gap : Bool) (pos' : Nat) :
    ∃ items', Spells pos' ((if gap then [' ', c] else [c]) ++ cs) items' ∧ P items' := by
  cases gap with
  | false => exact h pos'
  | true =>
    obtain ⟨items', hitems, hP⟩ := h (pos' + 1)
    exact ⟨items', .blank rfl hitems, hP⟩

/-- A squeezed text closes a comment only if the text does. -/
private theorem mem_of_mem_squeeze (h : ')' ∈ Text.squeeze false text) : ')' ∈ text := by
  rcases Text.mem_squeeze h with hspace | hmem
  · cases hspace
  · exact hmem.1

private theorem Respaces.comment {text' : List Char} {items' : List Item}
    (htext : messageOf? text' = (messageOf? text).map Text.respace) (h : Respaces items items') :
    Respaces (.comment text :: items) (.comment text' :: items') := by
  refine ⟨h.words, ?_⟩
  simp only [commentsOf_comment, List.findSome?_cons, htext]
  cases messageOf? text with
  | none => exact h.message
  | some message => rfl

/-- A respaced block spells the same words, and its message is respaced. -/
theorem Spells.squeeze (h : Spells pos cs items) (gap : Bool) (pos' : Nat) :
    ∃ items', Spells pos' (Text.squeeze gap cs) items' ∧ Respaces items items' := by
  induction h generalizing gap pos' with
  | done pos => exact ⟨[], .done pos', rfl, rfl⟩
  | remark pos cs => exact exists_of_gap (fun pos' => ⟨[], .remark pos' _, rfl, rfl⟩) gap pos'
  | blank hc _ ih =>
    rw [Text.squeeze_cons_of_isBlank hc]
    exact ih true pos'
  | @comment pos stop text cs items htext hstop _ ih =>
    refine exists_of_gap (fun pos' => ?_) gap pos'
    -- a run of white space in front of the parenthesis stays as one space of the comment
    obtain ⟨bs, hbs, hend⟩ : ∃ bs, (∀ b ∈ bs, b = ' ') ∧
        Text.squeeze (Text.endsBlank false text) (')' :: cs) =
          bs ++ ')' :: Text.squeeze false cs := by
      rw [Text.squeeze_cons_of_not_isBlank rfl]
      cases Text.endsBlank false text with
      | false => exact ⟨[], nofun, rfl⟩
      | true => exact ⟨[' '], fun b hb => List.mem_singleton.mp hb, rfl⟩
    have htext' : ')' ∉ Text.squeeze false text ++ bs := by
      intro hmem
      rcases List.mem_append.mp hmem with hmem | hmem
      · exact htext (mem_of_mem_squeeze hmem)
      · cases hbs _ hmem
    obtain ⟨items', hitems, hrespaces⟩ :=
      ih false (pos' + (Text.squeeze false text ++ bs).length + 2)
    have hmessage := @messageOf?_squeeze_append bs (fun b hb => by rw [hbs b hb]; rfl) text
    refine ⟨_, ?_, .comment hmessage hrespaces⟩
    rw [Text.squeeze_append, hend, ← List.append_assoc]
    exact .comment htext' rfl hitems
  | @openComment pos text htext =>
    refine exists_of_gap (fun pos' => ?_) gap pos'
    have hmessage := @messageOf?_squeeze_append [] nofun text
    rw [List.append_nil] at hmessage
    exact ⟨_, .openComment pos' fun hmem => htext (mem_of_mem_squeeze hmem),
      .comment hmessage ⟨rfl, rfl⟩⟩
  | @word pos stop c body cs items v hc hbody hvalue hstop _ ih =>
    rw [Text.squeeze_cons_of_not_isBlank (isBlank_eq_false_of_isAlpha hc), Text.squeeze_append,
      hbody.endsBlank_eq_false]
    refine exists_of_gap (fun pos' => ?_) gap pos'
    obtain ⟨items', hitems, hrespaces⟩ :=
      ih false (pos' + (Text.squeeze false body).length + 1)
    refine ⟨_, .word hc (hbody.squeeze false) (by rwa [digitsOf_squeeze]) rfl hitems, ?_,
      hrespaces.message⟩
    rw [wordsOf_word, wordsOf_word, List.map_cons, List.map_cons, hrespaces.words, digitsOf_squeeze]
    rfl

/-! ### Blocks from which words are removed -/

/-- White space in front of a block does not count. -/
theorem Spells.dropWhile (h : Spells pos cs items) :
    ∃ pos', Spells pos' (cs.dropWhile Text.isBlank) items := by
  induction h with
  | done pos => exact ⟨pos, .done pos⟩
  | remark pos cs => exact ⟨pos, .remark pos cs⟩
  | blank hc _ ih =>
    rw [List.dropWhile_cons_of_pos hc]
    exact ih
  | @comment pos stop text cs items htext hstop rest _ =>
    rw [List.dropWhile_cons_of_neg (by decide)]
    exact ⟨pos, .comment htext hstop rest⟩
  | openComment pos htext =>
    rw [List.dropWhile_cons_of_neg (by decide)]
    exact ⟨pos, .openComment pos htext⟩
  | word hc hbody hvalue hstop rest _ =>
    rw [List.dropWhile_cons_of_neg (by simp [isBlank_eq_false_of_isAlpha hc])]
    exact ⟨_, .word hc hbody hvalue hstop rest⟩

/-- A block without white space in front starts with a word or a comment, or it has no items. -/
theorem Spells.head_cases (h : Spells pos (c :: cs) items) (hc : Text.isBlank c = false) :
    c.isAlpha = true ∨ c = '(' ∨ (c = ';' ∧ items = []) := by
  generalize hsource : c :: cs = source at h
  cases h with
  | done pos => cases hsource
  | remark pos cs =>
    cases hsource
    exact .inr (.inr ⟨rfl, rfl⟩)
  | blank hblank rest =>
    cases hsource
    rw [hblank] at hc
    cases hc
  | comment htext hstop rest =>
    cases hsource
    exact .inr (.inl rfl)
  | openComment pos htext =>
    cases hsource
    exact .inr (.inl rfl)
  | word halpha hbody hvalue hstop rest =>
    cases hsource
    exact .inl halpha

/-- A block from which words are removed spells the other words, and its message is respaced. -/
theorem Spells.exists_removed (h : Spells 0 cs items) (p : Word → Bool) :
    ∃ items', Spells 0 (Text.respace (NumericControl.cut ((wordsOf items).filter p) 0 cs)) items' ∧
      (wordsOf items').map Word.written = ((wordsOf items).filter fun w => !p w).map Word.written ∧
      (commentsOf items').findSome? messageOf? =
        ((commentsOf items).findSome? messageOf?).map Text.respace := by
  obtain ⟨cutItems, hcut, hwritten, hcomments⟩ := h.cut p (fun _ _ => rfl) 0
  obtain ⟨pos, hdrop⟩ := hcut.dropWhile
  obtain ⟨items', hitems, hrespaces⟩ := hdrop.squeeze false 0
  rw [← Text.respace_eq_squeeze] at hitems
  exact ⟨items', hitems, hrespaces.words.trans hwritten, by rw [hrespaces.message, hcomments]⟩

end NumericControl
