import NumericControl.Line.Scan
import NumericControl.Proofs.Outcome

/-!
# The grammar of blocks

What a block spells is told without a scan: blanks, words with their values, and comments follow
one another up to the end of the line or a remark.  A value is made of value characters with blanks
between them.  The scan of a block reads exactly what the block spells.

## Main definitions

* `IsBody`, `digitsOf` : the text of a value behind its letter, and its digits.
* `Spells` : the items that a block spells from a place on.
* `Continues` : what a block spells behind a place at which a word or a comment is open.

## Main results

* `scan_of_spells` : a scan outside of comments reads what the rest of the block spells.
* `continues_of_scan_outside`, `continues_of_scan_comment` : one step of a scan.
* `scan_eq_ok_iff` : the items of a scan are those that the block spells.
-/

namespace NumericControl

/-- The text of a value behind its letter: value characters with blanks before and between. -/
inductive IsBody : List Char → Prop
  | nil : IsBody []
  | value {c : Char} {cs : List Char} (hc : isValueChar c = true) (rest : IsBody cs) :
      IsBody (c :: cs)
  | blank {c : Char} {cs : List Char} (hc : Text.isBlank c = true) (hrest : cs ≠ [])
      (rest : IsBody cs) : IsBody (c :: cs)

/-- A value without the blanks in its text. -/
def digitsOf (body : List Char) : List Char :=
  body.filter fun c => !Text.isBlank c

/-- A block spells these items from the character with the number `pos` on. -/
inductive Spells : Nat → List Char → List Item → Prop
  | done (pos : Nat) : Spells pos [] []
  | remark (pos : Nat) (cs : List Char) : Spells pos (';' :: cs) []
  | blank {pos : Nat} {c : Char} {cs : List Char} {items : List Item}
      (hc : Text.isBlank c = true) (rest : Spells (pos + 1) cs items) : Spells pos (c :: cs) items
  | comment {pos stop : Nat} {text cs : List Char} {items : List Item} (htext : ')' ∉ text)
      (hstop : stop = pos + text.length + 2) (rest : Spells stop cs items) :
      Spells pos ('(' :: (text ++ ')' :: cs)) (.comment text :: items)
  | openComment (pos : Nat) {text : List Char} (htext : ')' ∉ text) :
      Spells pos ('(' :: text) [.comment text]
  | word {pos stop : Nat} {c : Char} {body cs : List Char} {items : List Item} {p : Number.Plain}
      (hc : c.isAlpha = true) (hbody : IsBody body)
      (hvalue : Number.plain? (digitsOf body) = some p) (hstop : stop = pos + body.length + 1)
      (rest : Spells stop cs items) :
      Spells pos (c :: (body ++ cs))
        (.word ⟨c.toUpper, digitsOf body, p.value, pos, stop⟩ :: items)

variable {c : Char} {cs body text : List Char} {pos : Nat} {items : List Item} {mode : ScanMode}

/-! ### Kinds of characters -/

theorem toNat_of_isAlpha (h : c.isAlpha = true) : 65 ≤ c.toNat ∧ c.toNat ≤ 122 := by
  have hval : c.toNat = c.val.toNat := rfl
  have hrange : 'A'.val ≤ c.val ∧ c.val ≤ 'Z'.val ∨ 'a'.val ≤ c.val ∧ c.val ≤ 'z'.val := by
    rcases Bool.or_eq_true_iff.mp h with hupper | hlower
    · exact .inl (of_decide_eq_true hupper)
    · exact .inr ((Bool.and_eq_true_iff.mp hlower).imp of_decide_eq_true of_decide_eq_true)
  simp only [UInt32.le_iff_toNat_le] at hrange
  simp at hrange
  omega

theorem toNat_of_isBlank (h : Text.isBlank c = true) : c.toNat ≤ 32 ∨ 133 ≤ c.toNat := by
  simp [Text.isBlank] at h
  omega

theorem toNat_of_isValueChar (h : isValueChar c = true) : 43 ≤ c.toNat ∧ c.toNat ≤ 57 := by
  simp only [isValueChar, Number.isDigit, Bool.or_eq_true, Bool.and_eq_true, decide_eq_true_eq,
    beq_iff_eq, Char.le_def, UInt32.le_iff_toNat_le] at h
  have hval : c.toNat = c.val.toNat := rfl
  rcases h with ((⟨hlow, hhigh⟩ | rfl) | rfl) | rfl
  · simp at hlow hhigh
    omega
  · decide
  · decide
  · decide

theorem isBlank_eq_false_of_isValueChar (h : isValueChar c = true) : Text.isBlank c = false := by
  have hvalue := toNat_of_isValueChar h
  rw [← Bool.not_eq_true]
  intro hblank
  have := toNat_of_isBlank hblank
  omega

theorem isBlank_eq_false_of_isAlpha (h : c.isAlpha = true) : Text.isBlank c = false := by
  have halpha := toNat_of_isAlpha h
  rw [← Bool.not_eq_true]
  intro hblank
  have := toNat_of_isBlank hblank
  omega

theorem isValueChar_eq_false_of_isAlpha (h : c.isAlpha = true) : isValueChar c = false := by
  have halpha := toNat_of_isAlpha h
  rw [← Bool.not_eq_true]
  intro hvalue
  have := toNat_of_isValueChar hvalue
  omega

/-- A character whose number tells it from a mark is not the mark. -/
private theorem beq_eq_false_of_toNat {mark : Char} (h : c.toNat ≠ mark.toNat) :
    (c == mark) = false := by
  rw [beq_eq_false_iff_ne]
  rintro rfl
  exact h rfl

/-! ### One step of a scan -/

/-- Whether the scan stands outside of comments. -/
def ScanMode.isOutside : ScanMode → Bool
  | .comment _ => false
  | _ => true

/-- The open word after more of its text. -/
def OpenWord.extend (w : OpenWord) (pos : Nat) (body : List Char) : OpenWord :=
  { w with
    digits := (digitsOf body).reverse ++ w.digits
    stop := if body = [] then w.stop else pos + body.length }

theorem scan_nil : scan pos mode [] = mode.close :=
  rfl

theorem scan_remark (hmode : mode.isOutside = true) : scan pos mode (';' :: cs) = mode.close := by
  cases mode with
  | comment text => cases hmode
  | between | word w => rfl

theorem scan_paren (hmode : mode.isOutside = true) :
    scan pos mode ('(' :: cs) =
      mode.close >>= fun done =>
        scan (pos + 1) (.comment []) cs >>= fun rest => pure (done ++ rest) := by
  cases mode with
  | comment text => cases hmode
  | between | word w => rfl

theorem scan_blank (hmode : mode.isOutside = true) (hc : Text.isBlank c = true) :
    scan pos mode (c :: cs) = scan (pos + 1) mode cs := by
  have hnat := toNat_of_isBlank hc
  have hremark : (c == ';') = false := beq_eq_false_of_toNat (by simp; omega)
  have hparen : (c == '(') = false := beq_eq_false_of_toNat (by simp; omega)
  have hvalue : isValueChar c = false := by
    rw [← Bool.not_eq_true]
    intro h
    rw [isBlank_eq_false_of_isValueChar h] at hc
    cases hc
  cases mode with
  | comment text => cases hmode
  | between | word w =>
    simp only [scan, hremark, hparen, hvalue, hc, if_true, Bool.false_eq_true, if_false]

theorem scan_letter (hmode : mode.isOutside = true) (hc : c.isAlpha = true) :
    scan pos mode (c :: cs) =
      mode.close >>= fun done =>
        scan (pos + 1) (.word ⟨c.toUpper, pos, [], pos + 1⟩) cs >>= fun rest =>
          pure (done ++ rest) := by
  have hnat := toNat_of_isAlpha hc
  have hremark : (c == ';') = false := beq_eq_false_of_toNat (by simp; omega)
  have hparen : (c == '(') = false := beq_eq_false_of_toNat (by simp; omega)
  cases mode with
  | comment text => cases hmode
  | between | word w =>
    simp only [scan, hremark, hparen, isValueChar_eq_false_of_isAlpha hc,
      isBlank_eq_false_of_isAlpha hc, hc, if_true, Bool.false_eq_true, if_false]

theorem scan_value {w : OpenWord} (hc : isValueChar c = true) :
    scan pos (.word w) (c :: cs) =
      scan (pos + 1) (.word { w with digits := c :: w.digits, stop := pos + 1 }) cs := by
  have hnat := toNat_of_isValueChar hc
  have hremark : (c == ';') = false := beq_eq_false_of_toNat (by simp; omega)
  have hparen : (c == '(') = false := beq_eq_false_of_toNat (by simp; omega)
  simp only [scan, hremark, hparen, hc, if_true, Bool.false_eq_true, if_false]

theorem scan_comment_cons {done : List Char} (hc : c ≠ ')') :
    scan pos (.comment done) (c :: cs) = scan (pos + 1) (.comment (c :: done)) cs :=
  if_neg (by simpa using hc)

/-! ### A scan reads what a block spells -/

theorem scan_comment_end (done : List Char) :
    scan pos (.comment done) (')' :: cs) =
      scan (pos + 1) .between cs >>= fun rest => pure (.comment done.reverse :: rest) :=
  rfl

theorem OpenWord.extend_value (hc : isValueChar c = true) (w : OpenWord) :
    OpenWord.extend { w with digits := c :: w.digits, stop := pos + 1 } (pos + 1) body =
      w.extend pos (c :: body) := by
  have hdigits : digitsOf (c :: body) = c :: digitsOf body := by
    simp [digitsOf, isBlank_eq_false_of_isValueChar hc]
  rw [extend, extend, hdigits]
  by_cases hbody : body = []
  · simp [hbody]
  · simp [hbody, Nat.add_assoc, Nat.add_comm 1]

theorem OpenWord.extend_blank (hc : Text.isBlank c = true) (hbody : body ≠ []) (w : OpenWord) :
    w.extend (pos + 1) body = w.extend pos (c :: body) := by
  have hdigits : digitsOf (c :: body) = digitsOf body := by
    simp [digitsOf, hc]
  rw [extend, extend, hdigits]
  simp [hbody, Nat.add_assoc, Nat.add_comm 1]

/-- A word that was opened is closed behind the text of its value, if that is a number. -/
theorem OpenWord.close_extend_eq_ok_iff {letter : Char} {word : Word} :
    (extend ⟨letter, pos, [], pos + 1⟩ (pos + 1) body).close = .ok word ↔
      ∃ p, Number.plain? (digitsOf body) = some p ∧
        word = ⟨letter, digitsOf body, p.value, pos, pos + body.length + 1⟩ := by
  have hstop : (if body = [] then pos + 1 else pos + 1 + body.length) = pos + body.length + 1 := by
    by_cases hempty : body = []
    · simp [hempty]
    · rw [if_neg hempty, Nat.add_right_comm]
  simp only [extend, close, List.append_nil, List.reverse_reverse, hstop]
  cases Number.plain? (digitsOf body) with
  | none => simp
  | some p => simp [eq_comm]

/-- The text of a value extends the open word. -/
theorem scan_body (h : IsBody body) (w : OpenWord) (pos : Nat) (cs : List Char) :
    scan pos (.word w) (body ++ cs) =
      scan (pos + body.length) (.word (w.extend pos body)) cs := by
  induction h generalizing w pos with
  | nil => rfl
  | @value c body hc _ ih =>
    rw [List.cons_append, scan_value hc, ih, OpenWord.extend_value hc, List.length_cons,
      Nat.add_assoc, Nat.add_comm 1]
  | @blank c body hc hbody _ ih =>
    rw [List.cons_append, scan_blank rfl hc, ih, OpenWord.extend_blank hc hbody, List.length_cons,
      Nat.add_assoc, Nat.add_comm 1]

/-- The text of a comment up to its end. -/
theorem scan_comment (htext : ')' ∉ text) (done : List Char) (pos : Nat) (cs : List Char) :
    scan pos (.comment done) (text ++ cs) =
      scan (pos + text.length) (.comment (text.reverse ++ done)) cs := by
  induction text generalizing done pos with
  | nil => rfl
  | cons c text ih =>
    rw [List.mem_cons, not_or] at htext
    rw [List.cons_append, scan_comment_cons (Ne.symm htext.1), ih htext.2]
    simp [Nat.add_assoc, Nat.add_comm 1]

/-- A scan outside of comments completes the open word and reads what the rest of the block
spells. -/
theorem scan_of_spells (h : Spells pos cs items) (hmode : mode.isOutside = true) :
    scan pos mode cs = mode.close.map (· ++ items) := by
  induction h generalizing mode with
  | done pos =>
    rw [scan_nil]
    cases mode.close <;> simp [Except.map]
  | remark pos cs =>
    rw [scan_remark hmode]
    cases mode.close <;> simp [Except.map]
  | blank hc _ ih => rw [scan_blank hmode hc, ih hmode]
  | @comment pos stop text cs items htext hstop _ ih =>
    have hpos : pos + 1 + text.length + 1 = stop := by omega
    have hrest : scan (pos + 1) (.comment []) (text ++ ')' :: cs) =
        .ok (.comment text :: items) := by
      rw [scan_comment htext, scan_comment_end, hpos, ih rfl]
      simp [ScanMode.close, Except.map, bind, Except.bind, pure, Except.pure]
    rw [scan_paren hmode, hrest]
    exact bind_pure_comp _ _
  | @openComment pos text htext =>
    have hrest : scan (pos + 1) (.comment []) text = .ok [.comment text] := by
      have hscan := scan_comment htext [] (pos + 1) []
      rw [List.append_nil, List.append_nil] at hscan
      rw [hscan, scan_nil]
      simp [ScanMode.close]
    rw [scan_paren hmode, hrest]
    exact bind_pure_comp _ _
  | @word pos stop c body cs items p hc hbody hvalue hstop _ ih =>
    have hclose : (OpenWord.extend ⟨c.toUpper, pos, [], pos + 1⟩ (pos + 1) body).close =
        .ok ⟨c.toUpper, digitsOf body, p.value, pos, stop⟩ :=
      OpenWord.close_extend_eq_ok_iff.mpr ⟨p, hvalue, by rw [hstop]⟩
    have hrest : scan (pos + 1) (.word ⟨c.toUpper, pos, [], pos + 1⟩) (body ++ cs) =
        .ok (.word ⟨c.toUpper, digitsOf body, p.value, pos, stop⟩ :: items) := by
      have hpos : pos + 1 + body.length = stop := by omega
      rw [scan_body hbody, hpos, ih rfl, ScanMode.close, hclose]
      rfl
    rw [scan_letter hmode hc, hrest]
    exact bind_pure_comp _ _

/-! ### A block spells what a scan reads -/

/-- What a block spells behind a place at which the scan stands: the open word or the open comment
goes on for a while. -/
inductive Continues : Nat → ScanMode → List Char → List Item → Prop
  | between {pos : Nat} {cs : List Char} {items : List Item} (rest : Spells pos cs items) :
      Continues pos .between cs items
  | word {pos : Nat} {w : OpenWord} {word : Word} {body cs : List Char} {items : List Item}
      (hbody : IsBody body) (hword : (w.extend pos body).close = .ok word)
      (rest : Spells (pos + body.length) cs items) :
      Continues pos (.word w) (body ++ cs) (.word word :: items)
  | comment {pos : Nat} {done text cs : List Char} {items : List Item} (htext : ')' ∉ text)
      (rest : Spells (pos + text.length + 1) cs items) :
      Continues pos (.comment done) (text ++ ')' :: cs) (.comment (done.reverse ++ text) :: items)
  | openComment {pos : Nat} {done text : List Char} (htext : ')' ∉ text) :
      Continues pos (.comment done) text [.comment (done.reverse ++ text)]

/-- What follows an open word may follow at once. -/
theorem Continues.of_close {done : List Item} (hmode : mode.isOutside = true)
    (hclose : mode.close = .ok done) (h : Spells pos cs items) :
    Continues pos mode cs (done ++ items) := by
  cases mode with
  | comment text => cases hmode
  | between =>
    cases hclose
    exact .between h
  | word w =>
    obtain ⟨word, hword, rfl⟩ := map_eq_ok_iff.mp hclose
    exact .word .nil hword h

/-- A comment that is opened is one of the items. -/
theorem Continues.spells_comment (h : Continues (pos + 1) (.comment []) cs items) :
    Spells pos ('(' :: cs) items := by
  generalize hmode : ScanMode.comment [] = mode at h
  cases h with
  | between rest => cases hmode
  | word hbody hword rest => cases hmode
  | comment htext rest =>
    cases hmode
    exact .comment htext (by omega) rest
  | openComment htext =>
    cases hmode
    exact .openComment pos htext

/-- A word that is opened is one of the items. -/
theorem Continues.spells_word (hc : c.isAlpha = true)
    (h : Continues (pos + 1) (.word ⟨c.toUpper, pos, [], pos + 1⟩) cs items) :
    Spells pos (c :: cs) items := by
  generalize hmode : ScanMode.word ⟨c.toUpper, pos, [], pos + 1⟩ = mode at h
  cases h with
  | between rest => cases hmode
  | comment htext rest => cases hmode
  | openComment htext => cases hmode
  | @word w word body cs items hbody hword rest =>
    cases hmode
    obtain ⟨p, hvalue, rfl⟩ := OpenWord.close_extend_eq_ok_iff.mp hword
    exact .word hc hbody hvalue rfl (by rwa [Nat.add_right_comm] at rest)

/-- A value character goes on with the open word. -/
theorem Continues.value_cons {w : OpenWord} (hc : isValueChar c = true)
    (h : Continues (pos + 1) (.word { w with digits := c :: w.digits, stop := pos + 1 }) cs items) :
    Continues pos (.word w) (c :: cs) items := by
  generalize hmode : ScanMode.word { w with digits := c :: w.digits, stop := pos + 1 } = mode at h
  cases h with
  | between rest => cases hmode
  | comment htext rest => cases hmode
  | openComment htext => cases hmode
  | @word w word body cs items hbody hword rest =>
    cases hmode
    rw [OpenWord.extend_value hc] at hword
    rw [← List.cons_append]
    refine .word (.value hc hbody) hword ?_
    rwa [List.length_cons, Nat.add_comm body.length, ← Nat.add_assoc]

/-- A blank goes on with the open word or follows it. -/
theorem Continues.blank_cons (hmode : mode.isOutside = true) (hc : Text.isBlank c = true)
    (h : Continues (pos + 1) mode cs items) : Continues pos mode (c :: cs) items := by
  cases h with
  | between rest => exact .between (.blank hc rest)
  | comment htext rest => cases hmode
  | openComment htext => cases hmode
  | @word w word body cs items hbody hword rest =>
    by_cases hempty : body = []
    · subst hempty
      exact .word .nil hword (.blank hc rest)
    · rw [OpenWord.extend_blank hc hempty] at hword
      rw [← List.cons_append]
      refine .word (.blank hc hempty hbody) hword ?_
      rwa [List.length_cons, Nat.add_comm body.length, ← Nat.add_assoc]

/-- Any other character goes on with an open comment. -/
theorem Continues.comment_cons {done : List Char} (hc : c ≠ ')')
    (h : Continues (pos + 1) (.comment (c :: done)) cs items) :
    Continues pos (.comment done) (c :: cs) items := by
  generalize hmode : ScanMode.comment (c :: done) = mode at h
  cases h with
  | between rest => cases hmode
  | word hbody hword rest => cases hmode
  | @comment done' text cs items htext rest =>
    cases hmode
    rw [List.reverse_cons, List.append_assoc, List.singleton_append, ← List.cons_append]
    refine .comment (by simpa [Ne.symm hc] using htext) ?_
    rwa [List.length_cons, Nat.add_comm text.length, ← Nat.add_assoc]
  | @openComment done' text htext =>
    cases hmode
    rw [List.reverse_cons, List.append_assoc, List.singleton_append]
    exact .openComment (by simpa [Ne.symm hc] using htext)

/-- A comment ends with its parenthesis. -/
theorem Continues.comment_end {done : List Char} (h : Continues (pos + 1) .between cs items) :
    Continues pos (.comment done) (')' :: cs) (.comment done.reverse :: items) := by
  cases h with
  | between rest =>
    have hcontinues := @Continues.comment pos done [] cs _ List.not_mem_nil rest
    rwa [List.append_nil] at hcontinues

/-- What is complete at the end of a block or in front of a remark is all that there is. -/
theorem Continues.of_close_last (hmode : mode.isOutside = true) (hclose : mode.close = .ok items)
    (h : Spells pos cs []) : Continues pos mode cs items := by
  have hcontinues := Continues.of_close hmode hclose h
  rwa [List.append_nil] at hcontinues

section Step

variable (ih : ∀ {pos : Nat} {mode : ScanMode} {items : List Item},
  scan pos mode cs = .ok items → Continues pos mode cs items)

include ih

/-- One character outside of comments, in front of a text that the scan reads as it is spelled. -/
theorem continues_of_scan_outside (hmode : mode.isOutside = true)
    (h : scan pos mode (c :: cs) = .ok items) : Continues pos mode (c :: cs) items := by
  by_cases hremark : c = ';'
  · subst hremark
    rw [scan_remark hmode] at h
    exact .of_close_last hmode h (.remark pos cs)
  by_cases hparen : c = '('
  · subst hparen
    rw [scan_paren hmode] at h
    obtain ⟨done, hdone, h⟩ := bind_eq_ok_iff.mp h
    obtain ⟨rest, hrest, h⟩ := bind_eq_ok_iff.mp h
    cases h
    exact .of_close hmode hdone (ih hrest).spells_comment
  by_cases hblank : Text.isBlank c
  · rw [scan_blank hmode hblank] at h
    exact .blank_cons hmode hblank (ih h)
  by_cases hletter : c.isAlpha
  · rw [scan_letter hmode hletter] at h
    obtain ⟨done, hdone, h⟩ := bind_eq_ok_iff.mp h
    obtain ⟨rest, hrest, h⟩ := bind_eq_ok_iff.mp h
    cases h
    exact .of_close hmode hdone (Continues.spells_word hletter (ih hrest))
  -- any other character is refused, unless it is one of an open word
  cases mode with
  | comment text => cases hmode
  | between => simp [scan, hremark, hparen, hblank, hletter] at h
  | word w =>
    by_cases hvalue : isValueChar c
    · rw [scan_value hvalue] at h
      exact .value_cons hvalue (ih h)
    · simp [scan, hremark, hparen, hvalue, hblank, hletter] at h

/-- One character of a comment, in front of a text that the scan reads as it is spelled. -/
theorem continues_of_scan_comment {done : List Char}
    (h : scan pos (.comment done) (c :: cs) = .ok items) :
    Continues pos (.comment done) (c :: cs) items := by
  by_cases hend : c = ')'
  · subst hend
    rw [scan_comment_end] at h
    obtain ⟨rest, hrest, h⟩ := bind_eq_ok_iff.mp h
    cases h
    exact (ih hrest).comment_end
  · rw [scan_comment_cons hend] at h
    exact .comment_cons hend (ih h)

end Step

/-- A scan reads what the rest of the block spells. -/
theorem continues_of_scan (h : scan pos mode cs = .ok items) : Continues pos mode cs items := by
  induction cs generalizing pos mode items with
  | nil =>
    rw [scan_nil] at h
    cases mode with
    | between | word w => exact .of_close_last rfl h (.done pos)
    | comment text =>
      cases h
      have hcontinues := @Continues.openComment pos text [] List.not_mem_nil
      rwa [List.append_nil] at hcontinues
  | cons c cs ih =>
    cases mode with
    | between | word w => exact continues_of_scan_outside ih rfl h
    | comment done => exact continues_of_scan_comment ih h

/-- The items of a scan are those that the block spells. -/
theorem scan_eq_ok_iff : scan pos .between cs = .ok items ↔ Spells pos cs items := by
  constructor
  · intro h
    cases continues_of_scan h with
    | between rest => exact rest
  · intro h
    rw [scan_of_spells h rfl]
    rfl

end NumericControl
