import Mathlib.Data.List.Infix
import Mathlib.Data.List.TakeWhile
import NumericControl.Json.Reader
import NumericControl.Proofs.Json.Keys
import NumericControl.Proofs.Outcome

/-!
# What the outcome of reading tells about a text

A reader takes a value off the front of a text.  Most texts that are not read are malformed; a text
that is refused for a long number has that many digits in a row, and one that is refused for its
nesting has that many opening brackets.  The objects of a value that is read have distinct keys.

The readers are given a number of steps.  Two for each character of the text are always enough, so
that no text is refused because the steps ran out.

## Main definitions

* `Json.HasLongRun`, `Json.openings` : digits in a row and opening brackets of a text.
* `Json.Reads` : what an outcome of a reader tells about the text and the value.
* `Json.IsOversized` : the texts that are not taken in although they may be documents.

## Main results

* `Json.reads_readValue` : the outcomes of the reader of values.
* `Json.readValue_of_le` : more steps than two for each character make no difference.
* `Json.wellKeyed_of_read` : what is read has distinct keys.
* `Json.isOversized_iff` : a text that is refused is malformed or oversized.
-/

namespace NumericControl.Json

/-- More digits in a row than a whole number may have. -/
def HasLongRun (cs : List Char) : Prop :=
  ∃ run, run <:+: cs ∧ (∀ c ∈ run, Number.isDigit c) ∧ Number.digitLimit < run.length

/-- An opening bracket or brace. -/
def isOpening (c : Char) : Bool :=
  c == '[' || c == '\x7b'

/-- How many brackets and braces open in a text. -/
def openings (cs : List Char) : Nat :=
  cs.countP isOpening

/-- What the outcome of a reader at the front of a text tells, if arrays and objects may still be
nested to some depth: a result has a property and leaves an end of the text, and a text that is
refused for a long number or for its nesting has one. -/
structure Reads {α : Type} (P : α → Prop) (depth : Nat) (cs : List Char)
    (x : Except ReadError (α × List Char)) : Prop where
  ok : ∀ a rest, x = .ok (a, rest) → P a ∧ rest <:+ cs
  digits : x = .error .tooManyDigits → HasLongRun cs
  nesting : x = .error .tooDeep → depth < openings cs

namespace Reads

variable {α β : Type} {P : α → Prop} {Q : β → Prop} {depth : Nat} {cs cs' : List Char}
  {x : Except ReadError (α × List Char)}

theorem result {a : α} {rest : List Char} (ha : P a) (hrest : rest <:+ cs) :
    Reads P depth cs (.ok (a, rest)) := by
  refine ⟨?_, nofun, nofun⟩
  rintro _ _ ⟨⟩
  exact ⟨ha, hrest⟩

theorem malformed : Reads P depth cs (.error .malformed) :=
  ⟨nofun, nofun, nofun⟩

theorem longNumber (h : HasLongRun cs) : Reads P depth cs (.error .tooManyDigits) :=
  ⟨nofun, fun _ => h, nofun⟩

theorem tooDeep (h : depth < openings cs) : Reads P depth cs (.error .tooDeep) :=
  ⟨nofun, nofun, fun _ => h⟩

/-- What a reader tells about the end of a text it tells about the text. -/
theorem of_suffix (h : Reads P depth cs x) (hcs : cs <:+ cs') : Reads P depth cs' x where
  ok a rest hx := ⟨(h.ok a rest hx).1, (h.ok a rest hx).2.trans hcs⟩
  digits hx := by
    obtain ⟨run, hrun, hdigits, hlong⟩ := h.digits hx
    exact ⟨run, hrun.trans hcs.isInfix, hdigits, hlong⟩
  nesting hx := Nat.lt_of_lt_of_le (h.nesting hx) (hcs.sublist.countP_le)

theorem bind {f : α × List Char → Except ReadError (β × List Char)} (hx : Reads P depth cs x)
    (hf : ∀ a rest, P a → rest <:+ cs → Reads Q depth rest (f (a, rest))) :
    Reads Q depth cs (x >>= f) := by
  cases x with
  | error e =>
    refine ⟨nofun, ?_, ?_⟩
    · rintro ⟨⟩
      exact hx.digits rfl
    · rintro ⟨⟩
      exact hx.nesting rfl
  | ok r =>
    obtain ⟨ha, hrest⟩ := hx.ok r.1 r.2 rfl
    exact (hf r.1 r.2 ha hrest).of_suffix hrest

theorem map {f : α → β} (hx : Reads P depth cs x) (hf : ∀ a, P a → Q (f a)) :
    Reads Q depth cs (x.map fun r => (f r.1, r.2)) :=
  hx.bind fun a _ ha _ => result (hf a ha) List.suffix_rfl

/-- An array or object that opens in front of a text uses up one level of nesting. -/
theorem nested (h : Reads P depth cs x) {c : Char} (hc : isOpening c = true) :
    Reads P (depth + 1) (c :: cs) x where
  ok := (h.of_suffix (List.suffix_cons c cs)).ok
  digits := (h.of_suffix (List.suffix_cons c cs)).digits
  nesting hx := by
    rw [openings, List.countP_cons_of_pos hc]
    exact Nat.succ_lt_succ (h.nesting hx)

end Reads

/-! ### Texts and numbers -/

variable {depth : Nat} {cs : List Char}

theorem skipGap_suffix (cs : List Char) : skipGap cs <:+ cs :=
  List.dropWhile_suffix isGap

/-- What follows the first character after white space. -/
theorem suffix_of_skipGap {c : Char} {rest : List Char} (h : skipGap cs = c :: rest) :
    rest <:+ cs :=
  (List.suffix_cons c rest).trans (h ▸ skipGap_suffix cs)

theorem reads_scanText (depth : Nat) (units : List Nat) (cs : List Char) :
    Reads (fun _ => True) depth cs (scanText units cs) := by
  fun_induction scanText units cs with
  | case1 => exact .malformed
  | case2 units cs => exact .result trivial (List.suffix_cons _ _)
  | case3 units a b c d cs n hn ih => exact ih.of_suffix ⟨['\\', 'u', a, b, c, d], rfl⟩
  | case4 => exact .malformed
  | case5 units e cs _ c hc ih => exact ih.of_suffix ⟨['\\', e], rfl⟩
  | case6 => exact .malformed
  | case7 => exact .malformed
  | case8 units c cs _ _ _ _ ih => exact ih.of_suffix (List.suffix_cons _ _)

theorem reads_readText (depth : Nat) (cs : List Char) :
    Reads (fun _ => True) depth cs (readText cs) :=
  (reads_scanText depth [] cs).bind fun _ _ _ _ => .result trivial List.suffix_rfl

theorem splitFraction_suffix {digits rest : List Char}
    (h : splitFraction cs = some (digits, rest)) : rest <:+ cs := by
  unfold splitFraction at h
  split at h
  · next after =>
    simp only at h
    split at h
    · cases h
    · cases h
      exact (List.dropWhile_suffix _).trans (List.suffix_cons _ _)
  · cases h

theorem splitSign_suffix (cs : List Char) : (Number.splitSign cs).2 <:+ cs := by
  unfold Number.splitSign
  split
  · exact List.suffix_cons _ _
  · exact List.suffix_cons _ _
  · exact List.suffix_rfl

theorem splitExponent_suffix {exponent : Int} {rest : List Char}
    (h : splitExponent cs = some (exponent, rest)) : rest <:+ cs := by
  unfold splitExponent at h
  split at h
  · next e after =>
    split at h
    · simp only at h
      split at h
      · cases h
      · cases h
        exact ((List.dropWhile_suffix _).trans (splitSign_suffix after)).trans
          (List.suffix_cons _ _)
    · cases h
  · cases h

theorem reads_readNumber (depth : Nat) (negative : Bool) (cs : List Char) :
    Reads WellKeyed depth cs (readNumber negative cs) := by
  unfold readNumber
  extract_lets digits whole after n finish
  have hdigits : digits = cs.takeWhile Number.isDigit := rfl
  clear_value digits
  -- a zero in front stands alone, whatever digits follow it
  have hwhole : whole <+: digits := by
    simp only [whole]
    split
    · exact ⟨_, rfl⟩
    · exact List.prefix_rfl
  have hafter : after <:+ cs := List.drop_suffix _ _
  clear_value whole after
  have hlong (h : Number.digitLimit < whole.length) : HasLongRun cs := by
    have hrun : whole <+: cs := hwhole.trans (hdigits ▸ List.takeWhile_prefix _)
    refine ⟨whole, hrun.isInfix, fun c hc => ?_, h⟩
    exact List.mem_takeWhile_imp (hdigits ▸ hwhole.subset hc)
  have hfinish : Reads WellKeyed depth cs (finish ()) := by
    cases hfraction : splitFraction after with
    | none =>
      cases hexponent : splitExponent after with
      | none =>
        simp only [finish, hfraction, hexponent, Bool.or_self, Bool.false_eq_true, if_false]
        split
        · next h => exact .longNumber (hlong h)
        · exact .result (.int _) hafter
      | some r =>
        simp only [finish, hfraction, hexponent, Bool.or_true, if_true]
        exact .result (.float _) ((splitExponent_suffix hexponent).trans hafter)
    | some r =>
      have hrest := (splitFraction_suffix hfraction).trans hafter
      cases hexponent : splitExponent r.2 with
      | none =>
        simp only [finish, hfraction, hexponent, Bool.true_or, if_true]
        exact .result (.float _) hrest
      | some r' =>
        simp only [finish, hfraction, hexponent, Bool.true_or, if_true]
        exact .result (.float _) ((splitExponent_suffix hexponent).trans hrest)
  split
  · exact .malformed
  · exact hfinish

theorem afterWord?_suffix {word : String} {rest : List Char} (h : afterWord? word cs = some rest) :
    rest <:+ cs := by
  unfold afterWord? at h
  split at h
  · cases h
    exact List.drop_suffix _ _
  · cases h

theorem wellKeyed_ofRaw (s : RawText) : (ofRaw s).WellKeyed := by
  cases s with
  | text s => exact .text s
  | broken points => exact .brokenText points

theorem reads_readScalar (depth : Nat) (cs : List Char) :
    Reads WellKeyed depth cs (readScalar cs) := by
  unfold readScalar
  split
  · exact .malformed
  · next rest =>
    have htext : Reads (fun _ => True) depth ('"' :: rest) (readText rest) :=
      (reads_readText depth rest).of_suffix (List.suffix_cons _ _)
    exact htext.map fun _ _ => wellKeyed_ofRaw _
  split
  · next h => exact .result .null (afterWord?_suffix h)
  split
  · next h => exact .result (.bool true) (afterWord?_suffix h)
  split
  · next h => exact .result (.bool false) (afterWord?_suffix h)
  split
  · next h => exact .result (.float _) (afterWord?_suffix h)
  split
  · next h => exact .result (.float _) (afterWord?_suffix h)
  split
  · next h => exact .result (.float _) (afterWord?_suffix h)
  split
  · exact (reads_readNumber depth _ _).of_suffix (List.suffix_cons _ _)
  · exact reads_readNumber depth _ _

/-! ### Arrays and objects -/

theorem openings_pos {c : Char} (hc : isOpening c) (cs : List Char) : 0 < openings (c :: cs) :=
  List.countP_pos_iff.mpr ⟨c, List.mem_cons_self, hc⟩

-- Each reader calls the others with fewer steps, so one induction on the steps proves all three.
mutual

theorem reads_readValue (fuel depth : Nat) (cs : List Char) :
    Reads WellKeyed depth cs (readValue fuel depth cs) := by
  unfold readValue
  split
  · exact .malformed
  · next fuel cs =>
    split
    · exact .tooDeep (openings_pos rfl cs)
    · next h =>
      exact (Reads.result (.array (List.forall_mem_nil _)) (suffix_of_skipGap h)).nested rfl
    · next depth _ =>
      have hitems := reads_readItems fuel depth (List.forall_mem_nil _) (skipGap cs)
      exact (hitems.of_suffix (skipGap_suffix cs)).nested (c := '[') rfl
  · next fuel cs =>
    split
    · exact .tooDeep (openings_pos rfl cs)
    · next h =>
      have hempty : (object []).WellKeyed := .object List.nodup_nil (List.forall_mem_nil _)
      exact (Reads.result hempty (suffix_of_skipGap h)).nested rfl
    · next depth _ =>
      have hmembers := reads_readMembers fuel depth (List.forall_mem_nil _) (skipGap cs)
      exact (hmembers.of_suffix (skipGap_suffix cs)).nested (c := '\x7b') rfl
  · exact reads_readScalar _ cs

theorem reads_readItems (fuel depth : Nat) {items : List Json}
    (hitems : ∀ item ∈ items, item.WellKeyed) (cs : List Char) :
    Reads WellKeyed depth cs (readItems fuel depth items cs) := by
  unfold readItems
  split
  · exact .malformed
  · next fuel =>
    refine (reads_readValue fuel depth cs).bind fun item rest hitem _ => ?_
    have hall := List.forall_mem_cons.mpr ⟨hitem, hitems⟩
    simp only
    split
    · next h =>
      exact .result (.array fun item hmem => hall item (List.mem_reverse.mp hmem))
        (suffix_of_skipGap h)
    · next after h =>
      exact (reads_readItems fuel depth hall (skipGap after)).of_suffix
        ((skipGap_suffix after).trans (suffix_of_skipGap h))
    · exact .malformed

theorem reads_readMembers (fuel depth : Nat) {pairs : List (Key × Json)}
    (hpairs : ∀ p ∈ pairs, p.2.WellKeyed) (cs : List Char) :
    Reads WellKeyed depth cs (readMembers fuel depth pairs cs) := by
  unfold readMembers
  split
  · exact .malformed
  · next fuel cs =>
    have hkey : Reads (fun _ => True) depth ('"' :: cs) (readText cs) :=
      (reads_readText depth cs).of_suffix (List.suffix_cons _ _)
    refine hkey.bind fun key rest _ _ => ?_
    simp only
    split
    · next after h =>
      have hvalue := (reads_readValue fuel depth (skipGap after)).of_suffix
        ((skipGap_suffix after).trans (suffix_of_skipGap h))
      refine hvalue.bind fun value rest hvalue _ => ?_
      have hall : ∀ p ∈ (key, value) :: pairs, p.2.WellKeyed :=
        List.forall_mem_cons.mpr ⟨hvalue, hpairs⟩
      simp only
      split
      · next h =>
        exact .result (.ofPairs fun p hmem => hall p (List.mem_reverse.mp hmem))
          (suffix_of_skipGap h)
      · next after h =>
        exact (reads_readMembers fuel depth hall (skipGap after)).of_suffix
          ((skipGap_suffix after).trans (suffix_of_skipGap h))
      · exact .malformed
    · exact .malformed
  · exact .malformed

end

/-! ### Steps -/

theorem Reads.length_le {α : Type} {P : α → Prop} {x : Except ReadError (α × List Char)}
    (h : Reads P depth cs x) {r : α × List Char} (hr : x = .ok r) : r.2.length ≤ cs.length :=
  (h.ok r.1 r.2 hr).2.length_le

theorem length_skipGap_le (cs : List Char) : (skipGap cs).length ≤ cs.length :=
  (skipGap_suffix cs).length_le

theorem length_lt_of_skipGap {c : Char} {rest : List Char} (h : skipGap cs = c :: rest) :
    rest.length < cs.length := by
  have := length_skipGap_le cs
  rw [h] at this
  exact this

-- Of two steps for each character one goes to an opening bracket and one to what stands behind it;
-- the items and members therefore need one step more than a value that is as long.
mutual

theorem readValue_succ (fuel depth : Nat) (cs : List Char) (hfuel : 2 * cs.length < fuel) :
    readValue (fuel + 1) depth cs = readValue fuel depth cs := by
  match fuel with
  | fuel + 1 =>
    unfold readValue
    split
    · contradiction
    · next cs hsteps =>
      cases hsteps
      split
      · rfl
      · rfl
      · next depth _ =>
        have := length_skipGap_le cs
        rw [List.length_cons] at hfuel
        exact readItems_succ fuel depth [] (skipGap cs) (by omega)
    · next cs hsteps =>
      cases hsteps
      split
      · rfl
      · rfl
      · next depth _ =>
        have := length_skipGap_le cs
        rw [List.length_cons] at hfuel
        exact readMembers_succ fuel depth [] (skipGap cs) (by omega)
    · rfl

theorem readItems_succ (fuel depth : Nat) (items : List Json) (cs : List Char)
    (hfuel : 2 * cs.length + 1 < fuel) :
    readItems (fuel + 1) depth items cs = readItems fuel depth items cs := by
  match fuel with
  | fuel + 1 =>
    refine bind_congr_ok (readValue_succ fuel depth cs (by omega)) fun r hr => ?_
    have := (reads_readValue _ _ _).length_le hr
    simp only
    split
    · rfl
    · next after h =>
      have := length_lt_of_skipGap h
      have := length_skipGap_le after
      exact readItems_succ fuel depth _ (skipGap after) (by omega)
    · rfl

theorem readMembers_succ (fuel depth : Nat) (pairs : List (Key × Json)) (cs : List Char)
    (hfuel : 2 * cs.length + 1 < fuel) :
    readMembers (fuel + 1) depth pairs cs = readMembers fuel depth pairs cs := by
  match fuel with
  | fuel + 1 =>
    unfold readMembers
    split
    · contradiction
    · next cs hsteps =>
      cases hsteps
      refine bind_congr_ok rfl fun r hr => ?_
      have := (reads_readText 0 cs).length_le hr
      rw [List.length_cons] at hfuel
      simp only
      split
      · next after h =>
        have := length_lt_of_skipGap h
        have := length_skipGap_le after
        refine bind_congr_ok (readValue_succ fuel _ _ (by omega)) fun r hr => ?_
        have := (reads_readValue _ _ _).length_le hr
        split
        · rfl
        · next after h =>
          have := length_lt_of_skipGap h
          have := length_skipGap_le after
          exact readMembers_succ fuel _ _ (skipGap after) (by omega)
        · rfl
      · rfl
    · rfl

end

/-- More steps than two for each character of a text make no difference. -/
theorem readValue_of_le {fuel : Nat} (h : 2 * cs.length + 1 ≤ fuel) :
    readValue fuel depth cs = readValue (2 * cs.length + 1) depth cs := by
  induction fuel, h using Nat.le_induction with
  | base => rfl
  | succ fuel hle ih => rw [readValue_succ fuel depth cs (by omega), ih]

/-! ### Whole texts -/

section

variable {s : String}

/-- A text is read exactly when a value stands at its front with nothing but white space after
it. -/
theorem read_eq_ok_iff {value : Json} :
    read s = .ok value ↔
      ∃ rest, readValue (2 * s.toList.length + 1) nestingLimit (skipGap s.toList) =
          .ok (value, rest) ∧
        skipGap rest = [] := by
  simp only [read, bind_eq_ok_iff]
  constructor
  · rintro ⟨⟨a, rest⟩, hvalue, h⟩
    simp only at h
    split at h
    · next hrest =>
      cases h
      exact ⟨rest, hvalue, List.isEmpty_iff.mp hrest⟩
    · cases h
  · rintro ⟨rest, hvalue, hrest⟩
    exact ⟨_, hvalue, by rw [if_pos (List.isEmpty_iff.mpr hrest)]; rfl⟩

/-- All objects in a value that is read have distinct keys. -/
theorem wellKeyed_of_read {value : Json} (h : read s = .ok value) : value.WellKeyed := by
  obtain ⟨rest, hvalue, _⟩ := read_eq_ok_iff.mp h
  exact ((reads_readValue _ _ _).ok value rest hvalue).1

/-- The errors other than the one of malformed texts are those of the value at the front. -/
theorem readValue_of_read {e : ReadError} (h : read s = .error e) (he : e ≠ .malformed) :
    readValue (2 * s.toList.length + 1) nestingLimit (skipGap s.toList) = .error e := by
  rcases bind_eq_error_iff.mp h with hvalue | ⟨⟨a, rest⟩, _, h⟩
  · exact hvalue
  · simp only at h
    split at h
    · cases h
    · cases h
      contradiction

/-- A text that is refused for a number has more digits in a row than are read. -/
theorem hasLongRun_of_read (h : read s = .error .tooManyDigits) : HasLongRun s.toList :=
  ((reads_readValue _ _ _).of_suffix (skipGap_suffix _)).digits (readValue_of_read h nofun)

/-- A text that is refused for its nesting has more opening brackets than arrays and objects may be
nested. -/
theorem nestingLimit_lt_of_read (h : read s = .error .tooDeep) :
    nestingLimit < openings s.toList :=
  ((reads_readValue _ _ _).of_suffix (skipGap_suffix _)).nesting (readValue_of_read h nofun)

/-- A text that is not taken in, although it may be a document: it has a number that is too long, or
arrays and objects that are nested too deeply. -/
def IsOversized (s : String) : Prop :=
  read s = .error .tooManyDigits ∧ HasLongRun s.toList ∨
    read s = .error .tooDeep ∧ nestingLimit < openings s.toList

/-- The texts that are refused, but not as malformed. -/
theorem isOversized_iff : IsOversized s ↔ ∃ e, read s = .error e ∧ e ≠ .malformed := by
  constructor
  · rintro (⟨h, _⟩ | ⟨h, _⟩)
    · exact ⟨_, h, nofun⟩
    · exact ⟨_, h, nofun⟩
  · rintro ⟨e, h, he⟩
    cases e with
    | malformed => exact absurd rfl he
    | tooManyDigits => exact .inl ⟨h, hasLongRun_of_read h⟩
    | tooDeep => exact .inr ⟨h, nestingLimit_lt_of_read h⟩

end

end NumericControl.Json
