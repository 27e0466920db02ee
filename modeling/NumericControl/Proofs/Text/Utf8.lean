import Mathlib.Algebra.Group.Nat.Defs
import Mathlib.Tactic.SplitIfs
import NumericControl.Text.Utf8

/-!
# UTF-8 is read as it is written

A character is written in one to four bytes, by the range of its number: the first byte has a mark
for how many follow and the leading bits of the number, and each byte behind it has six more bits.
The reader takes the count and the bounds of the second byte from the first byte, so that it accepts
no surrogate, no longer form than needed and no number that is too large.  Both agree: bytes start
with a character exactly if they start with what is written for it, and bytes are the text that is
written in them or no text at all.

## Main definitions

* `Utf8.followers`, `Utf8.mark`, `Utf8.tailBytes` : the parts of a written character.

## Main results

* `Utf8.continuation_eq_ok_iff` : what is read behind the first byte.
* `Utf8.next_eq_ok_iff` : the first character of bytes.
* `Utf8.decode?_eq_some_iff` : the text of bytes.
-/

namespace NumericControl.Text.Utf8

open String (utf8EncodeChar)

/-- How many bytes follow the first one of a character with a given number. -/
def followers (v : Nat) : Nat :=
  if v < 0x80 then 0 else if v < 0x800 then 1 else if v < 0x10000 then 2 else 3

theorem followers_eq_zero_iff {v : Nat} : followers v = 0 ↔ v < 0x80 := by
  unfold followers
  split_ifs <;> simp <;> omega

theorem followers_eq_one_iff {v : Nat} : followers v = 1 ↔ 0x80 ≤ v ∧ v < 0x800 := by
  unfold followers
  split_ifs <;> simp <;> omega

theorem followers_eq_two_iff {v : Nat} : followers v = 2 ↔ 0x800 ≤ v ∧ v < 0x10000 := by
  unfold followers
  split_ifs <;> simp <;> omega

theorem followers_eq_three_iff {v : Nat} : followers v = 3 ↔ 0x10000 ≤ v := by
  unfold followers
  split_ifs <;> simp <;> omega

/-- The mark of the first byte for the number of bytes that follow. -/
def mark : Nat → Nat
  | 0 => 0
  | 1 => 0xC0
  | 2 => 0xE0
  | _ => 0xF0

/-- The last bytes of a character, six bits of its number in each. -/
def tailBytes (v : Nat) : Nat → List UInt8
  | 0 => []
  | n + 1 => UInt8.ofNat (v / 64 ^ n % 64 + 0x80) :: tailBytes v n

/-- The number of a character: no surrogate, and not too large. -/
def IsScalar (v : Nat) : Prop :=
  v < 0xD800 ∨ 0xDFFF < v ∧ v < 0x110000

theorem isScalar_toNat (c : Char) : IsScalar c.toNat :=
  c.valid

theorem toNat_ofNat {v : Nat} (h : IsScalar v) : (Char.ofNat v).toNat = v := by
  have hvalid : v.isValidChar := h
  rw [Char.ofNat, dif_pos hvalid]
  rfl

theorem ofNat_eq_iff {n : Nat} {b : UInt8} (h : n < 256) : UInt8.ofNat n = b ↔ n = b.toNat := by
  rw [UInt8.ofNat_eq_iff_mod_eq_toNat, Nat.mod_eq_of_lt h]

/-- A written character: its first byte, and the bytes that follow. -/
theorem utf8EncodeChar_eq (c : Char) :
    utf8EncodeChar c =
      UInt8.ofNat (c.toNat / 64 ^ followers c.toNat + mark (followers c.toNat)) ::
        tailBytes c.toNat (followers c.toNat) := by
  have hc := isScalar_toNat c
  have hval : c.val.toNat = c.toNat := rfl
  simp only [utf8EncodeChar, hval, followers]
  generalize c.toNat = v at hc ⊢
  unfold IsScalar at hc
  split_ifs <;> first | omega | simp [mark, tailBytes] <;> congr 1 <;> omega

/-! ### The bytes behind the first one -/

/-- The first of the following bytes has the highest bits. -/
theorem cons_eq_tailBytes_append_iff {b : UInt8} {bs : List UInt8} {v n : Nat} :
    (∃ rest, b :: bs = tailBytes v (n + 1) ++ rest) ↔
      v / 64 ^ n % 64 + 0x80 = b.toNat ∧ ∃ rest, bs = tailBytes v n ++ rest := by
  rw [← ofNat_eq_iff (by omega)]
  simp [tailBytes, eq_comm]

/-- Behind the first byte stand six bits in each byte, of which the first is within the bounds. -/
theorem continuation_eq_ok_iff {low high value used count : Nat} {bs : List UInt8} {v total : Nat}
    (hinside : count ≠ 0 → 0x80 ≤ low ∧ high ≤ 0xBF) :
    continuation low high value used count bs = .ok (v, total) ↔
      (∃ rest, bs = tailBytes v count ++ rest) ∧ total = used + count ∧ v / 64 ^ count = value ∧
        ∀ n, count = n + 1 → low ≤ v / 64 ^ n % 64 + 0x80 ∧ v / 64 ^ n % 64 + 0x80 ≤ high := by
  induction count generalizing low high value used bs with
  | zero =>
    have hnone : ∀ n, 0 = n + 1 →
        low ≤ v / 64 ^ n % 64 + 0x80 ∧ v / 64 ^ n % 64 + 0x80 ≤ high := nofun
    simp only [continuation, tailBytes, List.nil_append, Except.ok.injEq, Prod.mk.injEq,
      Nat.pow_zero, Nat.div_one, and_iff_left hnone]
    grind
  | succ n ih =>
    obtain ⟨hlow, hhigh⟩ := hinside n.succ_ne_zero
    have hpower : v / 64 ^ (n + 1) = v / 64 ^ n / 64 := by rw [Nat.div_div_eq_div_mul, Nat.pow_succ]
    cases bs with
    | nil => simp [continuation, tailBytes]
    | cons b bs =>
      have hbounds : ∀ m, n = m + 1 → 0x80 ≤ v / 64 ^ m % 64 + 0x80 ∧
          v / 64 ^ m % 64 + 0x80 ≤ 0xBF := fun m _ => by omega
      have hfirst : (∀ m, n + 1 = m + 1 → low ≤ v / 64 ^ m % 64 + 0x80 ∧
          v / 64 ^ m % 64 + 0x80 ≤ high) ↔
            low ≤ v / 64 ^ n % 64 + 0x80 ∧ v / 64 ^ n % 64 + 0x80 ≤ high := by simp
      rw [continuation, cons_eq_tailBytes_append_iff, hfirst, hpower]
      split
      · next hb =>
        have hb : low ≤ b.toNat ∧ b.toNat ≤ high := by simpa using hb
        rw [ih fun _ => ⟨Nat.le_refl _, Nat.le_refl _⟩, and_iff_left hbounds]
        constructor
        · rintro ⟨hrest, rfl, hv⟩
          exact ⟨⟨by omega, hrest⟩, by omega, by omega, by omega⟩
        · rintro ⟨⟨hbyte, hrest⟩, rfl, hv, -⟩
          exact ⟨hrest, by omega, by omega⟩
      · next hb =>
        have hb : ¬ (low ≤ b.toNat ∧ b.toNat ≤ high) := by simpa using hb
        constructor
        · nofun
        · rintro ⟨⟨hbyte, -⟩, -, -, hin⟩
          exact absurd (hbyte ▸ hin) hb

/-! ### The first byte -/

/-- The first byte gives how many bytes follow and the bounds of the second one. -/
theorem lead_eq_some_iff {b count low high : Nat} :
    lead b = some (count, low, high) ↔
      (b < 0x80 ∧ count = 0 ∧ low = 0 ∧ high = 0) ∨
      (0xC2 ≤ b ∧ b < 0xE0 ∧ count = 1 ∧ low = 0x80 ∧ high = 0xBF) ∨
      (0xE0 ≤ b ∧ b < 0xF0 ∧ count = 2 ∧ low = (if b = 0xE0 then 0xA0 else 0x80) ∧
        high = if b = 0xED then 0x9F else 0xBF) ∨
      (0xF0 ≤ b ∧ b < 0xF5 ∧ count = 3 ∧ low = (if b = 0xF0 then 0x90 else 0x80) ∧
        high = if b = 0xF4 then 0x8F else 0xBF) := by
  unfold lead
  grind

theorem lt_of_lead {b count low high : Nat} (h : lead b = some (count, low, high)) : b < 0xF5 := by
  have := lead_eq_some_iff.mp h
  omega

theorem inside_of_lead {b count low high : Nat} (h : lead b = some (count, low, high)) :
    count ≠ 0 → 0x80 ≤ low ∧ high ≤ 0xBF := by
  rcases lead_eq_some_iff.mp h with ⟨-, rfl, -⟩ | ⟨-, -, -, rfl, rfl⟩ | ⟨-, -, -, rfl, rfl⟩ |
    ⟨-, -, -, rfl, rfl⟩ <;> grind

/-- A first byte, the leading bits in it and a second byte within its bounds belong to the number
of a character in the shortest form, and to no other number. -/
theorem lead_eq_some_iff_followers {b v count low high : Nat} :
    (lead b = some (count, low, high) ∧ v / 64 ^ count = leadBits b count ∧
      ∀ n, count = n + 1 → low ≤ v / 64 ^ n % 64 + 0x80 ∧ v / 64 ^ n % 64 + 0x80 ≤ high) ↔
    lead b = some (count, low, high) ∧
      IsScalar v ∧ followers v = count ∧ b = v / 64 ^ count + mark count := by
  refine and_congr_right fun h => ?_
  unfold IsScalar
  rcases lead_eq_some_iff.mp h with ⟨hb, rfl, -⟩ | ⟨hb, hb', rfl, rfl, rfl⟩ |
    ⟨hb, hb', rfl, hlow, hhigh⟩ | ⟨hb, hb', rfl, hlow, hhigh⟩
  · simp only [Nat.pow_zero, Nat.div_one, leadBits, mark, followers_eq_zero_iff, Nat.right_eq_add,
      Nat.add_eq_zero_iff, Nat.succ_ne_self, and_false, false_implies, implies_true, and_true]
    omega
  · simp only [Nat.pow_one, forall_eq, Nat.pow_zero, Nat.div_one, leadBits, mark,
      followers_eq_one_iff, Nat.right_eq_add, Nat.le_add_left, Nat.reduceLeDiff, true_and]
    omega
  · simp only [Nat.reducePow, Nat.reduceEqDiff, forall_eq, Nat.pow_one, leadBits, mark,
      followers_eq_two_iff]
    split_ifs at hlow hhigh <;> omega
  · simp only [Nat.reducePow, Nat.reduceEqDiff, forall_eq, leadBits, mark, followers_eq_three_iff]
    split_ifs at hlow hhigh <;> omega

/-- The number of a character has a first byte. -/
theorem exists_lead {v : Nat} (h : IsScalar v) :
    ∃ low high,
      lead (v / 64 ^ followers v + mark (followers v)) = some (followers v, low, high) := by
  simp only [lead_eq_some_iff]
  unfold IsScalar at h
  have hcount : followers v = 0 ∨ followers v = 1 ∨ followers v = 2 ∨ followers v = 3 := by
    unfold followers
    split_ifs <;> simp
  rcases hcount with hcount | hcount | hcount | hcount <;> rw [hcount]
  · have := followers_eq_zero_iff.mp hcount
    exact ⟨0, 0, .inl ⟨by simp [mark]; omega, rfl, rfl, rfl⟩⟩
  · have := followers_eq_one_iff.mp hcount
    exact ⟨_, _, .inr (.inl ⟨by simp [mark]; omega, by simp [mark]; omega, rfl, rfl, rfl⟩)⟩
  · have := followers_eq_two_iff.mp hcount
    exact ⟨_, _, .inr (.inr (.inl ⟨by simp [mark], by simp [mark]; omega, rfl, rfl, rfl⟩))⟩
  · have := followers_eq_three_iff.mp hcount
    exact ⟨_, _, .inr (.inr (.inr ⟨by simp [mark], by simp [mark]; omega, rfl, rfl, rfl⟩))⟩

/-! ### The first character -/

theorem length_tailBytes (v n : Nat) : (tailBytes v n).length = n := by
  induction n with
  | zero => rfl
  | succ n ih => rw [tailBytes, List.length_cons, ih]

/-- Bytes start with a character exactly if they start with what is written for it. -/
theorem next_eq_ok_iff {b : UInt8} {bs : List UInt8} {c : Char} {used : Nat} :
    next b bs = .ok (c, used) ↔
      (∃ rest, b :: bs = utf8EncodeChar c ++ rest) ∧ used = (utf8EncodeChar c).length := by
  rw [utf8EncodeChar_eq, List.length_cons, length_tailBytes]
  constructor
  · intro h
    unfold next at h
    split at h
    · cases h
    · next count low high hlead =>
      split at h
      · next v total hread =>
        obtain ⟨rfl, rfl⟩ : Char.ofNat v = c ∧ total = used := by simpa using h
        obtain ⟨⟨rest, hrest⟩, rfl, hbits, hsecond⟩ :=
          (continuation_eq_ok_iff (inside_of_lead hlead)).mp hread
        obtain ⟨-, hscalar, rfl, hfirst⟩ :=
          lead_eq_some_iff_followers.mp ⟨hlead, hbits, hsecond⟩
        have hbyte : UInt8.ofNat (v / 64 ^ followers v + mark (followers v)) = b :=
          (ofNat_eq_iff (hfirst ▸ b.toNat_lt)).mpr hfirst.symm
        rw [toNat_ofNat hscalar, hbyte]
        exact ⟨⟨rest, by rw [hrest, List.cons_append]⟩, Nat.add_comm _ _⟩
      · cases h
  · rintro ⟨⟨rest, hbytes⟩, rfl⟩
    rw [List.cons_append, List.cons.injEq] at hbytes
    obtain ⟨hb, rfl⟩ := hbytes
    obtain ⟨low, high, hlead⟩ := exists_lead (isScalar_toNat c)
    have hfirst := (ofNat_eq_iff (by have := lt_of_lead hlead; omega)).mp hb.symm
    have hcharacter := lead_eq_some_iff_followers.mpr ⟨hlead, isScalar_toNat c, rfl, rfl⟩
    have hread : continuation low high _ 1 _ (tailBytes c.toNat (followers c.toNat) ++ rest) = _ :=
      (continuation_eq_ok_iff (inside_of_lead hlead)).mpr ⟨⟨rest, rfl⟩, rfl, hcharacter.2⟩
    rw [next, ← hfirst, hlead]
    simp only [hread, Char.ofNat_toNat, Nat.add_comm]

/-! ### Texts -/

theorem flatMap_utf8EncodeChar_eq_nil_iff {cs : List Char} :
    cs.flatMap utf8EncodeChar = [] ↔ cs = [] := by
  cases cs <;> simp [utf8EncodeChar_eq]

theorem decodeWith_nil_eq_some_iff (onBad : Option Char) (fuel : Nat) {read cs : List Char} :
    decodeWith onBad fuel [] read = some cs ↔
      ∃ tail, cs = read.reverse ++ tail ∧ [] = tail.flatMap utf8EncodeChar := by
  have hread : decodeWith onBad fuel [] read = some read.reverse := by cases fuel <;> rfl
  rw [hread, Option.some.injEq]
  constructor
  · rintro rfl
    exact ⟨[], (List.append_nil _).symm, rfl⟩
  · rintro ⟨tail, rfl, htail⟩
    rw [flatMap_utf8EncodeChar_eq_nil_iff.mp htail.symm, List.append_nil]

/-- The first character of some bytes is the first one of every text that they are written for. -/
theorem next_of_flatMap_cons {b : UInt8} {bs : List UInt8} {c : Char} {tail : List Char}
    (h : b :: bs = (c :: tail).flatMap utf8EncodeChar) :
    next b bs = .ok (c, (utf8EncodeChar c).length) :=
  next_eq_ok_iff.mpr ⟨⟨tail.flatMap utf8EncodeChar, h⟩, rfl⟩

/-- The texts of some bytes are the first character with the texts of the bytes behind it. -/
theorem eq_flatMap_iff_of_next {b : UInt8} {bs : List UInt8} {c : Char} {used : Nat}
    (h : next b bs = .ok (c, used)) {cs : List Char} :
    b :: bs = cs.flatMap utf8EncodeChar ↔
      ∃ tail, cs = c :: tail ∧ bs.drop (used - 1) = tail.flatMap utf8EncodeChar := by
  obtain ⟨⟨rest, hrest⟩, rfl⟩ := next_eq_ok_iff.mp h
  have hlength : 0 < (utf8EncodeChar c).length := by simp [utf8EncodeChar_eq]
  have hdrop : bs.drop ((utf8EncodeChar c).length - 1) = rest := by
    rw [← List.drop_succ_cons, Nat.sub_add_cancel hlength, hrest, List.drop_left]
  rw [hdrop]
  constructor
  · intro hbytes
    cases cs with
    | nil => cases hbytes
    | cons c' tail =>
      obtain ⟨rfl, -⟩ : c = c' ∧ _ := by
        simpa using h.symm.trans (next_of_flatMap_cons hbytes)
      exact ⟨tail, rfl, List.append_cancel_left (hrest.symm.trans hbytes)⟩
  · rintro ⟨tail, rfl, rfl⟩
    exact hrest

/-- Bytes that start with no character are those of no text. -/
theorem ne_flatMap_of_next {b : UInt8} {bs : List UInt8} {used : Nat}
    (h : next b bs = .error used) (cs : List Char) : b :: bs ≠ cs.flatMap utf8EncodeChar := by
  intro hbytes
  cases cs with
  | nil => cases hbytes
  | cons c tail =>
    rw [next_of_flatMap_cons hbytes] at h
    cases h

/-- All of the bytes are read exactly if they are those of the characters. -/
theorem decodeWith_eq_some_iff {fuel : Nat} {bytes : List UInt8} (hfuel : bytes.length ≤ fuel)
    {read cs : List Char} :
    decodeWith none fuel bytes read = some cs ↔
      ∃ tail, cs = read.reverse ++ tail ∧ bytes = tail.flatMap utf8EncodeChar := by
  induction fuel generalizing bytes read with
  | zero =>
    obtain rfl : bytes = [] := List.eq_nil_of_length_eq_zero (Nat.le_zero.mp hfuel)
    exact decodeWith_nil_eq_some_iff none 0
  | succ fuel ih =>
    cases bytes with
    | nil => exact decodeWith_nil_eq_some_iff none (fuel + 1)
    | cons b bs =>
      rw [decodeWith]
      split
      · next c used hread =>
        have hshorter : (bs.drop (used - 1)).length ≤ fuel := by
          rw [List.length_cons] at hfuel
          rw [List.length_drop]
          omega
        rw [ih hshorter]
        simp only [eq_flatMap_iff_of_next hread, List.reverse_cons, List.append_assoc,
          List.singleton_append]
        constructor
        · rintro ⟨tail, hcs, hrest⟩
          exact ⟨c :: tail, hcs, tail, rfl, hrest⟩
        · rintro ⟨_, hcs, tail, rfl, hrest⟩
          exact ⟨tail, hcs, hrest⟩
      · next used hread =>
        constructor
        · nofun
        · rintro ⟨tail, -, hbytes⟩
          exact absurd hbytes (ne_flatMap_of_next hread tail)

theorem toList_loop_eq (bytes : ByteArray) (i : Nat) (read : List UInt8) :
    ByteArray.toList.loop bytes i read = read.reverse ++ bytes.data.toList.drop i := by
  fun_induction ByteArray.toList.loop bytes i read with
  | case1 i read h ih =>
    have hi : i < bytes.data.toList.length := by simpa using h
    rw [ih, List.drop_eq_getElem_cons hi, List.reverse_cons, List.append_assoc]
    simp [ByteArray.get!, getElem!_pos, h]
  | case2 i read h =>
    rw [List.drop_eq_nil_of_le (by simpa using Nat.le_of_not_lt h), List.append_nil]

theorem toList_eq (bytes : ByteArray) : bytes.toList = bytes.data.toList := by
  simp [ByteArray.toList, toList_loop_eq]

/-- **Bytes are the text that is written in them, or no text.** -/
theorem decode?_eq_some_iff {bytes : ByteArray} {s : String} :
    decode? bytes = some s ↔ bytes = s.toUTF8 := by
  have hlength : bytes.data.toList.length ≤ bytes.size := Nat.le_refl _
  have hwritten : s.toUTF8.data.toList = s.toList.flatMap utf8EncodeChar := by
    rw [String.toUTF8_eq_toByteArray, ← s.ofList_toList, String.toByteArray_ofList]
    simp [List.utf8Encode]
  rw [decode?, toList_eq]
  simp only [Option.map_eq_some_iff, decodeWith_eq_some_iff hlength]
  constructor
  · rintro ⟨cs, ⟨tail, rfl, hbytes⟩, rfl⟩
    refine ByteArray.ext (Array.toList_inj.mp ?_)
    simpa [hbytes] using hwritten.symm
  · rintro rfl
    exact ⟨s.toList, ⟨s.toList, rfl, hwritten⟩, s.ofList_toList⟩

end NumericControl.Text.Utf8
