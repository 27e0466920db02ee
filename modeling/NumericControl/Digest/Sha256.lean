/-!
# SHA-256

The SHA-256 digest of a byte sequence: the message is padded to blocks of 64 bytes, and each block
is mixed into eight 32-bit words by 64 rounds.

## Main definitions

* `Sha256.digest` : the digest.
* `Sha256.hex` : the digest as text.
-/

namespace NumericControl.Sha256

/-- The round constants: the first 32 bits of the fractions of the cube roots of the first 64
primes. -/
def roundConstants : Array UInt32 :=
  #[
    0x428a2f98, 0x71374491, 0xb5c0fbcf, 0xe9b5dba5, 0x3956c25b, 0x59f111f1, 0x923f82a4, 0xab1c5ed5,
    0xd807aa98, 0x12835b01, 0x243185be, 0x550c7dc3, 0x72be5d74, 0x80deb1fe, 0x9bdc06a7, 0xc19bf174,
    0xe49b69c1, 0xefbe4786, 0x0fc19dc6, 0x240ca1cc, 0x2de92c6f, 0x4a7484aa, 0x5cb0a9dc, 0x76f988da,
    0x983e5152, 0xa831c66d, 0xb00327c8, 0xbf597fc7, 0xc6e00bf3, 0xd5a79147, 0x06ca6351, 0x14292967,
    0x27b70a85, 0x2e1b2138, 0x4d2c6dfc, 0x53380d13, 0x650a7354, 0x766a0abb, 0x81c2c92e, 0x92722c85,
    0xa2bfe8a1, 0xa81a664b, 0xc24b8b70, 0xc76c51a3, 0xd192e819, 0xd6990624, 0xf40e3585, 0x106aa070,
    0x19a4c116, 0x1e376c08, 0x2748774c, 0x34b0bcb5, 0x391c0cb3, 0x4ed8aa4a, 0x5b9cca4f, 0x682e6ff3,
    0x748f82ee, 0x78a5636f, 0x84c87814, 0x8cc70208, 0x90befffa, 0xa4506ceb, 0xbef9a3f7, 0xc67178f2
  ]

/-- The eight words that a digest is made of. -/
structure Words where
  a : UInt32
  b : UInt32
  c : UInt32
  d : UInt32
  e : UInt32
  f : UInt32
  g : UInt32
  h : UInt32

/-- The words before the first block: the first 32 bits of the fractions of the square roots of
the first eight primes. -/
def initial : Words :=
  ⟨0x6a09e667, 0xbb67ae85, 0x3c6ef372, 0xa54ff53a, 0x510e527f, 0x9b05688c, 0x1f83d9ab,
    0x5be0cd19⟩

/-- A word turned to the right. -/
def rotate (x : UInt32) (n : UInt32) : UInt32 :=
  (x >>> n) ||| (x <<< (32 - n))

/-- A message with a one bit, zeros up to eight bytes before a block end, and its length in
bits. -/
def pad (message : ByteArray) : ByteArray :=
  let length := message.size
  let zeros := (119 - length % 64) % 64
  let filled := (List.replicate zeros (0 : UInt8)).foldl ByteArray.push (message.push 0x80)
  (List.range 8).foldl
    (fun out i => out.push (UInt8.ofNat (8 * length / Nat.pow 256 (7 - i) % 256))) filled

/-- Four bytes as a word, the first byte being the highest. -/
def wordAt (bytes : ByteArray) (start : Nat) : UInt32 :=
  (List.range 4).foldl (fun w i => (w <<< 8) ||| (bytes.get! (start + i)).toUInt32) 0

/-- The sixteen words of a block extended to one for each round. -/
def schedule (bytes : ByteArray) (start : Nat) : Array UInt32 :=
  let first := (Array.range 16).map fun i => wordAt bytes (start + 4 * i)
  (List.range 48).foldl
    (fun w t =>
      let x := w.getD (t + 1) 0
      let y := w.getD (t + 14) 0
      let s0 := rotate x 7 ^^^ rotate x 18 ^^^ (x >>> 3)
      let s1 := rotate y 17 ^^^ rotate y 19 ^^^ (y >>> 10)
      w.push (w.getD t 0 + s0 + w.getD (t + 9) 0 + s1))
    first

/-- One round with its constant and its word of the schedule. -/
def round (w : Words) (constant word : UInt32) : Words :=
  let s1 := rotate w.e 6 ^^^ rotate w.e 11 ^^^ rotate w.e 25
  let choice := (w.e &&& w.f) ^^^ (~~~w.e &&& w.g)
  let t1 := w.h + s1 + choice + constant + word
  let s0 := rotate w.a 2 ^^^ rotate w.a 13 ^^^ rotate w.a 22
  let majority := (w.a &&& w.b) ^^^ (w.a &&& w.c) ^^^ (w.b &&& w.c)
  ⟨t1 + s0 + majority, w.a, w.b, w.c, w.d + t1, w.e, w.f, w.g⟩

/-- The words after one more block. -/
def mixBlock (bytes : ByteArray) (w : Words) (start : Nat) : Words :=
  let words := schedule bytes start
  let mixed := (List.range 64).foldl
    (fun v t => round v (roundConstants.getD t 0) (words.getD t 0)) w
  ⟨w.a + mixed.a, w.b + mixed.b, w.c + mixed.c, w.d + mixed.d, w.e + mixed.e, w.f + mixed.f,
    w.g + mixed.g, w.h + mixed.h⟩

/-- The digest of a message. -/
def digest (message : ByteArray) : Words :=
  let bytes := pad message
  (List.range (bytes.size / 64)).foldl (fun w i => mixBlock bytes w (64 * i)) initial

/-- A word in base sixteen. -/
def wordHex (w : UInt32) : String :=
  let digits := Nat.toDigits 16 w.toNat
  String.ofList (List.replicate (8 - digits.length) '0' ++ digits)

/-- The digest of a message as text. -/
def hex (message : ByteArray) : String :=
  let w := digest message
  String.join ([w.a, w.b, w.c, w.d, w.e, w.f, w.g, w.h].map wordHex)

end NumericControl.Sha256
