/-!
# Reading UTF-8

Bytes as text.  The encoding is strict: no surrogates, no overlong forms, nothing above
U+10FFFF.  A reader either refuses a text with a bad byte, or puts U+FFFD in the place of each
longest run of bytes that starts a character without finishing it.

## Main definitions

* `Utf8.next` : the first character of a byte sequence, or the length of the bad run in front.
* `Utf8.decode?`, `Utf8.decodeLossy` : the refusing and the replacing reader.
* `universalLineEnds` : a text whose line ends are all line feeds.
* `splitLines` : the lines of a text, each with its line feed.
-/

namespace NumericControl.Text

namespace Utf8

/-- How many bytes follow a first byte, and the range allowed for the second byte. -/
def lead (b : Nat) : Option (Nat × Nat × Nat) :=
  if b < 0x80 then some (0, 0, 0)
  else if b < 0xC2 then none
  else if b < 0xE0 then some (1, 0x80, 0xBF)
  else if b = 0xE0 then some (2, 0xA0, 0xBF)
  else if b = 0xED then some (2, 0x80, 0x9F)
  else if b < 0xF0 then some (2, 0x80, 0xBF)
  else if b = 0xF0 then some (3, 0x90, 0xBF)
  else if b < 0xF4 then some (3, 0x80, 0xBF)
  else if b = 0xF4 then some (3, 0x80, 0x8F)
  else none

/-- The value of the leading bits of a first byte with the given number of bytes after it. -/
def leadBits (b : Nat) : Nat → Nat
  | 0 => b
  | 1 => b % 0x20
  | 2 => b % 0x10
  | _ => b % 0x08

/-- Read up to `count` bytes after the first: the value so far and how many bytes belong to it.
The first of them lies between `low` and `high`, the others are continuation bytes. -/
def continuation (low high value used : Nat) : Nat → List UInt8 → Except Nat (Nat × Nat)
  | 0, _ => .ok (value, used)
  | _ + 1, [] => .error used
  | count + 1, b :: bs =>
    if low ≤ b.toNat && b.toNat ≤ high then
      continuation 0x80 0xBF (value * 64 + b.toNat % 64) (used + 1) count bs
    else .error used

/-- The first character with its length in bytes, or the length of the bad run in front. -/
def next (b : UInt8) (bs : List UInt8) : Except Nat (Char × Nat) :=
  match lead b.toNat with
  | none => .error 1
  | some (count, low, high) =>
    match continuation low high (leadBits b.toNat count) 1 count bs with
    | .ok (value, used) => .ok (Char.ofNat value, used)
    | .error used => .error used

/-- The characters of a byte sequence; a bad run is handed to `onBad`.  The first argument
bounds the number of steps. -/
def decodeWith (onBad : Option Char) : Nat → List UInt8 → List Char → Option (List Char)
  | _, [], read => some read.reverse
  | 0, _, read => some read.reverse
  | fuel + 1, b :: bs, read =>
    match next b bs with
    | .ok (c, used) => decodeWith onBad fuel (bs.drop (used - 1)) (c :: read)
    | .error used =>
      match onBad with
      | some c => decodeWith onBad fuel (bs.drop (used - 1)) (c :: read)
      | none => none

/-- The text of a byte sequence, if all of it is well formed. -/
def decode? (bytes : ByteArray) : Option String :=
  (decodeWith none bytes.size bytes.toList []).map String.ofList

/-- The text of a byte sequence, with U+FFFD for every bad run. -/
def decodeLossy (bytes : ByteArray) : String :=
  match decodeWith (some (Char.ofNat 0xFFFD)) bytes.size bytes.toList [] with
  | some cs => String.ofList cs
  | none => ""

end Utf8

/-- A text in which carriage returns, with or without a line feed after them, have become line
feeds. -/
def universalLineEnds : List Char → List Char
  | [] => []
  | '\r' :: '\n' :: cs => '\n' :: universalLineEnds cs
  | '\r' :: cs => '\n' :: universalLineEnds cs
  | c :: cs => c :: universalLineEnds cs

/-- The lines of a text, each with the line feed that ends it; what follows the last line feed
is a line if it is not empty. -/
def splitLines (line : List Char) : List Char → List (List Char)
  | [] => if line.isEmpty then [] else [line.reverse]
  | c :: cs =>
    if c == '\n' then (c :: line).reverse :: splitLines [] cs
    else splitLines (c :: line) cs

end NumericControl.Text
