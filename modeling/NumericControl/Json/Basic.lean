import NumericControl.Number.Binary

/-!
# Document values

The values that documents and settings are made of.  Whole numbers and doubles are different
values, and the members of an object keep the order in which their keys first came.  A document
can write half of a surrogate pair, which is no character; a text with one is held by its code
points.

## Main definitions

* `RawText` : a text as documents can write it.
* `Key` : the key of a member of an object.
* `Json` : a document value.
* `Members` : the members of an object, with `get?`, `insert` and `ofPairs`.
* `Json.items?`, `Json.depth` : what a value is made of, and how deep it is nested.
-/

namespace NumericControl

/-- Whether a code point is half of a surrogate pair. -/
def isSurrogate (point : Nat) : Bool :=
  decide (0xD800 ≤ point) && decide (point ≤ 0xDFFF)

/-- A text as documents can write it: a text, or the code points of one with half of a surrogate
pair. -/
inductive RawText where
  | text (s : String)
  | broken (points : List Nat)
deriving DecidableEq, Repr

instance : Coe String RawText := ⟨.text⟩

namespace RawText

/-- The code points of a text. -/
def points : RawText → List Nat
  | text s => s.toList.map Char.toNat
  | broken points => points

/-- The text with the given code points. -/
def ofPoints (points : List Nat) : RawText :=
  if points.any isSurrogate then broken points
  else text (String.ofList (points.map Char.ofNat))

/-- Whether one sequence of code points comes before another one or is the same. -/
def notAfter : List Nat → List Nat → Bool
  | [], _ => true
  | _ :: _, [] => false
  | a :: as, b :: bs => decide (a < b) || (a == b && notAfter as bs)

/-- The first of the characters that stand for halves of surrogate pairs where only characters can
be held.  They are assigned to nothing else. -/
def standInStart : Nat := 0x50000

/-- The text with a character that stands for every half of a surrogate pair. -/
def withStandIns : RawText → String
  | text s => s
  | broken points => String.ofList <| points.map fun n =>
      Char.ofNat (if isSurrogate n then standInStart + n else n)

/-- The text with halves of surrogate pairs for the characters that stand for them. -/
def ofStandIns (s : String) : RawText :=
  ofPoints <| s.toList.map fun c =>
    if isSurrogate (c.toNat - standInStart) then c.toNat - standInStart else c.toNat

/-- One text after another one. -/
def append : RawText → RawText → RawText
  | text s, text t => text (s ++ t)
  | s, t => ofPoints (s.points ++ t.points)

instance : Append RawText := ⟨append⟩

/-- The parts of a sequence between the places of a mark. -/
def partsBetween (mark : Nat) : List Nat → List (List Nat)
  | [] => [[]]
  | n :: rest =>
    match partsBetween mark rest with
    | part :: parts => if n = mark then [] :: part :: parts else (n :: part) :: parts
    | [] => [[n]]

/-- The parts of a text between its dots. -/
def dottedParts : RawText → List RawText
  | text s => (s.splitOn ".").map text
  | broken points => (partsBetween '.'.toNat points).map ofPoints

end RawText

/-- The key of a member of an object. -/
abbrev Key := RawText

/-- A document value. -/
inductive Json where
  | null
  | bool (b : Bool)
  | int (n : Int)
  | float (x : Float)
  | text (s : String)
  /-- A text with half of a surrogate pair, by its code points. -/
  | brokenText (points : List Nat)
  | array (items : List Json)
  | object (members : List (Key × Json))
deriving Inhabited

/-- The members of an object, in the order of their keys. -/
abbrev Members := List (Key × Json)

namespace Members

/-- The value of a key. -/
def get? (key : Key) : Members → Option Json
  | [] => none
  | (k, v) :: rest => if k = key then some v else get? key rest

/-- The members with a value for a key: in place of its old value, or at the end. -/
def insert (key : Key) (value : Json) : Members → Members
  | [] => [(key, value)]
  | (k, v) :: rest => if k = key then (k, value) :: rest else (k, v) :: insert key value rest

/-- Whether a key has a value. -/
def contains (key : Key) (m : Members) : Bool :=
  (get? key m).isSome

/-- The members written by a sequence of pairs: the last value of a key counts, at the place
where the key came first. -/
def ofPairs (pairs : List (Key × Json)) : Members :=
  pairs.foldl (fun m p => insert p.1 p.2 m) []

theorem get?_insert_self (key : Key) (value : Json) (m : Members) :
    get? key (insert key value m) = some value := by
  induction m with
  | nil => simp [insert, get?]
  | cons p rest ih =>
    obtain ⟨k, v⟩ := p
    by_cases h : k = key <;> simp [insert, get?, h, ih]

theorem get?_insert_of_ne {key other : Key} (h : other ≠ key) (value : Json) (m : Members) :
    get? other (insert key value m) = get? other m := by
  induction m with
  | nil => simp [insert, get?, h.symm]
  | cons p rest ih =>
    obtain ⟨k, v⟩ := p
    grind [insert, get?]

end Members

namespace Json

/-- A text as a value. -/
def ofRaw : RawText → Json
  | .text s => text s
  | .broken points => brokenText points

/-- The text that a value is. -/
def raw? : Json → Option RawText
  | text s => some (.text s)
  | brokenText points => some (.broken points)
  | _ => none

/-- The value of a key, if the value is an object that has it. -/
def member? (key : Key) : Json → Option Json
  | .object m => Members.get? key m
  | _ => none

mutual

/-- Equality of document values; numbers are compared within their own kind. -/
def eqv : Json → Json → Bool
  | .null, .null => true
  | .bool a, .bool b => a == b
  | .int a, .int b => a == b
  | .float a, .float b => a == b
  | .text a, .text b => a == b
  | .brokenText a, .brokenText b => a == b
  | .array a, .array b => eqvItems a b
  | .object a, .object b => eqvMembers a b
  | _, _ => false

/-- Equality of two sequences of values. -/
def eqvItems : List Json → List Json → Bool
  | [], [] => true
  | a :: as, b :: bs => eqv a b && eqvItems as bs
  | _, _ => false

/-- Equality of two sequences of members, in the same order. -/
def eqvMembers : List (Key × Json) → List (Key × Json) → Bool
  | [], [] => true
  | (k, a) :: as, (l, b) :: bs => k == l && eqv a b && eqvMembers as bs
  | _, _ => false

end

/-- The items of a value: those of an array, the characters of a text, the keys of an object. -/
def items? : Json → Option (List Json)
  | .array items => some items
  | .text s => some (s.toList.map fun c => .text (String.singleton c))
  | .brokenText points => some (points.map fun point => ofRaw (.ofPoints [point]))
  | .object members => some (members.map fun p => ofRaw p.1)
  | _ => none

mutual

/-- How many arrays and objects are inside one another. -/
def depth : Json → Nat
  | .array items => itemsDepth items + 1
  | .object members => membersDepth members + 1
  | _ => 0

/-- The depth of the deepest item. -/
def itemsDepth : List Json → Nat
  | [] => 0
  | item :: items =>
    let rest := itemsDepth items
    if rest < item.depth then item.depth else rest

/-- The depth of the deepest member. -/
def membersDepth : List (Key × Json) → Nat
  | [] => 0
  | (_, value) :: members =>
    let rest := membersDepth members
    if rest < value.depth then value.depth else rest

end

/-- The whole number that a value equals, counting truth values as one and zero and doubles
without a fraction as whole. -/
def wholeValue? : Json → Option Int
  | .bool b => some (if b then 1 else 0)
  | .int n => some n
  | .float x =>
    match Number.truncate x with
    | .ok n => if Float.ofInt n == x then some n else none
    | .error _ => none
  | _ => none

end Json

end NumericControl
