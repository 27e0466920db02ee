import NumericControl.Json.Basic
import NumericControl.Token.Basic

/-!
# Token records

A token as a document object: its kind, its command, its line number and the fields of its kind.
A record read from a document may hold any value in a field, except that the fields with a fixed
set of values admit no other ones; a field that is left out has its default.

## Main definitions

* `TokenKind`, `TokenKind.fields` : the kinds and their fields.
* `Record` : a token as a document holds it.
* `Record.ofJson` : the record that an object writes, or what is wrong with it.
* `Record.ofToken`, `Record.toToken` : typed tokens as records and back.
-/

namespace NumericControl

/-- The kinds of token. -/
inductive TokenKind where
  | plain
  | linear
  | arc
  | drill
  | spindleSync
  | thread
  | coordinates
  | toolTable
  | toolOffset
  | toolOffsets
  | scaling
  | toolSelect
  | feed
  | spindleSpeed
  | spindle
  | coolant
  | plane
  | distance
  | arcDistance
  | units
  | lathe
  | dwell
  | comment
  | userCode
deriving DecidableEq, Repr

/-- Which values a field admits. -/
inductive FieldRule where
  | any
  /-- One of some texts. -/
  | oneOf (names : List String)
  /-- A number whose binary digits are flags. -/
  | flags

/-- A field of a record. -/
structure Field where
  name : String
  rule : FieldRule
  default : Json

namespace TokenKind

/-- All kinds. -/
def all : List TokenKind :=
  [plain, linear, arc, drill, spindleSync, thread, coordinates, toolTable, toolOffset, toolOffsets,
    scaling, toolSelect, feed, spindleSpeed, spindle, coolant, plane, distance, arcDistance, units,
    lathe, dwell, comment, userCode]

/-- The name of a kind in documents. -/
def name : TokenKind → String
  | plain => "GcodeToken"
  | linear => "LinearMotion"
  | arc => "Arc"
  | drill => "CannedDrill"
  | spindleSync => "SpindleSyncMotion"
  | thread => "ThreadCycle"
  | coordinates => "CoordinateSystem"
  | toolTable => "ToolTable"
  | toolOffset => "ToolOffset"
  | toolOffsets => "ToolOffsets"
  | scaling => "Scaling"
  | toolSelect => "ToolSelect"
  | feed => "Feedrate"
  | spindleSpeed => "SpindleRPM"
  | spindle => "SpindleStateToken"
  | coolant => "CoolantStateToken"
  | plane => "PlaneToken"
  | distance => "DistanceModeToken"
  | arcDistance => "IJKModeToken"
  | units => "UnitsToken"
  | lathe => "LatheModeToken"
  | dwell => "Dwell"
  | comment => "Comment"
  | userCode => "UserMCommand"

/-- The kind with a given name. -/
def ofName? (s : String) : Option TokenKind :=
  all.find? (·.name == s)

end TokenKind

/-! ### Fields -/

/-- A double as a document value. -/
def zeroField : Json := .float 0.0

/-- The fields that all tokens with axis values have. -/
def targetFields : List Field :=
  [⟨"values", .any, .array (List.replicate 6 zeroField)⟩, ⟨"axes", .any, .text ""⟩]

/-- The rule of a field that holds a distance mode. -/
def distanceRule : FieldRule := .oneOf ["absolute", "incremental"]

/-- The rule of a field that holds a plane. -/
def planeRule : FieldRule := .oneOf ["G17", "G18", "G19"]

/-- The fields of a kind after its command and line number, in order. -/
def TokenKind.fields : TokenKind → List Field
  | .plain => []
  | .linear | .toolOffsets | .scaling => targetFields
  | .arc =>
    targetFields ++
      [⟨"ijk", .any, .array [.null, .null, .null]⟩, ⟨"radius", .any, .null⟩,
        ⟨"ijk_mode", distanceRule, .text "incremental"⟩, ⟨"plane", planeRule, .text "G17"⟩]
  | .drill =>
    targetFields ++
      [⟨"r", .any, zeroField⟩, ⟨"repeats", .any, .int 1⟩, ⟨"dwell", .any, zeroField⟩,
        ⟨"peck", .any, zeroField⟩]
  | .spindleSync => targetFields ++ [⟨"pitch", .any, zeroField⟩]
  | .thread =>
    targetFields ++
      [⟨"pitch", .any, zeroField⟩, ⟨"i", .any, zeroField⟩, ⟨"j", .any, zeroField⟩,
        ⟨"r", .any, .float 1.0⟩, ⟨"k", .any, zeroField⟩, ⟨"q", .any, zeroField⟩,
        ⟨"h", .any, .int 0⟩, ⟨"e", .any, zeroField⟩, ⟨"l", .any, .int 0⟩]
  | .coordinates => targetFields ++ [⟨"slot", .any, .int 0⟩]
  | .toolTable =>
    targetFields ++ [⟨"l", .any, .int 1⟩, ⟨"tool", .any, .int 0⟩, ⟨"radius", .any, .null⟩]
  | .toolOffset => [⟨"h", .any, .int 0⟩]
  | .toolSelect => [⟨"tool", .any, .int 0⟩]
  | .feed => [⟨"feed", .any, zeroField⟩]
  | .spindleSpeed => [⟨"rpm", .any, zeroField⟩]
  | .spindle => [⟨"state", .oneOf ["off", "cw", "ccw"], .text "off"⟩]
  | .coolant => [⟨"state", .flags, .int 0⟩]
  | .plane => [⟨"plane", planeRule, .text "G17"⟩]
  | .distance => [⟨"mode", distanceRule, .text "absolute"⟩]
  | .arcDistance => [⟨"mode", distanceRule, .text "incremental"⟩]
  | .units => [⟨"units", .oneOf ["G21", "G20"], .text "G21"⟩]
  | .lathe => [⟨"mode", .oneOf ["G7", "G8"], .text "G8"⟩]
  | .dwell => [⟨"seconds", .any, zeroField⟩]
  | .comment => [⟨"text", .any, .text ""⟩]
  | .userCode => [⟨"code", .any, .int 0⟩, ⟨"parameters", .any, .text ""⟩]

/-- A number as a set of flags.  A negative number counts down from the top of the width that
its binary digits need, which is at least two. -/
def flagNumber (n : Int) : Int :=
  if 0 ≤ n then n
  else if -4 ≤ n then n + 4
  else n + Nat.pow 2 (Nat.log2 n.natAbs + 1)

/-- The value of a field as it is kept, if the rule of the field admits it. -/
def FieldRule.admit? (rule : FieldRule) (value : Json) : Option Json :=
  match rule, value with
  | .any, value => some value
  | .oneOf names, .text s => if names.contains s then some (.text s) else none
  | .oneOf _, _ => none
  | .flags, .int n => some (.int (flagNumber n))
  | .flags, .bool b => some (.int (if b then 1 else 0))
  | .flags, .float x =>
    if x == 0.0 then some (.int 0)
    else if x == 1.0 then some (.int 1)
    else if x == 2.0 then some (.int 2)
    else none
  | .flags, _ => none

/-! ### Records -/

/-- A token as a document holds it, with a value for every field of its kind, in order. -/
structure Record where
  kind : TokenKind
  command : Command
  line : Json
  fields : Members

/-- What is wrong with a record. -/
inductive RecordError where
  /-- It is no object. -/
  | notAnObject
  /-- Its kind is an array or an object, which cannot be looked up. -/
  | structuredKind
  | unknownKind (kind : Json)
  | unknownField (name : Key) (kind : TokenKind)
  | invalidField (name : String) (kind : TokenKind) (value : Json)
  /-- Its command or its line number is missing. -/
  | incomplete (kind : TokenKind)

namespace Record

/-- The record as a document object. -/
def toJson (r : Record) : Json :=
  .object <|
    ("kind", .text r.kind.name) :: ("command", .text r.command.text) :: ("line_number", r.line)
      :: r.fields

/-- The fields that all records have, without values of their own. -/
def sharedFields : List Field :=
  [⟨"command", .oneOf (Command.all.map Command.text), .null⟩, ⟨"line_number", .any, .null⟩]

/-- The field of a kind with a given key. -/
def fieldOf? (kind : TokenKind) (key : Key) : Option Field :=
  (sharedFields ++ kind.fields).find? fun field => .text field.name == key

/-- The members of a record with their values as they are kept, up to the first that the kind
does not have or whose value it does not admit. -/
def admitMembers (kind : TokenKind) : Members → Except RecordError Members
  | [] => .ok []
  | (key, value) :: rest =>
    if key = "kind" then admitMembers kind rest
    else
      match fieldOf? kind key with
      | none => .error (.unknownField key kind)
      | some field =>
        match field.rule.admit? value with
        | none => .error (.invalidField field.name kind value)
        | some kept => (admitMembers kind rest).map ((key, kept) :: ·)

/-- The kind that a value names. -/
def kindOf (value : Json) : Except RecordError TokenKind :=
  match value with
  | .array _ | .object _ => .error .structuredKind
  | .text s =>
    match TokenKind.ofName? s with
    | some kind => .ok kind
    | none => .error (.unknownKind value)
  | _ => .error (.unknownKind value)

/-- The record of a kind with the given members. -/
def ofMembers (kind : TokenKind) (members : Members) : Except RecordError Record :=
  match Members.get? "command" members, Members.get? "line_number" members with
  | some (.text s), some line =>
    match Command.ofText? s with
    | some command =>
      .ok
        { kind, command, line
          fields := kind.fields.map fun f =>
            (f.name, (Members.get? f.name members).getD f.default) }
    | none => .error (.incomplete kind)
  | _, _ => .error (.incomplete kind)

/-- The record that a document object writes. -/
def ofJson (value : Json) : Except RecordError Record :=
  match value with
  | .object members => do
    let kind ← kindOf ((Members.get? "kind" members).getD .null)
    ofMembers kind (← admitMembers kind members)
  | _ => .error .notAnObject

end Record

/-! ### Typed tokens -/

/-- A double, if it is there. -/
def optionalField : Option Float → Json
  | some x => .float x
  | none => .null

/-- The fields of axis values, with those that follow them. -/
def Target.toFields (t : Target) (more : Members) : Members :=
  ("values", .array (t.values.toList.map .float)) :: ("axes", .text (Axis.letters t.axes)) :: more

namespace Token.Body

/-- The kind of a token. -/
def kind : Token.Body → TokenKind
  | plain => .plain
  | linear _ => .linear
  | arc .. => .arc
  | drill .. => .drill
  | spindleSync .. => .spindleSync
  | thread .. => .thread
  | coordinates .. => .coordinates
  | toolTable .. => .toolTable
  | toolOffset _ => .toolOffset
  | toolOffsets _ => .toolOffsets
  | scaling _ => .scaling
  | toolSelect _ => .toolSelect
  | feed _ => .feed
  | spindleSpeed _ => .spindleSpeed
  | spindle _ => .spindle
  | coolant _ => .coolant
  | plane _ => .plane
  | distance _ => .distance
  | arcDistance _ => .arcDistance
  | units _ => .units
  | lathe _ => .lathe
  | dwell _ => .dwell
  | comment _ => .comment
  | userCode .. => .userCode

/-- The fields of a token, in the order of its kind. -/
def toFields : Token.Body → Members
  | plain => []
  | linear t | toolOffsets t | scaling t => t.toFields []
  | arc t w =>
    t.toFields
      [("ijk", .array [optionalField w.offsets.i, optionalField w.offsets.j,
          optionalField w.offsets.k]),
        ("radius", optionalField w.radius), ("ijk_mode", .text w.offsetMode.name),
        ("plane", .text w.plane.code)]
  | drill t w =>
    t.toFields
      [("r", .float w.plane), ("repeats", .int w.repeats), ("dwell", .float w.dwell),
        ("peck", .float w.peck)]
  | spindleSync t pitch => t.toFields [("pitch", .float pitch)]
  | thread t w =>
    t.toFields
      [("pitch", .float w.pitch), ("i", .float w.i), ("j", .float w.j), ("r", .float w.r),
        ("k", .float w.k), ("q", .float w.q), ("h", .int w.h), ("e", .float w.e), ("l", .int w.l)]
  | coordinates t slot => t.toFields [("slot", .int slot)]
  | toolTable t entry tool radius =>
    t.toFields [("l", .int entry), ("tool", .int tool), ("radius", optionalField radius)]
  | toolOffset h => [("h", .int h)]
  | toolSelect tool => [("tool", .int tool)]
  | feed value => [("feed", .float value)]
  | spindleSpeed value => [("rpm", .float value)]
  | spindle state => [("state", .text state.name)]
  | coolant state => [("state", .int state.number)]
  | plane p => [("plane", .text p.code)]
  | distance mode => [("mode", .text mode.name)]
  | arcDistance mode => [("mode", .text mode.name)]
  | units u => [("units", .text u.code)]
  | lathe mode => [("mode", .text mode.code)]
  | dwell seconds => [("seconds", .float seconds)]
  | comment text => [("text", .text text)]
  | userCode code parameters => [("code", .int code), ("parameters", .text parameters)]

end Token.Body

/-- Why a record is no typed token. -/
inductive Untyped where
  /-- Its axes hold a letter that names no axis. -/
  | unknownAxis
  /-- A field holds a value of another type. -/
  | otherType
deriving DecidableEq, Repr

namespace Record

/-- A token as a record. -/
def ofToken (t : Token) : Record :=
  ⟨t.body.kind, t.command, .int t.line, t.body.toFields⟩

/-- The value of a field. -/
def field (r : Record) (name : Key) : Json :=
  (Members.get? name r.fields).getD .null

/-- A number in a field. -/
def numberOf : Json → Except Untyped Float
  | .float x => .ok x
  | .int n => .ok (Float.ofInt n)
  | _ => .error .otherType

/-- A number in a field that may be empty. -/
def optionalNumberOf : Json → Except Untyped (Option Float)
  | .null => .ok none
  | value => (numberOf value).map some

/-- A whole number in a field. -/
def wholeOf : Json → Except Untyped Int
  | .int n => .ok n
  | _ => .error .otherType

/-- A text in a field. -/
def textOf : Json → Except Untyped String
  | .text s => .ok s
  | _ => .error .otherType

/-- One of several values by its name. -/
def namedOf {α : Type} (values : List α) (name : α → String) (value : Json) :
    Except Untyped α :=
  match value with
  | .text s =>
    match values.find? (name · == s) with
    | some a => .ok a
    | none => .error .otherType
  | _ => .error .otherType

/-- The distance mode in a field. -/
def distanceOf (value : Json) : Except Untyped DistanceMode :=
  namedOf [.absolute, .incremental] DistanceMode.name value

/-- The plane in a field. -/
def planeOf (value : Json) : Except Untyped Plane :=
  namedOf [.xy, .zx, .yz] Plane.code value

/-- The axes in a field. -/
def axesOf (value : Json) : Except Untyped (List Axis) := do
  let s ← textOf value
  s.toList.mapM fun l =>
    match Axis.ofLetter? l with
    | some axis => .ok axis
    | none => .error .unknownAxis

/-- The axis values in a field. -/
def valuesOf : Json → Except Untyped AxisValues
  | .array items => do
    match PerAxis.ofList? (← items.mapM numberOf) with
    | some values => .ok values
    | none => .error .otherType
  | _ => .error .otherType

/-- The axis values and axes of a record. -/
def targetOf (r : Record) : Except Untyped Target := do
  return ⟨← valuesOf (r.field "values"), ← axesOf (r.field "axes")⟩

/-- The three offsets in a field. -/
def offsetsOf : Json → Except Untyped (Triple (Option Float))
  | .array [i, j, k] => do
    return ⟨← optionalNumberOf i, ← optionalNumberOf j, ← optionalNumberOf k⟩
  | _ => .error .otherType

/-- The coolant in a field. -/
def coolantOf : Json → Except Untyped Coolant
  | .int (.ofNat flags) => .ok ⟨flags⟩
  | _ => .error .otherType

/-- What a record says. -/
def toBody (r : Record) : Except Untyped Token.Body :=
  match r.kind with
  | .plain => .ok .plain
  | .linear => return .linear (← r.targetOf)
  | .arc => do
    return .arc (← r.targetOf)
      { offsets := ← offsetsOf (r.field "ijk")
        radius := ← optionalNumberOf (r.field "radius")
        offsetMode := ← distanceOf (r.field "ijk_mode")
        plane := ← planeOf (r.field "plane") }
  | .drill => do
    return .drill (← r.targetOf)
      { plane := ← numberOf (r.field "r")
        repeats := ← wholeOf (r.field "repeats")
        dwell := ← numberOf (r.field "dwell")
        peck := ← numberOf (r.field "peck") }
  | .spindleSync => return .spindleSync (← r.targetOf) (← numberOf (r.field "pitch"))
  | .thread => do
    return .thread (← r.targetOf)
      { pitch := ← numberOf (r.field "pitch")
        i := ← numberOf (r.field "i")
        j := ← numberOf (r.field "j")
        r := ← numberOf (r.field "r")
        k := ← numberOf (r.field "k")
        q := ← numberOf (r.field "q")
        h := ← wholeOf (r.field "h")
        e := ← numberOf (r.field "e")
        l := ← wholeOf (r.field "l") }
  | .coordinates => return .coordinates (← r.targetOf) (← wholeOf (r.field "slot"))
  | .toolTable =>
    return .toolTable (← r.targetOf) (← wholeOf (r.field "l")) (← wholeOf (r.field "tool"))
      (← optionalNumberOf (r.field "radius"))
  | .toolOffset => return .toolOffset (← wholeOf (r.field "h"))
  | .toolOffsets => return .toolOffsets (← r.targetOf)
  | .scaling => return .scaling (← r.targetOf)
  | .toolSelect => return .toolSelect (← wholeOf (r.field "tool"))
  | .feed => return .feed (← numberOf (r.field "feed"))
  | .spindleSpeed => return .spindleSpeed (← numberOf (r.field "rpm"))
  | .spindle =>
    return .spindle
      (← namedOf [.off, .clockwise, .counterclockwise] SpindleState.name (r.field "state"))
  | .coolant => return .coolant (← coolantOf (r.field "state"))
  | .plane => return .plane (← planeOf (r.field "plane"))
  | .distance => return .distance (← distanceOf (r.field "mode"))
  | .arcDistance => return .arcDistance (← distanceOf (r.field "mode"))
  | .units => return .units (← namedOf [.metric, .imperial] Units.code (r.field "units"))
  | .lathe => return .lathe (← namedOf [.diameter, .radius] LatheMode.code (r.field "mode"))
  | .dwell => return .dwell (← numberOf (r.field "seconds"))
  | .comment => return .comment (← textOf (r.field "text"))
  | .userCode => return .userCode (← wholeOf (r.field "code")) (← textOf (r.field "parameters"))

/-- The typed token of a record. -/
def toToken (r : Record) : Except Untyped Token := do
  match r.line with
  | .int (.ofNat line) => return ⟨r.command, line, ← r.toBody⟩
  | _ => .error .otherType

/-- Equality of records. -/
def eqv (r s : Record) : Bool :=
  Json.eqv r.toJson s.toJson

end Record

end NumericControl
