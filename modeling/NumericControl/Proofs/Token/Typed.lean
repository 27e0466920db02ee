import Mathlib.Data.List.Forall2
import NumericControl.Proofs.Json.Plain
import NumericControl.Token.Record

/-!
# The types of the fields of token records

A record read from a document may hold any value in most of its fields.  The records of tokens hold
values of the type that their kind declares for a field: whole numbers, finite doubles, texts, the
values of a mode by their names, and arrays of a fixed length.  Whether a field admits a value is
told by its rule, and the rules are given apart from the types; every rule keeps each value of the
declared type as it is.

## Main definitions

* `FieldType`, `FieldType.Admits` : the types and their values.
* `TokenKind.signature` : the fields of a kind with their types.
* `Record.WellTyped` : a record whose fields have their declared types.

## Main results

* `TokenKind.signature_agrees` : the rule of a field keeps the values of its type.
* `TokenKind.default_admitted` : the default of a field is of its type.
* `FieldType.Admits.isPlain` : the values of all types are plain.
* `Record.wellTyped_ofToken` : a token is a well-typed record.
-/

namespace NumericControl

/-- The types of fields. -/
inductive FieldType where
  | whole
  | double
  | optionalDouble
  | text
  /-- A double for each axis. -/
  | axisValues
  /-- A double or nothing for each of the words I, J and K. -/
  | offsets
  | distanceMode
  | plane
  | units
  | lathe
  | spindle
  /-- A set of coolant supplies, as the number of its flags. -/
  | coolant

/-- The values of a type; all doubles in them are finite. -/
def FieldType.Admits : FieldType → Json → Prop
  | whole, value => ∃ n : Int, value = .int n
  | double, value => ∃ x : Float, x.isFinite ∧ value = .float x
  | optionalDouble, value =>
    ∃ x : Option Float, (∀ y ∈ x, y.isFinite) ∧ value = optionalField x
  | text, value => ∃ s : RawText, value = .ofRaw s
  | axisValues, value =>
    ∃ xs : AxisValues, (∀ x ∈ xs.toList, x.isFinite) ∧ value = .array (xs.toList.map .float)
  | offsets, value =>
    ∃ i j k : Option Float, (∀ x ∈ [i, j, k], ∀ y ∈ x, y.isFinite) ∧
      value = .array ([i, j, k].map optionalField)
  | distanceMode, value => ∃ mode : DistanceMode, value = .text mode.name
  | plane, value => ∃ p : Plane, value = .text p.code
  | units, value => ∃ u : Units, value = .text u.code
  | lathe, value => ∃ mode : LatheMode, value = .text mode.code
  | spindle, value => ∃ state : SpindleState, value = .text state.name
  | coolant, value => ∃ n : Nat, value = .int n

/-- The types of the fields that all tokens with axis values have. -/
def targetSignature : List (String × FieldType) :=
  [("values", .axisValues), ("axes", .text)]

/-- The fields of a kind after its command and line number with their types, in order. -/
def TokenKind.signature : TokenKind → List (String × FieldType)
  | .plain => []
  | .linear | .toolOffsets | .scaling => targetSignature
  | .arc =>
    targetSignature ++
      [("ijk", .offsets), ("radius", .optionalDouble), ("ijk_mode", .distanceMode),
        ("plane", .plane)]
  | .drill =>
    targetSignature ++
      [("r", .double), ("repeats", .whole), ("dwell", .double), ("peck", .double)]
  | .spindleSync => targetSignature ++ [("pitch", .double)]
  | .thread =>
    targetSignature ++
      [("pitch", .double), ("i", .double), ("j", .double), ("r", .double), ("k", .double),
        ("q", .double), ("h", .whole), ("e", .double), ("l", .whole)]
  | .coordinates => targetSignature ++ [("slot", .whole)]
  | .toolTable =>
    targetSignature ++ [("l", .whole), ("tool", .whole), ("radius", .optionalDouble)]
  | .toolOffset => [("h", .whole)]
  | .toolSelect => [("tool", .whole)]
  | .feed => [("feed", .double)]
  | .spindleSpeed => [("rpm", .double)]
  | .spindle => [("state", .spindle)]
  | .coolant => [("state", .coolant)]
  | .plane => [("plane", .plane)]
  | .distance | .arcDistance => [("mode", .distanceMode)]
  | .units => [("units", .units)]
  | .lathe => [("mode", .lathe)]
  | .dwell => [("seconds", .double)]
  | .comment => [("text", .text)]
  | .userCode => [("code", .whole), ("parameters", .text)]

/-- The line number and the fields of a record have their declared types. -/
structure Record.WellTyped (r : Record) : Prop where
  line : FieldType.whole.Admits r.line
  fields :
    List.Forall₂ (fun declared p => p.1 = .text declared.1 ∧ declared.2.Admits p.2)
      r.kind.signature r.fields

/-! ### Lists in step -/

section

variable {α β γ : Type} {R : α → β → Prop} {l : List α} {u : List β}

/-- What holds of the second list can be added to what relates two lists. -/
theorem forall₂_and_right {P : β → Prop} (hR : List.Forall₂ R l u) (hP : ∀ b ∈ u, P b) :
    List.Forall₂ (fun a b => R a b ∧ P b) l u := by
  have hboth := (List.forall₂_and_left _ _).mpr ⟨hP, hR.flip⟩
  exact hboth.flip.imp fun _ _ h => h.symm

theorem forall_of_forall₂ {P : β → Prop} (hR : List.Forall₂ R l u) (hP : ∀ a b, R a b → P b) :
    ∀ b ∈ u, P b := by
  induction hR with
  | nil => simp
  | cons h _ ih => exact List.forall_mem_cons.mpr ⟨hP _ _ h, ih⟩

/-- Two lists that are in step with a third one are in step with one another. -/
theorem forall₂_join {S : α → γ → Prop} {T : β → γ → Prop} {v : List γ}
    (hR : List.Forall₂ R l u) (hS : List.Forall₂ S l v)
    (hT : ∀ a b c, R a b → S a c → T b c) : List.Forall₂ T u v := by
  induction hR generalizing v with
  | nil =>
    cases hS
    exact .nil
  | cons h _ ih =>
    cases hS with
    | cons h' hS => exact .cons (hT _ _ _ h h') (ih hS)

end

/-! ### Types and plain values -/

theorem isPlain_optionalField {x : Option Float} (h : ∀ y ∈ x, y.isFinite) :
    (optionalField x).IsPlain := by
  cases x with
  | none => exact .null
  | some x => exact .float (h x rfl)

theorem FieldType.Admits.isPlain {type : FieldType} {value : Json} (h : type.Admits value) :
    value.IsPlain := by
  cases type with
  | whole | coolant =>
    obtain ⟨n, rfl⟩ := h
    exact .int n
  | double =>
    obtain ⟨x, hfinite, rfl⟩ := h
    exact .float hfinite
  | optionalDouble =>
    obtain ⟨x, hfinite, rfl⟩ := h
    exact isPlain_optionalField hfinite
  | text =>
    obtain ⟨s, rfl⟩ := h
    exact Json.isPlain_ofRaw s
  | axisValues =>
    obtain ⟨xs, hfinite, rfl⟩ := h
    refine .array (List.forall_mem_map.mpr fun x hx => ?_)
    exact .float (hfinite x hx)
  | offsets =>
    obtain ⟨i, j, k, hfinite, rfl⟩ := h
    refine .array (List.forall_mem_map.mpr fun x hx => ?_)
    exact isPlain_optionalField (hfinite x hx)
  | distanceMode | plane | units | lathe | spindle =>
    obtain ⟨_, rfl⟩ := h
    exact .text _

/-! ### Types and rules -/

/-- A rule keeps every value of a type. -/
def FieldRule.Keeps (rule : FieldRule) (type : FieldType) : Prop :=
  ∀ value, type.Admits value → rule.admit? value = some value

namespace FieldRule

theorem keeps_any (type : FieldType) : any.Keeps type :=
  fun _ _ => rfl

theorem keeps_distanceMode : distanceRule.Keeps .distanceMode := by
  rintro _ ⟨mode, rfl⟩
  cases mode <;> rfl

theorem keeps_plane : planeRule.Keeps .plane := by
  rintro _ ⟨p, rfl⟩
  cases p <;> rfl

theorem keeps_units : (oneOf ["G21", "G20"]).Keeps .units := by
  rintro _ ⟨u, rfl⟩
  cases u <;> rfl

theorem keeps_lathe : (oneOf ["G7", "G8"]).Keeps .lathe := by
  rintro _ ⟨mode, rfl⟩
  cases mode <;> rfl

theorem keeps_spindle : (oneOf ["off", "cw", "ccw"]).Keeps .spindle := by
  rintro _ ⟨state, rfl⟩
  cases state <;> rfl

theorem keeps_coolant : flags.Keeps .coolant := by
  rintro _ ⟨n, rfl⟩
  simp [admit?, flagNumber]

end FieldRule

/-- The types and the rules of a kind are given for the same fields, and the rule of a field keeps
the values of its type. -/
theorem TokenKind.signature_agrees (kind : TokenKind) :
    List.Forall₂ (fun declared field => declared.1 = field.name ∧ field.rule.Keeps declared.2)
      kind.signature kind.fields := by
  cases kind <;>
    simp [signature, fields, targetSignature, targetFields, FieldRule.keeps_any,
      FieldRule.keeps_distanceMode, FieldRule.keeps_plane, FieldRule.keeps_units,
      FieldRule.keeps_lathe, FieldRule.keeps_spindle, FieldRule.keeps_coolant]

/-- A field that is left out is of its declared type. -/
theorem TokenKind.default_admitted (kind : TokenKind) :
    List.Forall₂ (fun declared field => declared.2.Admits field.default)
      kind.signature kind.fields := by
  have hint (n : Int) : FieldType.whole.Admits (.int n) := ⟨n, rfl⟩
  have hzero : FieldType.double.Admits zeroField := ⟨0.0, by decide +kernel, rfl⟩
  have hone : FieldType.double.Admits (.float 1.0) := ⟨1.0, by decide +kernel, rfl⟩
  have hnone : FieldType.optionalDouble.Admits .null := ⟨none, nofun, rfl⟩
  have htext : FieldType.text.Admits (.text "") := ⟨"", rfl⟩
  have hvalues : FieldType.axisValues.Admits (.array (List.replicate 6 zeroField)) :=
    ⟨.zero, by decide +kernel, rfl⟩
  have hoffsets : FieldType.offsets.Admits (.array [.null, .null, .null]) :=
    ⟨none, none, none, by simp, rfl⟩
  cases kind
  case arc =>
    exact .cons hvalues (.cons htext (.cons hoffsets (.cons hnone
      (.cons ⟨.incremental, rfl⟩ (.cons ⟨.xy, rfl⟩ .nil)))))
  case spindle => exact .cons ⟨.off, rfl⟩ .nil
  case coolant => exact .cons ⟨0, rfl⟩ .nil
  case plane => exact .cons ⟨.xy, rfl⟩ .nil
  case distance => exact .cons ⟨.absolute, rfl⟩ .nil
  case arcDistance => exact .cons ⟨.incremental, rfl⟩ .nil
  case units => exact .cons ⟨.metric, rfl⟩ .nil
  case lathe => exact .cons ⟨.radius, rfl⟩ .nil
  all_goals
    simp [TokenKind.signature, TokenKind.fields, targetSignature, targetFields, hint, hzero, hone,
      hnone, htext, hvalues, -List.reduceReplicate]

/-! ### Typed tokens -/

namespace FieldType

/-- A value of a type, if all doubles in it are finite. -/
def Holds (type : FieldType) (value : Json) : Prop :=
  value.firstNotFinite? = none → type.Admits value

theorem holds_int (n : Int) : whole.Holds (.int n) :=
  fun _ => ⟨n, rfl⟩

theorem holds_float (x : Float) : double.Holds (.float x) := by
  intro h
  refine ⟨x, ?_, rfl⟩
  by_contra hx
  simp [Json.firstNotFinite?, hx] at h

theorem isFinite_of_optionalField {x : Option Float}
    (h : (optionalField x).firstNotFinite? = none) : ∀ y ∈ x, y.isFinite := by
  rintro y rfl
  obtain ⟨_, hfinite, ⟨⟩⟩ := holds_float y h
  exact hfinite

theorem holds_optionalField (x : Option Float) : optionalDouble.Holds (optionalField x) :=
  fun h => ⟨x, isFinite_of_optionalField h, rfl⟩

theorem holds_text (s : String) : text.Holds (.text s) :=
  fun _ => ⟨s, rfl⟩

theorem holds_values (xs : AxisValues) : axisValues.Holds (.array (xs.toList.map .float)) := by
  intro h
  refine ⟨xs, fun x hx => ?_, rfl⟩
  obtain ⟨_, hfinite, ⟨⟩⟩ :=
    holds_float x (Json.firstNotFiniteItem?_eq_none.mp h _ (List.mem_map_of_mem hx))
  exact hfinite

theorem holds_offsets (i j k : Option Float) :
    offsets.Holds (.array [optionalField i, optionalField j, optionalField k]) := by
  intro h
  refine ⟨i, j, k, fun x hx => ?_, rfl⟩
  exact isFinite_of_optionalField
    (Json.firstNotFiniteItem?_eq_none.mp h _ (List.mem_map_of_mem (f := optionalField) hx))

end FieldType

/-- A token holds values of the types that its kind declares. -/
theorem Token.Body.toFields_holds (body : Token.Body) :
    List.Forall₂ (fun declared p => p.1 = .text declared.1 ∧ declared.2.Holds p.2)
      body.kind.signature body.toFields := by
  have hdistance (mode : DistanceMode) : FieldType.distanceMode.Holds (.text mode.name) :=
    fun _ => ⟨mode, rfl⟩
  have hplane (p : Plane) : FieldType.plane.Holds (.text p.code) := fun _ => ⟨p, rfl⟩
  have hunits (u : Units) : FieldType.units.Holds (.text u.code) := fun _ => ⟨u, rfl⟩
  have hlathe (mode : LatheMode) : FieldType.lathe.Holds (.text mode.code) := fun _ => ⟨mode, rfl⟩
  have hspindle (state : SpindleState) : FieldType.spindle.Holds (.text state.name) :=
    fun _ => ⟨state, rfl⟩
  have hcoolant (state : Coolant) : FieldType.coolant.Holds (.int state.number) :=
    fun _ => ⟨state.number, rfl⟩
  cases body <;>
    simp [Token.Body.kind, Token.Body.toFields, TokenKind.signature, targetSignature,
      Target.toFields, FieldType.holds_int, FieldType.holds_float, FieldType.holds_optionalField,
      FieldType.holds_text, FieldType.holds_values, FieldType.holds_offsets, hdistance, hplane,
      hunits, hlathe, hspindle, hcoolant]

/-- A token without infinite values is a well-typed record. -/
theorem Record.wellTyped_ofToken {t : Token}
    (hfinite : (ofToken t).toJson.firstNotFinite? = none) : (ofToken t).WellTyped where
  line := ⟨t.line, rfl⟩
  fields := by
    have hfields : ∀ p ∈ t.body.toFields, p.2.firstNotFinite? = none := fun p hp =>
      Json.firstNotFiniteMember?_eq_none.mp hfinite p (by simp [ofToken, hp])
    exact (forall₂_and_right t.body.toFields_holds hfields).imp
      fun _ _ h => ⟨h.1.1, h.1.2 h.2⟩

end NumericControl
