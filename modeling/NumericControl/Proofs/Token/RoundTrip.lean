import NumericControl.Proofs.Outcome
import NumericControl.Proofs.Token.Typed
import NumericControl.Token.Document

/-!
# Token documents are read back

A list of well-typed records is written as one document and read back as the same list, kind by
kind and field by field.  The document of such a list is plain, and all that is asked of its text is
that a plain value is read as it was written.  This is asked of the document at hand alone: texts
are read up to a depth of nesting and a number of digits, and two halves of a surrogate pair side by
side are read as one character, so it does not hold of all plain values at once.

## Main results

* `Record.WellTyped.ofJson_toJson` : a well-typed record is read from the object that it writes.
* `Record.toToken_ofToken` : a typed token is read from its record.
* `Document.isPlain_toJson` : the document of well-typed records is plain.
* `Document.read_write` : lists of well-typed records survive being written and read.
-/

namespace NumericControl

/-! ### The fields of a record -/

/-- An item of a list is found by its key if the keys are distinct. -/
theorem find?_eq_some_of_nodup {α β : Type} [BEq β] [LawfulBEq β] {l : List α} {key : α → β}
    (hkeys : (l.map key).Nodup) {a : α} (h : a ∈ l) : l.find? (key · == key a) = some a := by
  obtain ⟨before, after, rfl⟩ := List.append_of_mem h
  refine List.find?_eq_some_iff_append.mpr ⟨beq_self_eq_true _, before, after, rfl, ?_⟩
  intro other hother
  rw [List.map_append, List.nodup_append] at hkeys
  have hne : key other ≠ key a := hkeys.2.2 _ (List.mem_map_of_mem hother) _ (by simp)
  simpa using hne

namespace TokenKind

theorem mem_kinds (kind : TokenKind) : kind ∈ all := by
  cases kind <;> decide

theorem ofName?_name (kind : TokenKind) : ofName? kind.name = some kind :=
  find?_eq_some_of_nodup (by decide +kernel) kind.mem_kinds

/-- All fields of the records of a kind, without the kind. -/
def allFields (kind : TokenKind) : List Field :=
  Record.sharedFields ++ kind.fields

/-- No two fields of a kind have one name, and none is named like the kind. -/
theorem nodup_names (kind : TokenKind) : ("kind" :: kind.allFields.map Field.name).Nodup := by
  cases kind <;> decide

end TokenKind

theorem Command.ofText?_text (c : Command) : ofText? c.text = some c :=
  find?_eq_some_of_nodup (by decide +kernel) c.mem_all

/-- A member is named like a field, and the field keeps its value. -/
def Field.Fits (field : Field) (p : Key × Json) : Prop :=
  p.1 = .text field.name ∧ field.rule.admit? p.2 = some p.2

namespace Record

variable {r : Record} {kind : TokenKind}

/-- The members of the object of a record behind its kind. -/
def members (r : Record) : Members :=
  ("command", .text r.command.text) :: ("line_number", r.line) :: r.fields

theorem WellTyped.fields_fit (h : r.WellTyped) : List.Forall₂ Field.Fits r.kind.fields r.fields :=
  forall₂_join r.kind.signature_agrees h.fields fun _ _ p hfield hp =>
    ⟨hfield.1 ▸ hp.1, hfield.2 p.2 hp.2⟩

theorem WellTyped.members_fit (h : r.WellTyped) :
    List.Forall₂ Field.Fits r.kind.allFields r.members := by
  have hcommand : (Command.all.map Command.text).contains r.command.text :=
    List.contains_iff_mem.mpr (List.mem_map_of_mem r.command.mem_all)
  exact .cons ⟨rfl, if_pos hcommand⟩ (.cons ⟨rfl, rfl⟩ h.fields_fit)

/-- The keys of a well-typed record are the names of its fields. -/
theorem WellTyped.keys_eq (h : r.WellTyped) :
    r.members.map Prod.fst = (r.kind.allFields.map Field.name).map RawText.text := by
  rw [List.map_map, ← List.forall₂_eq_eq_eq, List.forall₂_map_left_iff, List.forall₂_map_right_iff]
  exact h.members_fit.flip.imp fun _ _ hfits => hfits.1

theorem WellTyped.nodup_keys (h : r.WellTyped) :
    (RawText.text "kind" :: r.members.map Prod.fst).Nodup := by
  rw [h.keys_eq, ← List.map_cons]
  exact r.kind.nodup_names.map fun _ _ => RawText.text.inj

/-! ### Reading a record -/

/-- A field is found by its name. -/
theorem fieldOf?_name {field : Field} (h : field ∈ kind.allFields) :
    fieldOf? kind (.text field.name) = some field := by
  have hnames : (kind.allFields.map Field.name).Nodup := (List.nodup_cons.mp kind.nodup_names).2
  have hkeys := hnames.map (f := RawText.text) fun _ _ => RawText.text.inj
  rw [List.map_map] at hkeys
  exact find?_eq_some_of_nodup hkeys h

theorem name_ne_kind {field : Field} (h : field ∈ kind.allFields) :
    RawText.text field.name ≠ "kind" := by
  intro hname
  have hmem := List.mem_map_of_mem (f := Field.name) h
  rw [RawText.text.inj hname] at hmem
  exact (List.nodup_cons.mp kind.nodup_names).1 hmem

/-- Members that fit some fields of a kind are kept as they are. -/
theorem admitMembers_eq_self {fields : List Field} {members : Members}
    (h : List.Forall₂ Field.Fits fields members)
    (hfields : ∀ field ∈ fields, field ∈ kind.allFields) :
    admitMembers kind members = .ok members := by
  induction h with
  | nil => rfl
  | @cons field p fields members hfits _ ih =>
    obtain ⟨hfield, hrest⟩ := List.forall_mem_cons.mp hfields
    obtain ⟨key, value⟩ := p
    obtain ⟨rfl, hkept⟩ := hfits
    simp only [admitMembers, if_neg (name_ne_kind hfield), fieldOf?_name hfield, hkept, ih hrest]
    rfl

/-- The fields of a well-typed record are found by their names. -/
theorem WellTyped.fields_eq (h : r.WellTyped) :
    r.kind.fields.map (fun f =>
      (RawText.text f.name, (Members.get? f.name r.members).getD f.default)) = r.fields := by
  have hkeys : (r.members.map Prod.fst).Nodup := (List.nodup_cons.mp h.nodup_keys).2
  have hfound : ∀ p ∈ r.fields, Members.get? p.1 r.members = some p.2 := fun p hp =>
    Members.get?_of_mem hkeys (by simp [members, hp])
  rw [← List.forall₂_eq_eq_eq, List.forall₂_map_left_iff]
  refine (forall₂_and_right h.fields_fit hfound).imp ?_
  rintro field ⟨key, value⟩ ⟨⟨rfl, -⟩, hvalue⟩
  rw [hvalue, Option.getD_some]

/-- The command, the line number and the fields of a well-typed record are read off its
members. -/
theorem WellTyped.ofMembers_members (h : r.WellTyped) : ofMembers r.kind r.members = .ok r := by
  have hcommand : Members.get? "command" r.members = some (.text r.command.text) := rfl
  have hline : Members.get? "line_number" r.members = some r.line := rfl
  simp only [ofMembers, hcommand, hline, Command.ofText?_text, h.fields_eq]

/-- A well-typed record is read from the object that it writes. -/
theorem WellTyped.ofJson_toJson (h : r.WellTyped) : ofJson r.toJson = .ok r := by
  have hkind : kindOf (.text r.kind.name) = .ok r.kind := by
    simp only [kindOf, TokenKind.ofName?_name]
  have hmembers : admitMembers r.kind r.members = .ok r.members :=
    admitMembers_eq_self h.members_fit fun _ => id
  calc ofJson r.toJson
    _ = (kindOf (.text r.kind.name) >>= fun kind =>
          admitMembers kind (("kind", .text r.kind.name) :: r.members) >>= ofMembers kind) := rfl
    _ = admitMembers r.kind (("kind", .text r.kind.name) :: r.members) >>= ofMembers r.kind := by
      rw [hkind]
      rfl
    _ = admitMembers r.kind r.members >>= ofMembers r.kind := by
      rw [admitMembers, if_pos rfl]
    _ = ofMembers r.kind r.members := by
      rw [hmembers]
      rfl
    _ = .ok r := h.ofMembers_members

/-- The object of a well-typed record is plain. -/
theorem WellTyped.isPlain_toJson (h : r.WellTyped) : r.toJson.IsPlain := by
  have hfields : ∀ p ∈ r.fields, p.2.IsPlain :=
    forall_of_forall₂ h.fields fun _ _ hp => hp.2.isPlain
  refine .object h.nodup_keys ?_
  simpa using ⟨.text _, .text _, h.line.isPlain, fun key value hp => hfields (key, value) hp⟩

/-! ### Typed tokens -/

theorem optionalNumberOf_optionalField (x : Option Float) :
    optionalNumberOf (optionalField x) = .ok x := by
  cases x <;> rfl

theorem distanceOf_name (mode : DistanceMode) : distanceOf (.text mode.name) = .ok mode := by
  cases mode <;> rfl

theorem planeOf_code (p : Plane) : planeOf (.text p.code) = .ok p := by
  cases p <;> rfl

theorem coolantOf_number (state : Coolant) : coolantOf (.int state.number) = .ok state :=
  rfl

theorem axesOf_letters (axes : List Axis) : axesOf (.text (Axis.letters axes)) = .ok axes := by
  change (String.ofList (axes.map Axis.letter)).toList.mapM _ = _
  rw [String.toList_ofList]
  refine mapM_map_eq_ok fun axis _ => ?_
  rw [Axis.ofLetter?_letter]

/-- The fields that follow the axis values. -/
theorem get?_toFields (t : Target) (more : Members) {name : String}
    (hname : name ∉ targetFields.map Field.name) :
    Members.get? name (t.toFields more) = Members.get? name more := by
  simp only [targetFields, List.map_cons, List.map_nil, List.mem_cons, not_or] at hname
  simp [Target.toFields, Members.get?, Ne.symm hname.1, Ne.symm hname.2.1]

theorem targetOf_toFields (kind : TokenKind) (c : Command) (line : Json) (t : Target)
    (more : Members) : targetOf ⟨kind, c, line, t.toFields more⟩ = .ok t := by
  have hvalues : valuesOf (field ⟨kind, c, line, t.toFields more⟩ "values") = .ok t.values := rfl
  have haxes : axesOf (field ⟨kind, c, line, t.toFields more⟩ "axes") = .ok t.axes :=
    axesOf_letters t.axes
  simp only [targetOf, hvalues, haxes]
  rfl

theorem toBody_ofToken (t : Token) : (ofToken t).toBody = .ok t.body := by
  obtain ⟨command, line, body⟩ := t
  have hspindle (state : SpindleState) :
      namedOf [.off, .clockwise, .counterclockwise] SpindleState.name (.text state.name) =
        .ok state := by
    cases state <;> rfl
  have hunits (u : Units) : namedOf [.metric, .imperial] Units.code (.text u.code) = .ok u := by
    cases u <;> rfl
  have hlathe (mode : LatheMode) :
      namedOf [.diameter, .radius] LatheMode.code (.text mode.code) = .ok mode := by
    cases mode <;> rfl
  cases body <;>
    simp [toBody, ofToken, Token.Body.kind, Token.Body.toFields, targetOf_toFields, field,
      get?_toFields, targetFields, Members.get?, numberOf, wholeOf, textOf, offsetsOf,
      optionalNumberOf_optionalField, distanceOf_name, planeOf_code, coolantOf_number, hspindle,
      hunits, hlathe, bind, Except.bind, pure, Except.pure]

/-- A token is read from its record. -/
theorem toToken_ofToken (t : Token) : toToken (ofToken t) = .ok t := by
  have hbody := toBody_ofToken t
  simp only [toToken, hbody]
  rfl

end Record

/-! ### Documents -/

namespace Document

variable {records : List Record}

theorem isPlain_toJson (htyped : ∀ r ∈ records, r.WellTyped) : (toJson records).IsPlain := by
  have hkeys : (["format", "version", "tokens"].map RawText.text).Nodup := by decide
  refine .object hkeys ?_
  have htokens : (Json.array (records.map Record.toJson)).IsPlain :=
    .array (List.forall_mem_map.mpr fun r hr => (htyped r hr).isPlain_toJson)
  simpa using ⟨.text _, .int _, htokens⟩

/-- The records of a document are the ones that it was made of. -/
theorem ofJson_toJson (htyped : ∀ r ∈ records, r.WellTyped) :
    ofJson (toJson records) = .ok records := by
  suffices h : (records.map Record.toJson).mapM
      (fun item => (Record.ofJson item).mapError DocumentError.record) = .ok records from h
  refine mapM_map_eq_ok fun r hr => ?_
  rw [(htyped r hr).ofJson_toJson]
  rfl

/-- **Token documents lose nothing.** Records whose fields have their declared types are written,
and the text is read as the same records in the same order; if they are the records of typed tokens
then these come back too.  All that is used of the text of a value is that the document, which is
plain, is read as it was written. -/
theorem read_write (indent : Option String) (htyped : ∀ r ∈ records, r.WellTyped)
    (hjson : (toJson records).IsPlain →
      Json.read ((toJson records).write indent) = .ok (toJson records)) :
    ∃ text, write indent records = .ok text ∧ read text = .ok records ∧
      ∀ tokens : List Token, records = tokens.map Record.ofToken →
        records.mapM Record.toToken = .ok tokens := by
  have hplain := isPlain_toJson htyped
  refine ⟨(toJson records).write indent, ?_, ?_, ?_⟩
  · simp only [write, hplain.firstNotFinite?_eq_none]
  · simp only [read, hjson hplain]
    exact ofJson_toJson htyped
  · rintro tokens rfl
    exact mapM_map_eq_ok fun t _ => Record.toToken_ofToken t

/-- A clockwise arc that is given by one of its offsets, and both coolant supplies. -/
def arcWithCoolant : List Token :=
  [⟨.g2, 3,
      .arc ⟨⟨10.5, 0.0, 0.0, 0.0, 0.0, 0.0⟩, [.x, .y]⟩
        { offsets := ⟨some 5.0, none, none⟩, plane := .zx }⟩,
    ⟨.coolantState, 4, .coolant (.or .mist .flood)⟩]

theorem read_write_arcWithCoolant :
    let records := arcWithCoolant.map Record.ofToken
    (∀ r ∈ records, r.WellTyped) ∧
      Json.read ((toJson records).write none) = .ok (toJson records) ∧
      ∃ text, write none records = .ok text ∧ read text = .ok records ∧
        records.mapM Record.toToken = .ok arcWithCoolant := by
  intro records
  have htyped : ∀ r ∈ records, r.WellTyped := by
    have hfinite : ∀ t ∈ arcWithCoolant, (Record.ofToken t).toJson.firstNotFinite? = none := by
      decide +kernel
    exact List.forall_mem_map.mpr fun t ht => Record.wellTyped_ofToken (hfinite t ht)
  have hjson : Json.read ((toJson records).write none) = .ok (toJson records) := by
    refine toOption_eq_some_iff.mp ?_
    -- the text is taken apart first: its characters are those of its parts
    simp only [records, Json.read, Json.write, toJson, arcWithCoolant, List.map_cons, List.map_nil,
      Record.toJson, Record.ofToken, Token.Body.kind, Token.Body.toFields, optionalField,
      Target.toFields, PerAxis.toList, Axis.all, PerAxis.get, Json.writeOnto, Json.writeItems,
      Json.writeMembers, Json.writeKey, String.toList_append, Json.toList_writeText]
    decide +kernel
  obtain ⟨text, hwrite, hread, htokens⟩ := read_write none htyped fun _ => hjson
  exact ⟨htyped, hjson, text, hwrite, hread, htokens arcWithCoolant rfl⟩

end Document

end NumericControl
