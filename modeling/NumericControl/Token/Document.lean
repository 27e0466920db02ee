import NumericControl.Json.Display
import NumericControl.Json.Reader
import NumericControl.Json.Writer
import NumericControl.Token.Record

/-!
# Token documents

A token stream as one document: an object with a format mark, a version and the list of token
records.  Infinite values and values that are no number have no written form.

## Main definitions

* `Document.toJson`, `Document.write` : the document of some records and its text.
* `Document.read` : the records of a text.
* `DocumentError` : what is wrong with a text.
-/

namespace NumericControl

/-- What is wrong with the text of a token document. -/
inductive DocumentError where
  /-- The text is no document value. -/
  | unreadable (error : Json.ReadError)
  /-- The value is no token document. -/
  | otherFormat
  | unsupportedVersion (version : Json)
  | noTokenList
  | record (error : RecordError)

/-- The wording of what is wrong with a record. -/
def RecordError.message : RecordError → String
  | .notAnObject => "Token record is no object"
  | .structuredKind => "Token kind is no name"
  | .unknownKind kind => "Unknown token kind: " ++ kind.display
  | .unknownField name kind => "Unknown field " ++ name.display ++ " for " ++ kind.name
  | .invalidField name kind value =>
    "Invalid " ++ name ++ " for " ++ kind.name ++ ": " ++ value.display
  | .incomplete kind => "Incomplete " ++ kind.name ++ " record"

/-- The wording of what is wrong with a document. -/
def DocumentError.message : DocumentError → String
  | .unreadable _ => "Invalid JSON"
  | .otherFormat => "Not a token document"
  | .unsupportedVersion version =>
    "Unsupported token document version: " ++ version.display
  | .noTokenList => "Token document has no token list"
  | .record error => error.message

namespace Document

/-- The format mark. -/
def formatName : String := "simple_gcode.tokens"

/-- The version. -/
def version : Int := 1

/-- The document of some records. -/
def toJson (records : List Record) : Json :=
  .object
    [("format", .text formatName), ("version", .int version),
      ("tokens", .array (records.map Record.toJson))]

/-- The text of the document of some records, or the first value without a written form. -/
def write (indent : Option String) (records : List Record) : Except Float String :=
  let document := toJson records
  match document.firstNotFinite? with
  | some x => .error x
  | none => .ok (document.write indent)

/-- The records of a document value. -/
def ofJson (document : Json) : Except DocumentError (List Record) :=
  match document with
  | .object members =>
    match Members.get? "format" members with
    | some (.text format) =>
      if format ≠ formatName then .error .otherFormat
      else
        let given := (Members.get? "version" members).getD .null
        if given.wholeValue? ≠ some version then .error (.unsupportedVersion given)
        else
          match Members.get? "tokens" members with
          | some (.array items) => items.mapM fun item => (Record.ofJson item).mapError .record
          | _ => .error .noTokenList
    | _ => .error .otherFormat
  | _ => .error .otherFormat

/-- The records that a text writes. -/
def read (text : String) : Except DocumentError (List Record) := do
  ofJson (← (Json.read text).mapError .unreadable)

end Document

end NumericControl
