import NumericControl.Digest.Sha256
import NumericControl.Text.Blank
import NumericControl.Text.Encoding

/-!
# Program digests

A program is identified by the digest of its lines.  Every line is framed the same way, without
its own line end and with one line feed, so copies with different line ends have one digest.

## Main definitions

* `framedLines` : the bytes of which the digest is taken.
* `linesEncodingFault?` : what keeps a program from being written in bytes.
* `linesHash?` : the digest of a program; an empty one has none.
-/

namespace NumericControl

/-- A line without its line end, followed by one line feed. -/
def framedLine (line : String) : String :=
  Text.trimLineEnd line ++ "\n"

/-- The bytes of a program, line by line. -/
def framedLines (lines : List String) : ByteArray :=
  lines.foldl (fun bytes line => bytes ++ (framedLine line).toUTF8) ByteArray.empty

/-- What keeps a line from being written in bytes. -/
def lineEncodingFault? (line : String) : Option EncodingFault :=
  encodingFault? (fun _ => false) 0 (RawText.ofStandIns (Text.trimLineEnd line)).points

/-- What keeps a program from being written in bytes, at the first line that cannot be. -/
def linesEncodingFault? (lines : List String) : Option EncodingFault :=
  lines.findSome? lineEncodingFault?

/-- The digest of a program as text. -/
def linesHash? (lines : List String) : Except EncodingFault (Option String) :=
  match linesEncodingFault? lines with
  | some fault => .error fault
  | none => .ok (if lines.isEmpty then none else some (Sha256.hex (framedLines lines)))

end NumericControl
