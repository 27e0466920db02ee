import NumericControl.Front
import NumericControl.Report.Basic

/-!
# The text of a validation report

A report is shown in short, with counts and hazards, or in detail, line by line.  Long lines are
cut.

## Main definitions

* `trimDetail` : a line cut to a length.
* `Report.text`, `Report.details` : the short and the detailed text.
-/

namespace NumericControl

/-- How many characters of a line are shown. -/
def detailWidth : Int := 160

/-- A line cut to a length.  A length of more than three leaves room for three points. -/
def trimDetail (limit : Int) (text : String) : String :=
  if limit ≤ 3 then String.ofList (front limit text.toList)
  else if (text.length : Int) ≤ limit then text
  else Text.trimRight (String.ofList (front (limit - 3) text.toList)) ++ "..."

/-- The entries with the highest counts as one text. -/
def Tally.text (t : Tally) : String :=
  ", ".intercalate (t.highest.map fun (name, count) => name ++ " (" ++ toString count ++ ")")

namespace Report

/-- The hazards in the order of their wordings. -/
def hazardTexts (r : Report) : List String :=
  (r.hazards.map Hazard.text).mergeSort fun a b => decide (a ≤ b)

/-- The findings of a report, one sentence each. -/
def findings (r : Report) : List String :=
  (if r.errorCount = 0 then []
    else ["Lines with errors: " ++ toString r.errorCount ++ " (" ++ r.errors.text ++ ")."]) ++
  (if r.unsupported.isEmpty then []
    else
      ["Unsupported in " ++ r.dialect.name ++ " dialect: " ++ r.unsupported.text ++ "."]) ++
  (if r.hazards.isEmpty then []
    else ["Modal hazards: " ++ ", ".intercalate r.hazardTexts ++ "."]) ++
  (if r.programEnd || r.programLines == 0 then []
    else ["No program end (M2/M30 or closing %)."])

/-- A report in short. -/
def text (r : Report) : String :=
  let findings := if r.findings.isEmpty then ["No issues detected."] else r.findings
  "G-code validation (" ++ r.dialect.name ++ "):\n- " ++ "\n- ".intercalate findings

/-- The lines about one program line. -/
def issueLines (entry : LineIssue) : List String :=
  ["Line " ++ toString entry.number ++ ": " ++ "; ".intercalate entry.issues,
    "  " ++ trimDetail detailWidth entry.line]

/-- A report in detail. -/
def details (r : Report) : String :=
  let header := "G-code validation details (" ++ r.dialect.name ++ "):"
  if r.issueCount = 0 then header ++ "\nNo issues detected."
  else
    let summary := "Issues on " ++ toString r.issueCount ++ " line(s)." ++
      if r.isTruncated then " Showing first " ++ toString r.issues.size ++ " line(s)." else ""
    let omitted := if r.isTruncated then ["... additional issue lines omitted."] else []
    "\n".intercalate
      ([header, summary] ++ r.issues.toList.flatMap issueLines ++ omitted)

/-- The short text when there is no report. -/
def missingText : String := "G-code validation: unavailable."

/-- The detailed text when there is no report. -/
def missingDetails : String := "G-code validation details: unavailable."

end Report

end NumericControl
