import NumericControl.Check
import NumericControl.Digest.Lines
import NumericControl.Extent
import NumericControl.Program

/-!
# Jobs

A job is a program with the rows that go to the machine, the box of its moves and the extremes of
its feeds.  While a job is loading nobody is told about its rows; when it is finished a snapshot
of it is published.  Lines can be queued to follow the next line of the program.

## Main definitions

* `Row`, `Snapshot`, `Summary`, `JobEvent` : what a job holds, publishes and posts.
* `Job` : a job, with `Job.start`, `Job.enqueue`, `Job.append`, `Job.finish` and `Job.reset`.
* `Job.summary` : the figures of a job, unless its program cannot be written in bytes.
* `Job.markSent`, `Job.markAcknowledged` : progress marks on rows.
-/

namespace NumericControl

/-- A line that goes to the machine. -/
structure Row where
  number : Nat
  text : String
  /-- How many characters the line takes, with its line end. -/
  length : Nat
  /-- Whether the line belongs to the program; otherwise it was queued. -/
  isFile : Bool := true
  /-- Whether the program ends with this line. -/
  endsProgram : Bool := false
  sent : Bool := false
  acknowledged : Bool := false
deriving DecidableEq, Repr

/-- A finished job. -/
structure Snapshot where
  name : String := ""
  rows : Array Row := #[]
  tokens : Array Token := #[]
  box : Box Float := .empty
  feeds : Span Float := ⟨0.0, 0.0⟩

namespace Snapshot

/-- The snapshot when there is no finished job. -/
def empty : Snapshot := {}

/-- Whether there is a finished job. -/
def isLoaded (s : Snapshot) : Bool :=
  s.name != "" || !s.rows.isEmpty

end Snapshot

/-- The figures of a job. -/
structure Summary where
  name : String
  lineCount : Nat
  tokenCount : Nat
  box : Box Float
  feeds : Span Float
  skipped : Nat
  linesHash? : Option String

/-- What a job posts. -/
inductive JobEvent where
  /-- A job is about to be replaced. -/
  | closing (name : String)
  /-- A job is finished, or there is none any more and the name is empty. -/
  | changed (name : String)
  /-- A row was added outside of a load. -/
  | lineAdded (row : Row)

/-- A job. -/
structure Job where
  program : Program := .empty
  name : String := ""
  rows : Array Row := #[]
  box : Box Float := .empty
  feeds : Span Float := .empty
  /-- How many lines of the load were skipped. -/
  skipped : Nat := 0
  loading : Bool := false
  /-- The lines that follow the next line of the program. -/
  pending : List String := []
  snapshot : Snapshot := .empty
  /-- All events so far. -/
  events : Array JobEvent := #[]

namespace Job

/-- A job without anything. -/
def new : Job := {}

/-- The job with one more event. -/
def post (job : Job) (event : JobEvent) : Job :=
  { job with events := job.events.push event }

/-- The job without anything but its events. -/
def cleared (job : Job) : Job :=
  { events := job.events }

/-- The name under which a job is closed. -/
def closingName (job : Job) : String :=
  if job.snapshot.name = "" then job.name else job.snapshot.name

/-- Start to load a new program. -/
def start (job : Job) (name : String) : Job :=
  let closed :=
    if job.snapshot.isLoaded || !job.rows.isEmpty then job.post (.closing job.closingName) else job
  { closed.cleared with name, loading := true }

/-- Queue a line to follow the next line of the program. -/
def enqueue (job : Job) (text : String) : Job :=
  { job with pending := job.pending ++ [text] }

/-- The job with one more row. -/
def addRow (job : Job) (text : String) (isFile endsProgram : Bool) : Job :=
  let row : Row :=
    { number := job.rows.size + 1, text, length := text.length + 1, isFile, endsProgram }
  let job := { job with rows := job.rows.push row }
  if job.loading then job else job.post (.lineAdded row)

/-- The job with rows for the queued lines. -/
def flush (job : Job) : Job :=
  job.pending.foldl (fun job text => job.addRow text false false) { job with pending := [] }

/-- The job with one more line, and whether the line belongs to the program. -/
def append (setup : Setup) (job : Job) (text : String) : Except Failure (Job × Bool) := do
  let (program, handled) ← job.program.readLine setup text
  let next := { job with program }
  if handled then
    let ends := program.state.programEnd && !job.program.state.programEnd
    return ((next.addRow program.lastLine true ends).flush, true)
  else return (next, false)

/-- The feed that a token sets. -/
def feedOf? (token : Token) : Option Float :=
  match token.body with
  | .feed value => some value
  | _ => none

/-- The extremes that take in the feeds of tokens.  Without any feed they are zero. -/
def feedsOf (feeds : Span Float) (tokens : List Token) : Span Float :=
  let feeds := (tokens.filterMap feedOf?).foldl Span.widen feeds
  if feeds.high == -Number.infinity then ⟨0.0, 0.0⟩ else feeds

/-- The texts of the rows of the program. -/
def storedLines (job : Job) : List String :=
  (job.rows.toList.filter Row.isFile).map Row.text

/-- The figures of the job.  There are none if its program cannot be written in bytes. -/
def summary (job : Job) : Except EncodingFault Summary :=
  (linesHash? job.storedLines).map fun hash? =>
    { name := job.name
      lineCount := job.rows.size
      tokenCount := job.program.tokens.size
      box := job.box
      feeds := job.feeds
      skipped := job.skipped
      linesHash? := hash? }

/-- The job at the end of a load, with its box and its feeds, published as a snapshot. -/
def publish (job : Job) : Job :=
  let tokens := job.program.tokens
  let box := (boxOf tokens.toList).normalize
  let feeds := feedsOf job.feeds tokens.toList
  { job with
    box
    feeds
    loading := false
    snapshot := { name := job.name, rows := job.rows, tokens, box, feeds } }

/-- Finish the load: publish a snapshot, take the figures and tell the name.  Where there are no
figures the snapshot is published and nobody is told. -/
def finish (job : Job) : Job × Except EncodingFault Summary :=
  match job.publish.summary with
  | .ok summary => (job.publish.post (.changed job.name), .ok summary)
  | .error fault => (job.publish, .error fault)

/-- Drop everything and tell so. -/
def reset (job : Job) : Job :=
  job.cleared.post (.changed "")

/-- The job with a change to one row, which shows in the snapshot too. -/
def modifyRow (job : Job) (index : Nat) (change : Row → Row) : Job :=
  { job with
    rows := job.rows.modify index change
    snapshot := { job.snapshot with rows := job.snapshot.rows.modify index change } }

/-- The index of a row, given as any value. -/
def rowIndex (job : Job) (index : Json) : Except CheckError Nat := do
  return (← Check.lineIndex (some ((job.rows.size : Int) - 1)) index).toNat

/-- Mark a row as sent to the machine. -/
def markSent (job : Job) (index : Json) : Except CheckError Job := do
  return job.modifyRow (← job.rowIndex index) fun row => { row with sent := true }

/-- Mark a row as acknowledged by the machine. -/
def markAcknowledged (job : Job) (index : Json) : Except CheckError Job := do
  return job.modifyRow (← job.rowIndex index) fun row => { row with acknowledged := true }

end Job

end NumericControl
