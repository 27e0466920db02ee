import NumericControl.Job.Load

/-!
# Loading in the background

A loader hands out a token for every load and loads each program in a worker of its own.  A new
load supersedes the one before, and the latest load may be cancelled.  Workers take small steps:
each look at what others may change and each event is a step of its own, so any interleaving of
the workers with new loads and cancellations is a sequence of actions.

## Main definitions

* `LoadEvent` : what a loader posts.
* `Worker`, `Worker.advance` : a load in progress and its next step.
* `Loader`, `Loader.perform` : all loads, and the effect of an action.
-/

namespace NumericControl

/-- What a loader posts.  Every event names the token of its load and the path. -/
inductive LoadEvent where
  | progress (token : Nat) (path : String) (lines : Nat)
  | loaded (token : Nat) (path : String) (job : Job)
  | cancelled (token : Nat) (path : String) (rows : Nat)
  | failed (token : Nat) (path : String) (message : String)

namespace LoadEvent

/-- The token of an event. -/
def token : LoadEvent → Nat
  | progress token .. | loaded token .. | cancelled token .. | failed token .. => token

/-- Whether an event is the last one of its load. -/
def isTerminal : LoadEvent → Bool
  | progress .. => false
  | _ => true

end LoadEvent

/-- Where a worker stands.  The job is the one loaded so far, `count` tells how many lines were
begun, `text` is the next line, and `rest` is what is read behind it. -/
inductive Phase where
  /-- The file is about to be opened. -/
  | opening
  /-- Whether the load is cancelled is about to be looked up. -/
  | beforeLine (job : Job) (count : Nat) (text : String) (rest : ReadLines)
  /-- Whether the load is superseded is about to be looked up. -/
  | notCancelled (job : Job) (count : Nat) (text : String) (rest : ReadLines)
  /-- Progress is about to be told. -/
  | reporting (job : Job) (count : Nat) (text : String) (rest : ReadLines)
  /-- A line is about to be read. -/
  | reading (job : Job) (count : Nat) (text : String) (rest : ReadLines)
  /-- The job is finished, and whether it is superseded is about to be looked up. -/
  | finished (job : Job)
  /-- The last event is about to be posted. -/
  | ending (event : LoadEvent)
  | done

/-- A load in progress. -/
structure Worker where
  token : Nat
  path : String
  phase : Phase := .opening

/-- What is fixed for all loads of a loader. -/
structure LoadSource where
  setup : Setup
  policy : LoadPolicy
  /-- What is read of a program file. -/
  read : String → Except FileFault ReadLines
  /-- Whether the load with a given token has told nothing for so long that it tells its progress
  when so many lines were begun. -/
  isDue : Nat → Nat → Bool := fun _ _ => false

/-- Progress is told each time so many lines were begun. -/
def progressInterval : Nat := 500

/-- Whether a load tells its progress when so many lines were begun. -/
def LoadSource.tellsProgress (source : LoadSource) (token count : Nat) : Bool :=
  count % progressInterval = 0 || source.isDue token count

namespace Worker

/-- Whether a worker has nothing left to do. -/
def isDone (w : Worker) : Bool :=
  match w.phase with
  | .done => true
  | _ => false

/-- The phase of a load that fails. -/
def failing (w : Worker) (fault : JobFault) : Phase :=
  .ending (.failed w.token w.path fault.message)

/-- The phase in front of the lines to come.  Behind the last one the job is finished, unless the
file cannot be read any further. -/
def before (w : Worker) (job : Job) (count : Nat) : ReadLines → Phase
  | ⟨text :: rest, fault?⟩ => .beforeLine job count text ⟨rest, fault?⟩
  | ⟨[], some fault⟩ => w.failing (.file w.path fault)
  | ⟨[], none⟩ =>
    match job.finish with
    | (finished, .ok _) => .finished finished
    | (_, .error fault) => w.failing (.notEncodable fault)

/-- The phase after a line was read. -/
def afterReading (source : LoadSource) (w : Worker) (job : Job) (count : Nat) (text : String)
    (rest : ReadLines) : Phase :=
  match job.takeLine source.setup source.policy text with
  | .ok next => w.before next count rest
  | .error failure => w.failing (.line failure)

/-- The phase after the file was opened. -/
def afterOpening (source : LoadSource) (w : Worker) : Phase :=
  match source.read w.path with
  | .ok read => w.before (Job.new.start w.path) 0 read
  | .error fault => w.failing (.file w.path fault)

/-- The next phase of a worker with what it posts on the way, given whether its load is cancelled
and whether it is the latest one.  In each phase it looks at one of the two at most. -/
def advance (source : LoadSource) (isCancelled isCurrent : Bool) (w : Worker) :
    Phase × Option LoadEvent :=
  match w.phase with
  | .opening => (w.afterOpening source, none)
  | .beforeLine job count text rest =>
    if isCancelled then (.ending (.cancelled w.token w.path job.rows.size), none)
    else (.notCancelled job count text rest, none)
  | .notCancelled job count text rest =>
    if !isCurrent then (.ending (.cancelled w.token w.path job.rows.size), none)
    else if source.tellsProgress w.token (count + 1) then
      (.reporting job (count + 1) text rest, none)
    else (.reading job (count + 1) text rest, none)
  | .reporting job count text rest =>
    (.reading job count text rest, some (.progress w.token w.path count))
  | .reading job count text rest => (w.afterReading source job count text rest, none)
  | .finished job =>
    if isCurrent then (.ending (.loaded w.token w.path job), none) else (.done, none)
  | .ending event => (.done, some event)
  | .done => (.done, none)

end Worker

/-- All loads of a loader. -/
structure Loader where
  /-- The token handed out last. -/
  current : Nat := 0
  /-- The tokens of the loads that are cancelled. -/
  cancelled : List Nat := []
  workers : List Worker := []
  /-- All events so far. -/
  events : Array LoadEvent := #[]

/-- What can happen to a loader. -/
inductive LoaderAction where
  /-- A load is started. -/
  | load (path : String)
  /-- The latest load is cancelled. -/
  | cancel
  /-- The worker of a load takes its next step. -/
  | work (token : Nat)

namespace Loader

/-- Whether a token is that of the latest load. -/
def isCurrent (l : Loader) (token : Nat) : Bool :=
  token == l.current

/-- Whether the latest load is in progress; one that it superseded may still be. -/
def isLoading (l : Loader) : Bool :=
  l.workers.getLast?.any fun w => !w.isDone

/-- Cancel the latest load. -/
def cancel (l : Loader) : Loader :=
  { l with cancelled := l.current :: l.cancelled }

/-- Start a load; the latest one before is cancelled. -/
def load (l : Loader) (path : String) : Loader :=
  let token := l.current + 1
  { l with
    current := token
    cancelled := l.current :: l.cancelled
    workers := l.workers ++ [{ token, path }] }

/-- Let a worker take its next step. -/
def advance (source : LoadSource) (l : Loader) (w : Worker) : Loader :=
  let (phase, event?) := w.advance source (l.cancelled.contains w.token) (l.isCurrent w.token)
  { l with
    workers := l.workers.map fun v => if v.token = w.token then { v with phase } else v
    events := l.events ++ event?.toArray }

/-- The effect of an action. -/
def perform (source : LoadSource) (l : Loader) : LoaderAction → Loader
  | .load path => l.load path
  | .cancel => l.cancel
  | .work token =>
    match l.workers.find? (·.token == token) with
    | some w => l.advance source w
    | none => l

end Loader

end NumericControl
