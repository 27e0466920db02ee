import NumericControl.Files.Access
import NumericControl.Job.Basic
import NumericControl.Text.Utf8

/-!
# Loading a job

A whole program is loaded line by line.  A refused line is skipped or ends the load, and before
every line the load may be cancelled; a load that ends early leaves an empty job.

## Main definitions

* `LoadPolicy` : the decisions during a load.
* `JobFault` : why a load fails.
* `ReadLines` : what is read of a file, up to a fault in its middle.
* `Job.takeLine`, `Job.loadLines`, `Job.loadRead`, `Job.loadFile` : one line, a list of lines, what
  is read of a file, a file.
* `Job.loadQuestions` : what the operator is asked meanwhile.
-/

namespace NumericControl

/-- The decisions during a load. -/
structure LoadPolicy where
  /-- Whether to go on before the line with a given index. -/
  keepsRunning : Nat → Bool := fun _ => true
  /-- Whether to skip a refused line, given how many were skipped before. -/
  decides? : Option (Nat → ParseError → Bool) := none
  /-- Whether refused lines are skipped when nobody decides. -/
  continues : Bool := false

/-- Whether a refused line is skipped. -/
def LoadPolicy.skips (policy : LoadPolicy) (skipped : Nat) (e : ParseError) : Bool :=
  match policy.decides? with
  | some decides => decides skipped e
  | none => policy.continues

/-- Why a load fails. -/
inductive JobFault where
  | line (failure : Failure)
  /-- The load was cancelled after so many rows. -/
  | cancelled (rows : Nat)
  | file (path : String) (fault : FileFault)
  /-- All lines are taken, and they cannot be written in bytes. -/
  | notEncodable (fault : EncodingFault)

/-- The wording of a failure. -/
def Failure.text : Failure → String
  | .refused e => e.text
  | .notWhole fault => notWholeMessage fault
  | .textualAxisCount => "'>=' not supported between instances of 'int' and 'str'"

/-- The wording of a file that is not read. -/
def unreadableMessage (path : String) (fault : FileFault) : String :=
  if fault.kind.isOfSystem then "Failed to read " ++ path ++ ": " ++ fault.text else fault.text

/-- The wording of a fault. -/
def JobFault.message : JobFault → String
  | .line failure => failure.text
  | .cancelled _ => "Job load cancelled"
  | .file path fault => unreadableMessage path fault
  | .notEncodable fault => fault.text

/-- What is read of a file: its lines, or those in front of the place where it cannot be read any
further. -/
structure ReadLines where
  lines : List String
  fault? : Option FileFault := none

namespace Job

/-- The job with one more line of a load, which is skipped if it is refused and may be. -/
def takeLine (setup : Setup) (policy : LoadPolicy) (job : Job) (text : String) :
    Except Failure Job :=
  match job.append setup text with
  | .ok (next, _) => .ok next
  | .error (.refused e) =>
    if policy.skips job.skipped e then .ok { job with skipped := job.skipped + 1 }
    else .error (.refused e)
  | .error failure => .error failure

/-- The job after a line that ends the load.  Only a refusal empties the job. -/
def abandon (job : Job) : Failure → Job
  | .refused _ => job.reset
  | _ => job

/-- The job after lines, the first of which has the given index, up to one that ends the load. -/
def takeLines (setup : Setup) (policy : LoadPolicy) (index : Nat) (job : Job) :
    List String → Job × Option JobFault
  | [] => (job, none)
  | text :: rest =>
    if !policy.keepsRunning index then (job.reset, some (.cancelled job.rows.size))
    else
      match job.takeLine setup policy text with
      | .ok next => takeLines setup policy (index + 1) next rest
      | .error failure => (job.abandon failure, some (.line failure))

/-- Load a program. -/
def loadLines (setup : Setup) (policy : LoadPolicy) (job : Job) (name : String)
    (lines : List String) : Job × Except JobFault Summary :=
  match takeLines setup policy 0 (job.start name) lines with
  | (job, none) => (job.finish.1, job.finish.2.mapError .notEncodable)
  | (job, some fault) => (job, .error fault)

/-- What the operator is asked about one line of a load. -/
def lineQuestions (setup : Setup) (policy : LoadPolicy) (job : Job) (text : String) :
    List Question :=
  job.program.questions setup text ++
    match policy.decides?, job.append setup text with
    | some _, .error (.refused e) => [.skip e.text]
    | _, _ => []

/-- What the operator is asked about lines, the first of which has the given index. -/
def linesQuestions (setup : Setup) (policy : LoadPolicy) (index : Nat) (job : Job) :
    List String → List Question
  | [] => []
  | text :: rest =>
    if !policy.keepsRunning index then []
    else
      job.lineQuestions setup policy text ++
        match job.takeLine setup policy text with
        | .ok next => linesQuestions setup policy (index + 1) next rest
        | .error _ => []

/-- What the operator is asked while a program is loaded. -/
def loadQuestions (setup : Setup) (policy : LoadPolicy) (job : Job) (name : String)
    (lines : List String) : List Question :=
  linesQuestions setup policy 0 (job.start name) lines

/-- The job after a fault of its file.  A path that no file system can be asked about leaves the job
as it is. -/
def giveUp (job : Job) (fault : FileFault) : Job :=
  if fault.kind.isOfSystem then job.reset else job

/-- Load a program from what is read of a file, or tell why it is not read. -/
def loadRead (setup : Setup) (policy : LoadPolicy) (job : Job) (path : String) :
    Except FileFault ReadLines → Job × Except JobFault Summary
  | .ok ⟨lines, none⟩ => job.loadLines setup policy path lines
  | .ok ⟨lines, some fault⟩ =>
    match takeLines setup policy 0 (job.start path) lines with
    | (job, none) => (job.giveUp fault, .error (.file path fault))
    | (job, some earlier) => (job, .error earlier)
  | .error fault => (job.giveUp fault, .error (.file path fault))

end Job

/-- The lines of a program file, each with its line end. -/
def programLines (content : ByteArray) : List String :=
  (Text.splitLines [] (Text.universalLineEnds (Text.Utf8.decodeLossy content).toList)).map
    String.ofList

section

variable {m : Type → Type} [Monad m] [FileAccess m]

/-- Read the lines of a program file. -/
def readProgram (path : String) : m (Except FileFault (List String)) := do
  return (← FileAccess.read path).map programLines

/-- Load a program from a file. -/
def Job.loadFile (setup : Setup) (policy : LoadPolicy) (job : Job) (path : String) :
    m (Job × Except JobFault Summary) := do
  return job.loadRead setup policy path ((← readProgram path).map (⟨·, none⟩))

end

end NumericControl
