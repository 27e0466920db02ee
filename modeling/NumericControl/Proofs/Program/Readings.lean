import Mathlib.Data.List.Forall2
import NumericControl.Proofs.Program.Run
import NumericControl.Proofs.Refusal.Execution

/-!
# Reading on after a failure

A line that fails leaves the program as it was, so the lines after it can be read as if it were not
there.  Reading all lines in this way is a sequence of readings; what the program collects, and what
goes wrong meanwhile, are projections of it.

Of two programs one can follow the other: it reads, for every line that counts in the other one, a
line that stands for it, and both stay related.

## Main definitions

* `Reading` : a line that was read, with the program before it and the outcome.
* `Entry` : a line of the program as it is kept.
* `Program.readings`, `Program.skim` : the readings of a list of lines, and the program after them.
* `Program.RefusesOnly` : lines that fail by refusal only.
* `Program.standIns`, `Program.keptLines` : lines that stand for the lines that count, and those
  lines themselves.
* `Program.Follows` : a program follows another one.

## Main results

* `Program.counts_reading` : the lines that count are those that belong to the program.
* `Program.tokens_skim` : the tokens of a program are those of its readings, in order.
* `Program.Follows.skip`, `Program.Follows.step` : a program follows another one at one line.
* `Program.follows_standIns` : a program follows another one if it does so at every line.
* `Program.follows_keptLines` : the lines that do not count leave no trace.
-/

namespace NumericControl

/-- Whether a line is blank or for the controller. -/
def Line.isPassedOver (line : Line) : Bool :=
  match line.content with
  | .blank | .passThrough => true
  | _ => false

/-- Whether a text writes a blank line or a line for the controller. -/
def isPassedOver (text : String) : Bool :=
  match Line.read text with
  | .ok line => line.isPassedOver
  | .error _ => false

/-- A line of the program as it is kept, and whether the program ends with it. -/
structure Entry where
  text : String
  endsProgram : Bool

/-- A line that was read: the program before it, its text, and the program after it or why there
is none. -/
structure Reading where
  before : Program
  text : String
  outcome : Except Failure (Program × Bool)

namespace Reading

variable (r : Reading)

/-- The program after the line; a line that fails leaves it as it was. -/
def after : Program :=
  match r.outcome with
  | .ok (next, _) => next
  | .error _ => r.before

/-- The failure of the line. -/
def failure? : Option Failure :=
  match r.outcome with
  | .ok _ => none
  | .error failure => some failure

/-- The refusal of the line. -/
def refusal? : Option ParseError :=
  match r.outcome with
  | .error (.refused e) => some e
  | _ => none

/-- Whether the line belongs to the program. -/
def isHandled : Bool :=
  match r.outcome with
  | .ok (_, handled) => handled
  | .error _ => false

/-- The line as it is kept, if it belongs to the program. -/
def entry? : Option Entry :=
  if r.isHandled then
    some ⟨r.after.lastLine, r.after.state.programEnd && !r.before.state.programEnd⟩
  else none

/-- The tokens that the line adds. -/
def tokens : List Token :=
  r.after.tokens.toList.drop r.before.tokens.size

/-- Whether the line counts: it does not fail, it is read before the program end, and it is neither
blank nor for the controller. -/
def counts : Bool :=
  r.failure?.isNone && !r.before.state.programEnd && !isPassedOver r.text

end Reading

/-- A line that does not belong to the program comes after its end, is blank or is for the
controller, and it yields nothing. -/
theorem handled_of_interpret {config : Config} {operator : Operator} {s : State} {line : Line}
    {result : LineResult} (h : interpret config operator s line = .ok result) :
    result.handled = (!s.programEnd && !line.isPassedOver) ∧
      (result.handled = false →
        result.tokens = [] ∧ result.state = s ∧ result.warnings = []) := by
  unfold Line.isPassedOver
  cases interpret_eq_ok_iff.mp h with
  | ended hend => simp [hend]
  | passedOver hend hcontent => rcases hcontent with hcontent | hcontent <;> simp [hend, hcontent]
  | comment hend hcontent | demarcation hend hcontent | block hend hcontent => simp [hend, hcontent]

namespace Program

variable {setup setup' : Setup} {p q p' : Program} {text : String} {lines rest : List String}
  {handled : Bool}

/-- The reading of a line. -/
def reading (setup : Setup) (p : Program) (text : String) : Reading :=
  ⟨p, text, p.readLine setup text⟩

/-- The readings of lines, each of which finds what the lines before it left. -/
def readings (setup : Setup) (p : Program) : List String → List Reading
  | [] => []
  | text :: rest => p.reading setup text :: (p.reading setup text).after.readings setup rest

/-- The program after lines of which those that fail are left out. -/
def skim (setup : Setup) (p : Program) : List String → Program
  | [] => p
  | text :: rest => (p.reading setup text).after.skim setup rest

/-- The lines fail by refusal only. -/
def RefusesOnly (setup : Setup) (p : Program) (lines : List String) : Prop :=
  ∀ r ∈ p.readings setup lines, FailsOnly Failure.IsRefusal r.outcome

instance (x : Except Failure (Program × Bool)) : Decidable (FailsOnly Failure.IsRefusal x) :=
  match x with
  | .ok a => .isTrue (.ok a)
  | .error (.refused e) => .isTrue (.error ⟨e, rfl⟩)
  | .error (.notWhole _) => .isFalse fun h => by obtain ⟨e, he⟩ := h _ rfl; cases he
  | .error .textualAxisCount => .isFalse fun h => by obtain ⟨e, he⟩ := h _ rfl; cases he

instance (setup : Setup) (p : Program) (lines : List String) :
    Decidable (p.RefusesOnly setup lines) :=
  inferInstanceAs (Decidable (∀ r ∈ p.readings setup lines, _))

/-- The lines that stand for the lines that count. -/
def standIns (setup : Setup) (standIn : Reading → String) (p : Program) (lines : List String) :
    List String :=
  ((p.readings setup lines).filter Reading.counts).map standIn

/-- The lines that count. -/
def keptLines (setup : Setup) (p : Program) (lines : List String) : List String :=
  p.standIns setup Reading.text lines

/-! ### One line -/

theorem reading_of_ok (h : p.readLine setup text = .ok (q, handled)) :
    p.reading setup text = ⟨p, text, .ok (q, handled)⟩ := by
  rw [reading, h]

theorem reading_of_error {failure : Failure} (h : p.readLine setup text = .error failure) :
    p.reading setup text = ⟨p, text, .error failure⟩ := by
  rw [reading, h]

/-- A line that is read belongs to the program unless it comes after the program end, is blank or
is for the controller. -/
theorem handled_of_readLine (h : p.readLine setup text = .ok (q, handled)) :
    handled = (!p.state.programEnd && !isPassedOver text) := by
  rcases readLine_eq_ok_iff.mp h with ⟨hend, -, rfl⟩ | ⟨-, line, result, hread, hresult, -, rfl⟩
  · rw [hend]
    rfl
  · have hpassed : isPassedOver text = line.isPassedOver := by rw [isPassedOver, hread]
    rw [hpassed]
    exact (handled_of_interpret hresult).1

/-- The lines that count are those that belong to the program. -/
theorem counts_reading (setup : Setup) (p : Program) (text : String) :
    (p.reading setup text).counts = (p.reading setup text).isHandled := by
  cases h : p.readLine setup text with
  | error failure => rw [reading_of_error h]; rfl
  | ok result =>
    obtain ⟨q, handled⟩ := result
    rw [reading_of_ok h]
    simp only [Reading.counts, Reading.failure?, Reading.isHandled, Option.isNone_none,
      Bool.true_and, handled_of_readLine h]

/-- A line adds its tokens to those before it. -/
theorem tokens_after (setup : Setup) (p : Program) (text : String) :
    (p.reading setup text).after.tokens.toList =
      p.tokens.toList ++ (p.reading setup text).tokens := by
  cases h : p.readLine setup text with
  | error failure => simp [reading_of_error h, Reading.after, Reading.tokens]
  | ok result =>
    obtain ⟨q, handled⟩ := result
    obtain ⟨tokens, htokens, -⟩ := readLine_eq_ok h
    simp [reading_of_ok h, Reading.after, Reading.tokens, htokens, ← Array.length_toList]

/-- A line that fails adds no tokens. -/
theorem tokens_reading_of_error {failure : Failure} (h : p.readLine setup text = .error failure) :
    (p.reading setup text).tokens = [] := by
  rw [reading_of_error h, Reading.tokens, Reading.after, ← Array.length_toList, List.drop_length]

/-- The reading of a line is a lawful passage; one that fails is idle. -/
theorem lawful_reading (setup : Setup) (p : Program) (text : String) :
    Passage.Lawful setup
      ⟨p.state, (p.reading setup text).tokens, (p.reading setup text).after.state⟩ := by
  cases h : p.readLine setup text with
  | error failure =>
    rw [tokens_reading_of_error h, reading_of_error h]
    exact .idle p.state
  | ok result =>
    obtain ⟨q, handled⟩ := result
    obtain ⟨tokens, htokens, hlawful⟩ := readLine_eq_ok h
    rw [reading_of_ok h]
    simpa [Reading.tokens, Reading.after, htokens, ← Array.length_toList] using hlawful

/-- The tokens of a program are those of its readings, in order. -/
theorem tokens_skim (setup : Setup) (p : Program) (lines : List String) :
    (p.skim setup lines).tokens.toList =
      p.tokens.toList ++ (p.readings setup lines).flatMap Reading.tokens := by
  induction lines generalizing p with
  | nil => simp [skim, readings]
  | cons text rest ih =>
    rw [skim, readings, ih, tokens_after, List.flatMap_cons, List.append_assoc]

theorem RefusesOnly.head (h : p.RefusesOnly setup (text :: rest)) :
    FailsOnly Failure.IsRefusal (p.readLine setup text) :=
  h _ List.mem_cons_self

theorem RefusesOnly.tail (h : p.RefusesOnly setup (text :: rest)) :
    (p.reading setup text).after.RefusesOnly setup rest :=
  fun r hr => h r (List.mem_cons_of_mem _ hr)

/-- Every reading of a list of lines is the reading of one of them. -/
theorem exists_reading_of_mem {r : Reading} (h : r ∈ p.readings setup lines) :
    ∃ q, ∃ text ∈ lines, r = reading setup q text := by
  induction lines generalizing p with
  | nil => cases h
  | cons text rest ih =>
    rcases List.mem_cons.mp h with rfl | h
    · exact ⟨p, text, List.mem_cons_self, rfl⟩
    · obtain ⟨q, other, hother, hr⟩ := ih h
      exact ⟨q, other, List.mem_cons_of_mem text hother, hr⟩

/-- The lines that are kept are those of the readings that count. -/
theorem filterMap_entry?_readings (setup : Setup) (p : Program) (lines : List String) :
    (p.readings setup lines).filterMap Reading.entry? =
      ((p.readings setup lines).filter Reading.counts).filterMap Reading.entry? := by
  rw [List.filterMap_filter]
  refine List.filterMap_congr fun r hr => ?_
  obtain ⟨q, text, -, rfl⟩ := exists_reading_of_mem hr
  rw [counts_reading, Reading.entry?]
  split <;> simp_all

/-! ### Programs that follow one another -/

/-- A program reads lines that stand for the lines of another one: none of them fails, in the end
the programs are related, and so are the readings of the lines that count with those of the lines
that stand for them. -/
structure Follows (R : Program → Program → Prop) (Q : Reading → Reading → Prop)
    (setup setup' : Setup) (p p' : Program) (lines lines' : List String) : Prop where
  last : R (p.skim setup lines) (p'.skim setup' lines')
  readings : List.Forall₂ Q ((p.readings setup lines).filter Reading.counts)
    (p'.readings setup' lines')
  succeeds : ∀ r ∈ p'.readings setup' lines', r.failure? = none

section

variable {R : Program → Program → Prop} {Q : Reading → Reading → Prop} {standIn : Reading → String}
  {lines' rest' : List String} {text' : String} {q' : Program}

/-- A line that does not belong to the program is not among the readings that count. -/
theorem filter_counts_of_not_handled
    (hhandled : (p.reading setup text).isHandled = false) :
    (p.readings setup (text :: rest)).filter Reading.counts =
      ((p.reading setup text).after.readings setup rest).filter Reading.counts := by
  have hcounts := counts_reading setup p text
  rw [hhandled] at hcounts
  rw [readings, List.filter_cons_of_neg (by rw [hcounts]; nofun)]

/-- A line that belongs to the program is the first of the readings that count. -/
theorem filter_counts_of_handled (hline : p.readLine setup text = .ok (q, true)) :
    (p.readings setup (text :: rest)).filter Reading.counts =
      ⟨p, text, .ok (q, true)⟩ :: (q.readings setup rest).filter Reading.counts := by
  have hcounts := counts_reading setup p text
  rw [reading_of_ok hline] at hcounts
  rw [readings, reading_of_ok hline, List.filter_cons_of_pos hcounts]
  rfl

/-- A line that does not belong to a program is not there for the program that follows. -/
theorem Follows.skip (hhandled : (p.reading setup text).isHandled = false)
    (h : Follows R Q setup setup' (p.reading setup text).after p' rest lines') :
    Follows R Q setup setup' p p' (text :: rest) lines' where
  last := h.last
  readings := by
    rw [filter_counts_of_not_handled hhandled]
    exact h.readings
  succeeds := h.succeeds

/-- A line that belongs to a program is followed by the line that stands for it. -/
theorem Follows.step (hline : p.readLine setup text = .ok (q, true))
    (hline' : p'.readLine setup' text' = .ok (q', true))
    (hQ : Q ⟨p, text, .ok (q, true)⟩ ⟨p', text', .ok (q', true)⟩)
    (h : Follows R Q setup setup' q q' rest rest') :
    Follows R Q setup setup' p p' (text :: rest) (text' :: rest') where
  last := by
    rw [skim, skim, reading_of_ok hline, reading_of_ok hline']
    exact h.last
  readings := by
    rw [filter_counts_of_handled hline, Program.readings, reading_of_ok hline']
    exact .cons hQ h.readings
  succeeds := by
    rw [Program.readings, reading_of_ok hline']
    exact List.forall_mem_cons.mpr ⟨rfl, h.succeeds⟩

/-- If a line that does not belong to a program keeps it related to another one, and a line that
belongs to it is followed by the other one, then so are all lines. -/
theorem follows_standIns (hR : R p p')
    (hidle : ∀ {p q p' text}, R p p' → p.readLine setup text = .ok (q, false) → R q p')
    (hstep : ∀ {p q p' text}, text ∈ lines → R p p' → p.readLine setup text = .ok (q, true) →
      ∃ q', p'.readLine setup' (standIn ⟨p, text, .ok (q, true)⟩) = .ok (q', true) ∧ R q q' ∧
        Q ⟨p, text, .ok (q, true)⟩
          ⟨p', standIn ⟨p, text, .ok (q, true)⟩, .ok (q', true)⟩) :
    Follows R Q setup setup' p p' lines (p.standIns setup standIn lines) := by
  induction lines generalizing p p' with
  | nil => exact ⟨hR, .nil, fun r hr => absurd hr List.not_mem_nil⟩
  | cons text rest ih =>
    have hrest := fun {p q p' text} (htext : text ∈ rest) =>
      @hstep p q p' text (List.mem_cons_of_mem _ htext)
    have hskip (hafter : R (p.reading setup text).after p')
        (hhandled : (p.reading setup text).isHandled = false) :
        Follows R Q setup setup' p p' (text :: rest) (p.standIns setup standIn (text :: rest)) := by
      rw [standIns, filter_counts_of_not_handled hhandled]
      exact .skip hhandled (ih hafter hrest)
    cases hline : p.readLine setup text with
    | error failure =>
      have hreading := reading_of_error hline
      exact hskip (by rwa [hreading]) (by rw [hreading]; rfl)
    | ok result =>
      obtain ⟨q, handled⟩ := result
      cases handled with
      | false =>
        have hreading := reading_of_ok hline
        exact hskip (by rw [hreading]; exact hidle hR hline) (by rw [hreading]; rfl)
      | true =>
        obtain ⟨q', hline', hq, hQ⟩ := hstep List.mem_cons_self hR hline
        rw [standIns, filter_counts_of_handled hline, List.map_cons]
        exact .step hline hline' hQ (ih hq hrest)

end

/-! ### Programs with the same record -/

/-- Two programs that differ at most in their last lines. -/
structure SameRecord (p p' : Program) : Prop where
  state : p'.state = p.state
  tokens : p'.tokens = p.tokens
  warnings : p'.warnings = p.warnings

theorem SameRecord.refl (p : Program) : p.SameRecord p :=
  ⟨rfl, rfl, rfl⟩

/-- A line that belongs to one of two programs with the same record belongs to the other, and after
it both are the same. -/
theorem SameRecord.readLine (h : p.SameRecord p') (hline : p.readLine setup text = .ok (q, true)) :
    p'.readLine setup text = .ok (q, true) := by
  rcases readLine_eq_ok_iff.mp hline with ⟨-, -, hhandled⟩ |
    ⟨hend, line, result, hread, hresult, hq, hhandled⟩
  · cases hhandled
  · have haccept : p'.accept result = q := by
      rw [← hq]
      simp only [accept, h.tokens, h.warnings]
    rw [← h.state] at hend hresult
    exact readLine_eq_ok_iff.mpr (.inr ⟨hend, line, result, hread, hresult, haccept, hhandled⟩)

/-- A line that does not belong to a program leaves its record as it was. -/
theorem sameRecord_of_not_handled (h : p.readLine setup text = .ok (q, false)) :
    p.SameRecord q := by
  rcases readLine_eq_ok_iff.mp h with ⟨-, rfl, -⟩ | ⟨-, line, result, -, hresult, rfl, hhandled⟩
  · exact ⟨rfl, rfl, rfl⟩
  · obtain ⟨htokens, hstate, hwarnings⟩ := (handled_of_interpret hresult).2 hhandled
    exact ⟨hstate, by simp [accept, htokens], by simp [accept, hwarnings]⟩

/-- The lines that do not count leave no trace: a program that reads only the others has the same
record and keeps the same lines. -/
theorem follows_keptLines (setup : Setup) (p : Program) (lines : List String) :
    Follows SameRecord (fun r r' => r'.entry? = r.entry?) setup setup p p lines
      (p.keptLines setup lines) := by
  refine follows_standIns (.refl p) ?_ ?_
  · intro p q p' text h hline
    have hq := sameRecord_of_not_handled hline
    exact ⟨h.state.trans hq.state.symm, h.tokens.trans hq.tokens.symm,
      h.warnings.trans hq.warnings.symm⟩
  · intro p q p' text _ h hline
    refine ⟨q, h.readLine hline, .refl q, ?_⟩
    simp only [Reading.entry?, Reading.isHandled, Reading.after, h.state]

end Program

end NumericControl
