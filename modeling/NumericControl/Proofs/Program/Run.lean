import NumericControl.Program
import NumericControl.Proofs.Execution.Origin
import NumericControl.Proofs.Execution.Route

/-!
# Runs of programs

A program is read line by line.  Every line that is accepted is a passage from the state before it
to the state after it and adds some tokens.  Only a block adds tokens, those of its execution; the
other lines leave all of the state but the demarcation count and the program end as it is.

## Main definitions

* `Passage` : the states around a line and the tokens of the line.
* `Program.isDemarcation` : whether a text writes a program demarcation.
* `Program.passages` : the passages of a list of lines, up to the first one that is refused.
* `Passage.Lawful` : what a line can do.
* `Run` : a sequence of lawful passages, each of which starts where the one before it ended.

## Main results

* `Program.readLine_eq_ok_iff` : when a line is read.
* `Program.readLine_cases` : what reading a line does to tokens and state.
* `Program.readLines_induction` : an invariant of single lines holds after all lines.
* `Program.run_passages` : the lines of a program are a run.
* `Program.around_passages` : a passage is between the states before and after its line.
* `Program.tokens_readLines` : the tokens of a program are those of its passages, in order.
-/

namespace NumericControl

/-- A line that was read: the state before it, the tokens that it added and the state after it. -/
structure Passage where
  before : State
  tokens : List Token
  after : State

/-- What a line can do to the state: nothing, count a demarcation, or execute a block. -/
inductive Passage.Lawful (setup : Setup) : Passage → Prop
  | idle (s : State) : Lawful setup ⟨s, [], s⟩
  | demarcation (s : State) (programEnd : Bool) :
      Lawful setup ⟨s, [], { s with demarcations := s.demarcations + 1, programEnd }⟩
  | block {s next : State} {line : Line} {ex : Execution} {tokens : List Token} {tools : List Int}
      (hex : executionOf setup.config setup.operator s line = .ok ex)
      (hrun : ex.run = .ok (tokens, next, tools)) : Lawful setup ⟨s, tokens, next⟩

/-- Passages that follow one another from the first state to the last. -/
inductive Run (setup : Setup) : State → List Passage → State → Prop
  | nil (s : State) : Run setup s [] s
  | cons {s t u : State} {tokens : List Token} {rest : List Passage}
      (head : Passage.Lawful setup ⟨s, tokens, t⟩) (tail : Run setup t rest u) :
      Run setup s (⟨s, tokens, t⟩ :: rest) u

/-- The tokens of every line have a route. -/
theorem Passage.Lawful.exists_route {setup : Setup} {p : Passage} (h : p.Lawful setup) :
    ∃ front travel back, p.tokens = front ++ travel.toList ++ back ∧
      Route p.before p.after front travel back := by
  cases h with
  | idle s => exact ⟨[], none, [], rfl, .of_stays rfl rfl⟩
  | demarcation s programEnd => exact ⟨[], none, [], rfl, .of_stays rfl rfl⟩
  | block hex hrun =>
    obtain ⟨front, travel, back, htokens, hroute⟩ := Execution.exists_route hrun
    rw [state_of_executionOf hex] at hroute
    exact ⟨front, travel, back, htokens, hroute⟩

namespace Program

/-- Whether a text writes a program demarcation. -/
def isDemarcation (text : String) : Bool :=
  match Line.read text with
  | .ok ⟨_, .demarcation⟩ => true
  | _ => false

/-- The passages of the lines of a program, up to the first line that is refused. -/
def passages (setup : Setup) (p : Program) : List String → List Passage
  | [] => []
  | text :: rest =>
    match p.readLine setup text with
    | .ok (q, _) =>
      ⟨p.state, q.tokens.toList.drop p.tokens.size, q.state⟩ :: passages setup q rest
    | .error _ => []

/-- A line is read after the program end, where it does not belong to the program, or it is
interpreted. -/
theorem readLine_eq_ok_iff {setup : Setup} {p q : Program} {text : String} {handled : Bool} :
    p.readLine setup text = .ok (q, handled) ↔
      (p.state.programEnd = true ∧ { p with lastLine := Text.trimLineEnd text } = q ∧
        handled = false) ∨
      (p.state.programEnd = false ∧ ∃ line result, Line.read text = .ok line ∧
        interpret setup.config setup.operator p.state line = .ok result ∧ p.accept result = q ∧
          result.handled = handled) := by
  unfold readLine
  by_cases hend : p.state.programEnd
  · rw [if_pos hend, Except.ok.injEq, Prod.mk.injEq]
    simp [hend, eq_comm]
  · rw [if_neg hend, bind_eq_ok_iff]
    simp only [lineOf, bind_eq_ok_iff, mapError_eq_ok_iff]
    simp [hend, pure, Except.pure]

/-- What reading a line does: nothing to tokens and state, or a demarcation is counted, or a block
is executed. -/
theorem readLine_cases {setup : Setup} {p q : Program} {text : String} {handled : Bool}
    (h : p.readLine setup text = .ok (q, handled)) :
    (q.tokens = p.tokens ∧ q.state = p.state) ∨
      (isDemarcation text = true ∧ p.state.programEnd = false ∧ q.tokens = p.tokens ∧
        q.state = { p.state with
          demarcations := p.state.demarcations + 1
          programEnd := decide (2 ≤ p.state.demarcations + 1) }) ∨
      ∃ line ex tokens tools,
        executionOf setup.config setup.operator p.state line = .ok ex ∧
          ex.run = .ok (tokens, q.state, tools) ∧
          q.tokens.toList = p.tokens.toList ++ tokens ∧ p.state.programEnd = false := by
  rcases readLine_eq_ok_iff.mp h with ⟨-, rfl, -⟩ | ⟨-, line, result, hread, hresult, rfl, -⟩
  · exact .inl ⟨rfl, rfl⟩
  · rcases interpret_cases hresult with ⟨htokens, hstate⟩ | ⟨hcontent, hend, htokens, hstate⟩ |
      ⟨hend, ex, tools, hex, hrun⟩
    · exact .inl ⟨by simp [accept, htokens], hstate⟩
    · have hread : Line.read text = .ok ⟨line.source, .demarcation⟩ := by rw [hread, ← hcontent]
      exact .inr (.inl ⟨by rw [isDemarcation, hread], hend, by simp [accept, htokens], hstate⟩)
    · exact .inr (.inr ⟨line, ex, result.tokens, tools, hex, hrun, by simp [accept], hend⟩)

/-- Reading a line keeps the tokens so far, adds those of the line and is a lawful passage. -/
theorem readLine_eq_ok {setup : Setup} {p q : Program} {text : String} {handled : Bool}
    (h : p.readLine setup text = .ok (q, handled)) :
    ∃ tokens, q.tokens.toList = p.tokens.toList ++ tokens ∧
      Passage.Lawful setup ⟨p.state, tokens, q.state⟩ := by
  rcases readLine_cases h with ⟨htokens, hstate⟩ | ⟨-, -, htokens, hstate⟩ |
    ⟨line, ex, tokens, tools, hex, hrun, htokens, -⟩
  · rw [htokens, hstate]
    exact ⟨[], (List.append_nil _).symm, .idle p.state⟩
  · rw [htokens, hstate]
    exact ⟨[], (List.append_nil _).symm, .demarcation p.state _⟩
  · exact ⟨tokens, htokens, .block hex hrun⟩

/-- What every line that is read preserves holds after all lines. -/
theorem readLines_induction {P : Program → Prop} {setup : Setup} {p : Program} (hp : P p)
    (hstep : ∀ {p q text handled}, P p → p.readLine setup text = .ok (q, handled) → P q)
    (count : Nat) (lines : List String) : P (p.readLines setup count lines).1 := by
  induction lines generalizing p count with
  | nil => exact hp
  | cons text rest ih =>
    cases h : p.readLine setup text with
    | error failure =>
      simp only [readLines, h]
      exact hp
    | ok result =>
      simp only [readLines, h]
      exact ih (hstep hp h) _

/-- The lines of a program are a run. -/
theorem run_passages (setup : Setup) (p : Program) (count : Nat) (lines : List String) :
    Run setup p.state (p.passages setup lines) (p.readLines setup count lines).1.state := by
  induction lines generalizing p count with
  | nil => exact .nil p.state
  | cons text rest ih =>
    cases h : p.readLine setup text with
    | error failure =>
      simp only [passages, readLines, h]
      exact .nil p.state
    | ok result =>
      obtain ⟨q, handled⟩ := result
      obtain ⟨tokens, htokens, hlawful⟩ := readLine_eq_ok h
      simp only [passages, readLines, h, htokens, ← Array.length_toList, List.drop_left]
      exact .cons hlawful (ih q _)

/-- The tokens of a program are those of its passages. -/
theorem tokens_readLines (setup : Setup) (p : Program) (count : Nat) (lines : List String) :
    (p.readLines setup count lines).1.tokens.toList =
      p.tokens.toList ++ (p.passages setup lines).flatMap Passage.tokens := by
  induction lines generalizing p count with
  | nil => simp [readLines, passages]
  | cons text rest ih =>
    cases h : p.readLine setup text with
    | error failure => simp [readLines, passages, h]
    | ok result =>
      obtain ⟨q, handled⟩ := result
      obtain ⟨tokens, htokens, -⟩ := readLine_eq_ok h
      simp only [passages, readLines, h, ih, List.flatMap_cons, htokens, ← Array.length_toList,
        List.drop_left, List.append_assoc]

/-- If no line is refused, every line has its passage. -/
theorem length_passages {setup : Setup} {p : Program} {count : Nat} {lines : List String}
    (h : (p.readLines setup count lines).2.2 = none) :
    (p.passages setup lines).length = lines.length := by
  induction lines generalizing p count with
  | nil => rfl
  | cons text rest ih =>
    cases hline : p.readLine setup text with
    | error failure => simp [readLines, hline] at h
    | ok result =>
      simp only [readLines, hline] at h
      simp only [passages, hline, List.length_cons, ih h]

/-- A passage is between the states that its line finds and leaves. -/
theorem around_passages (setup : Setup) (p : Program) (count : Nat) (lines : List String) (i : Nat)
    (h : i < (p.passages setup lines).length) :
    (p.passages setup lines)[i].before = (p.readLines setup count (lines.take i)).1.state ∧
      (p.passages setup lines)[i].after =
        (p.readLines setup count (lines.take (i + 1))).1.state := by
  induction lines generalizing p count i with
  | nil => cases h
  | cons text rest ih =>
    cases hline : p.readLine setup text with
    | error failure => simp [passages, hline] at h
    | ok result =>
      obtain ⟨q, handled⟩ := result
      simp only [passages, hline] at h ⊢
      cases i with
      | zero => simp [readLines, hline]
      | succ i =>
        simp only [List.length_cons, Nat.add_lt_add_iff_right] at h
        simpa only [List.getElem_cons_succ, List.take_succ_cons, readLines, hline] using
          ih q (if handled then count + 1 else count) i h

end Program

end NumericControl
