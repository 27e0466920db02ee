import NumericControl.Proofs.Modes.Follower
import NumericControl.Proofs.Program.Run

/-!
# The modes that the tokens of a program tell

From the state after a reset, whoever follows the tokens of a program knows all modes of its state.
Demarcations have no tokens, so the program end is known as long as fewer than two of them have
been read.

## Main definitions

* `Program.told` : the state that the tokens of a program tell.
* `Program.IsTold` : the tokens of a program tell its modes and, but for demarcations, its end.

## Main results

* `Program.IsTold.readLine` : reading a line keeps it so.
* `Program.sameModes_told_readLines` : it is so after any lines.
-/

namespace NumericControl

namespace Program

variable {setup : Setup} {p q : Program} {text : String} {handled : Bool}

/-- The state that the tokens of a program tell. -/
def told (p : Program) : State :=
  p.tokens.toList.foldl State.follow .initial

/-- The tokens of a program tell its modes, and its end unless demarcations ended it. -/
structure IsTold (p : Program) : Prop where
  modes : SameModes p.told p.state
  programEnd : p.state.programEnd = (p.told.programEnd || decide (2 ≤ p.state.demarcations))

theorem isTold_empty : IsTold empty :=
  ⟨.refl _, rfl⟩

/-- Reading a line keeps what the tokens tell in step with the state. -/
theorem IsTold.readLine (hp : p.IsTold) (h : p.readLine setup text = .ok (q, handled)) :
    q.IsTold := by
  rcases readLine_cases h with ⟨htokens, hstate⟩ | ⟨-, hend, htokens, hstate⟩ |
    ⟨line, ex, tokens, tools, hex, hrun, htokens, hend⟩
  · have htold : q.told = p.told := by rw [told, htokens, told]
    exact ⟨htold ▸ hstate ▸ hp.modes, htold ▸ hstate ▸ hp.programEnd⟩
  · have htold : q.told = p.told := by rw [told, htokens, told]
    have htoldEnd : p.told.programEnd = false :=
      (Bool.or_eq_false_iff.mp (hp.programEnd.symm.trans hend)).1
    refine ⟨?_, ?_⟩
    · rw [htold, hstate]
      exact { hp.modes with }
    · rw [htold, hstate, htoldEnd, Bool.false_or]
  · have htold : q.told = tokens.foldl State.follow p.told := by
      rw [told, htokens, List.foldl_append, told]
    have hslot := slot_le_of_executionOf hex
    have hstate := state_of_executionOf hex
    obtain ⟨-, -, number, tool, -, -, hnext⟩ := Execution.run_eq_ok_iff.mp hrun
    refine ⟨?_, ?_⟩
    · rw [htold]
      exact Execution.sameModes_foldl_follow hslot hrun (hstate ▸ hp.modes)
    · have hqEnd : q.state.programEnd = (p.state.programEnd || ex.endsProgram) := by
        rw [← hnext, ← hstate]
        rfl
      have hcount : q.state.demarcations = p.state.demarcations := by
        rw [← hnext, ← hstate]
        rfl
      rw [htold, Execution.programEnd_foldl_follow hslot hrun, hqEnd, hcount, hp.programEnd,
        Bool.or_right_comm]

/-- A line adds to the count of demarcations only if it is one. -/
theorem demarcations_readLine_le (h : p.readLine setup text = .ok (q, handled)) :
    q.state.demarcations ≤ p.state.demarcations + if isDemarcation text then 1 else 0 := by
  rcases readLine_cases h with ⟨-, hstate⟩ | ⟨hdemarcation, -, -, hstate⟩ |
    ⟨line, ex, tokens, tools, hex, hrun, -, -⟩
  · rw [hstate]
    exact Nat.le_add_right _ _
  · rw [hstate, hdemarcation]
    exact Nat.le_refl _
  · obtain ⟨-, -, number, tool, -, -, hnext⟩ := Execution.run_eq_ok_iff.mp hrun
    have hcount : q.state.demarcations = p.state.demarcations := by
      rw [← hnext, ← state_of_executionOf hex]
      rfl
    rw [hcount]
    exact Nat.le_add_right _ _

/-- Reading lines keeps what the tokens tell in step with the state. -/
theorem IsTold.readLines (hp : p.IsTold) (count : Nat) (lines : List String) :
    (p.readLines setup count lines).1.IsTold :=
  readLines_induction hp (fun hp h => hp.readLine h) count lines

/-- No more demarcations are counted than there are. -/
theorem demarcations_readLines_le (setup : Setup) (p : Program) (count : Nat)
    (lines : List String) :
    (p.readLines setup count lines).1.state.demarcations ≤
      p.state.demarcations + lines.countP isDemarcation := by
  induction lines generalizing p count with
  | nil => exact Nat.le_refl _
  | cons text rest ih =>
    rw [List.countP_cons]
    cases h : p.readLine setup text with
    | error failure =>
      simp only [Program.readLines, h]
      omega
    | ok result =>
      simp only [Program.readLines, h]
      have hline := demarcations_readLine_le h
      have hrest := ih result.1 (if result.2 then count + 1 else count)
      omega

/-- The tokens of a program tell all modes of its state after any lines.  They tell its end as
well, unless the second demarcation ended it. -/
theorem sameModes_told_readLines (setup : Setup) (lines : List String) :
    let program := (empty.readLines setup 0 lines).1
    SameModes program.told program.state ∧
      program.state.programEnd =
        (program.told.programEnd || decide (2 ≤ program.state.demarcations)) ∧
      program.state.demarcations ≤ lines.countP isDemarcation := by
  have h : IsTold (empty.readLines setup 0 lines).1 := isTold_empty.readLines 0 lines
  have hcount := demarcations_readLines_le setup empty 0 lines
  exact ⟨h.modes, h.programEnd, by simpa [empty, State.initial] using hcount⟩

end Program

end NumericControl
