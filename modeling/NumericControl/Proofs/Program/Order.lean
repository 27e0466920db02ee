import Mathlib.Data.Prod.Lex
import NumericControl.Proofs.Execution.Emission
import NumericControl.Proofs.Program.Run

/-!
# The order of the tokens of a program

The place of a token is the number of its line together with the rank of the stage that emits it.
A block is numbered after the blocks before it and emits its tokens in the order of the stages, so
the places of the tokens of a program increase.

## Main definitions

* `Token.place` : line and rank of a token, in lexicographic order.
* `Program.executed` : the lines of a program that are executed as blocks.
* `Program.InOrder` : the tokens so far are in order, on lines that have been counted.

## Main results

* `Execution.pairwise_place_run` : the tokens of a block are in order.
* `Program.InOrder.readLine` : reading a line keeps the tokens in order.
* `Program.lineNumber_readLines` : the line number counts the lines that are executed.
* `Program.strictlyOrdered_readLines` : the places of the tokens of a program increase.
-/

namespace NumericControl

/-- The place of a token: its line, and the rank of its stage. -/
def Token.place (t : Token) : Nat ×ₗ Nat :=
  toLex (t.line, t.command.stage.rank)

theorem Token.place_lt_iff {t u : Token} :
    t.place < u.place ↔
      t.line < u.line ∨ t.line = u.line ∧ t.command.stage.rank < u.command.stage.rank :=
  Prod.Lex.toLex_lt_toLex

/-- An execution has the number after that of the state in which its line is read. -/
theorem lineNumber_of_executionOf {config : Config} {operator : Operator} {s : State} {line : Line}
    {ex : Execution} (h : executionOf config operator s line = .ok ex) :
    ex.lineNumber = s.lineNumber + 1 := by
  obtain ⟨b, owner, -, -, rfl⟩ := executionOf_eq_ok_iff.mp h
  rfl

namespace Execution

variable {ex : Execution} {tokens : List Token} {next : State} {tools : List Int}

theorem line_of_run (h : ex.run = .ok (tokens, next, tools)) :
    ∀ t ∈ tokens, t.line = ex.lineNumber :=
  fun t ht => (emits_of_run h t ht).line_eq

/-- The tokens of a block are in order. -/
theorem pairwise_place_run (h : ex.run = .ok (tokens, next, tools)) :
    tokens.Pairwise fun t u => t.place < u.place := by
  have hranks := Stage.pairwise_rank_order.sublist (map_stage_run h)
  refine (List.pairwise_map.mp hranks).imp_of_mem fun ht hu hrank => ?_
  have hline := (line_of_run h _ ht).trans (line_of_run h _ hu).symm
  exact Token.place_lt_iff.mpr (.inr ⟨hline, hrank⟩)

theorem lineNumber_of_run (h : ex.run = .ok (tokens, next, tools)) :
    next.lineNumber = ex.lineNumber := by
  obtain ⟨-, -, number, tool, -, -, rfl⟩ := run_eq_ok_iff.mp h
  rfl

end Execution

namespace Program

variable {setup : Setup} {p q : Program} {text : String} {handled : Bool}

/-- Whether a text writes a block. -/
def isBlock (text : String) : Bool :=
  match Line.read text with
  | .ok ⟨_, .block _⟩ => true
  | _ => false

/-- The lines of a program that are executed as blocks: those that write one before the program
end, up to the first line that is refused. -/
def executed (setup : Setup) (p : Program) : List String → List String
  | [] => []
  | text :: rest =>
    match p.readLine setup text with
    | .ok (q, _) =>
      if !p.state.programEnd && isBlock text then text :: executed setup q rest
      else executed setup q rest
    | .error _ => []

/-- The tokens of a program are in order, and their lines have been counted. -/
structure InOrder (p : Program) : Prop where
  places : p.tokens.toList.Pairwise fun t u => t.place < u.place
  lines : ∀ t ∈ p.tokens.toList, 1 ≤ t.line ∧ t.line ≤ p.state.lineNumber

theorem inOrder_empty : InOrder empty :=
  ⟨.nil, fun _ ht => absurd ht List.not_mem_nil⟩

/-- Reading a line keeps the tokens in order: those of a block are on a line of their own. -/
theorem InOrder.readLine (hp : p.InOrder) (h : p.readLine setup text = .ok (q, handled)) :
    q.InOrder := by
  rcases readLine_cases h with ⟨htokens, hstate⟩ | ⟨-, -, htokens, hstate⟩ |
    ⟨line, ex, tokens, tools, hex, hrun, htokens, -⟩
  · exact ⟨htokens ▸ hp.places, htokens ▸ hstate ▸ hp.lines⟩
  · exact ⟨htokens ▸ hp.places, htokens ▸ hstate ▸ hp.lines⟩
  · have hnumber := lineNumber_of_executionOf hex
    have hnext := Execution.lineNumber_of_run hrun
    have hline := Execution.line_of_run hrun
    refine ⟨?_, fun t ht => ?_⟩
    · rw [htokens]
      refine List.pairwise_append.mpr ⟨hp.places, Execution.pairwise_place_run hrun, ?_⟩
      intro t ht u hu
      have hbound := (hp.lines t ht).2
      exact Token.place_lt_iff.mpr (.inl (by rw [hline u hu]; omega))
    · rw [htokens] at ht
      rcases List.mem_append.mp ht with ht | ht
      · have hbound := hp.lines t ht
        omega
      · rw [hline t ht]
        omega

/-- Reading lines keeps the tokens in order. -/
theorem InOrder.readLines (hp : p.InOrder) (count : Nat) (lines : List String) :
    (p.readLines setup count lines).1.InOrder :=
  readLines_induction hp (fun hp h => hp.readLine h) count lines

/-- A line adds one to the line number if it is executed as a block. -/
theorem lineNumber_readLine (h : p.readLine setup text = .ok (q, handled)) :
    q.state.lineNumber =
      p.state.lineNumber + if !p.state.programEnd && isBlock text then 1 else 0 := by
  rcases readLine_eq_ok_iff.mp h with ⟨hend, rfl, -⟩ | ⟨-, line, result, hread, hresult, rfl, -⟩
  · simp [hend]
  · obtain ⟨source, content⟩ := line
    cases interpret_eq_ok_iff.mp hresult with
    | ended hend => simp [accept, hend]
    | passedOver _ hcontent =>
      rcases hcontent with rfl | rfl <;> simp [accept, isBlock, hread]
    | comment _ hcontent | demarcation _ hcontent =>
      cases hcontent
      simp [accept, isBlock, hread]
    | block hend hcontent hex hrun =>
      cases hcontent
      rw [accept, Execution.lineNumber_of_run hrun, lineNumber_of_executionOf hex]
      simp [isBlock, hread, hend]

/-- The line number counts the lines that are executed. -/
theorem lineNumber_readLines (setup : Setup) (p : Program) (count : Nat) (lines : List String) :
    (p.readLines setup count lines).1.state.lineNumber =
      p.state.lineNumber + (p.executed setup lines).length := by
  induction lines generalizing p count with
  | nil => rfl
  | cons text rest ih =>
    cases h : p.readLine setup text with
    | error failure => simp [readLines, executed, h]
    | ok result =>
      have hline := lineNumber_readLine h
      simp only [readLines, executed, h, ih, hline]
      split
      · rw [List.length_cons]
        omega
      · omega

/-- The tokens of a program come out in the order of execution: by line, and on a line by stage.
So no line has two tokens of one stage.  Their lines are among those that have been executed, which
the line number counts. -/
theorem strictlyOrdered_readLines (setup : Setup) (lines : List String) :
    let program := (empty.readLines setup 0 lines).1
    let tokens := program.tokens.toList
    tokens.Pairwise (fun t u => t.place < u.place) ∧
      tokens.Pairwise (fun t u => t.line = u.line → t.command.stage ≠ u.command.stage) ∧
      (∀ t ∈ tokens, 1 ≤ t.line ∧ t.line ≤ program.state.lineNumber) ∧
      program.state.lineNumber = (empty.executed setup lines).length := by
  have h : (empty.readLines setup 0 lines).1.InOrder := inOrder_empty.readLines 0 lines
  refine ⟨h.places, h.places.imp fun {t u} hlt hline hstage => ?_, h.lines, ?_⟩
  · have hplace : t.place = u.place := by rw [Token.place, Token.place, hline, hstage]
    exact hlt.ne hplace
  · rw [lineNumber_readLines]
    exact Nat.zero_add _

end Program

end NumericControl
