import NumericControl.Proofs.Execution.Stages

/-!
# Executions with another message

Of the configuration an execution needs the dialect only, and that only to refuse the tool table
in the embedded dialect; its message goes into one token in front of all others.  So an execution
in another configuration that has the tool table too, with another operator and another message,
has the same tokens behind that one and the same state after it.

## Main definitions

* `Execution.restate` : an execution with another configuration, operator and message.
* `messageTokens` : the token of a message, if the message has a text.

## Main results

* `Execution.run_restate` : the outcome of an execution that is restated.
-/

namespace NumericControl

/-- The token of a message on a line, if the message has a text. -/
def messageTokens (line : Nat) : Option String → List Token
  | none | some "" => []
  | some text => [⟨.comment, line, .comment text⟩]

theorem messageTokens_of_ne {line : Nat} {text : String} (h : text ≠ "") :
    messageTokens line (some text) = [⟨.comment, line, .comment text⟩] := by
  unfold messageTokens
  split <;> simp_all

/-- A change that leaves messages without a text alone shows in the tokens. -/
theorem messageTokens_map_eq_iff {line : Nat} {message : Option String} {f : String → String}
    (hf : f "" = "") :
    messageTokens line (message.map f) = messageTokens line message ↔ message.map f = message := by
  refine ⟨fun h => ?_, fun h => by rw [h]⟩
  cases message with
  | none => rfl
  | some text =>
    by_cases htext : text = ""
    · rw [htext, Option.map_some, hf]
    · by_cases hchanged : f text = ""
      · rw [Option.map_some, hchanged, messageTokens_of_ne htext] at h
        cases h
      · rw [Option.map_some, messageTokens_of_ne htext, messageTokens_of_ne hchanged] at h
        simp only [List.cons.injEq, Token.mk.injEq, Token.Body.comment.injEq, and_true,
          true_and] at h
        rw [Option.map_some, h]

namespace Execution

variable (ex : Execution) (config : Config) (operator : Operator) (message : Option String)

/-- The execution of the same block in another configuration, with another operator and another
message. -/
def restate : Execution :=
  { ex with config, operator, message }

theorem messageStage_eq : ∃ o, ex.messageStage = .ok o ∧
    o.toList = messageTokens ex.lineNumber ex.message := by
  cases hmessage : ex.message with
  | none =>
    refine ⟨none, ?_, rfl⟩
    rw [messageStage, hmessage]
  | some text =>
    by_cases htext : text = ""
    · refine ⟨none, ?_, ?_⟩
      · rw [messageStage, hmessage, htext]
        rfl
      · rw [htext]
        rfl
    · refine ⟨some (ex.token .comment (.comment text)), ?_, ?_⟩
      · rw [messageStage, hmessage]
        split <;> simp_all
      · rw [messageTokens_of_ne htext]
        rfl

variable {config}

/-- Setting data succeeds wherever the tool table is at hand as before. -/
theorem setDataStage_restate (htable : ex.config.dialect ≠ .embedded → config.dialect ≠ .embedded)
    {o : Option Token} (h : ex.setDataStage = .ok o) :
    (ex.restate config operator message).setDataStage = .ok o := by
  have hconfig : (ex.restate config operator message).config = config := rfl
  unfold setDataStage at h ⊢
  rw [hconfig]
  obtain ⟨value, hvalue, h⟩ := bind_eq_ok_iff.mp h
  obtain ⟨form, hform, h⟩ := bind_eq_ok_iff.mp h
  obtain ⟨choice?, hchoice, h⟩ := bind_eq_ok_iff.mp h
  refine bind_eq_ok_iff.mpr ⟨value, hvalue, bind_eq_ok_iff.mpr ⟨form, hform, ?_⟩⟩
  refine bind_eq_ok_iff.mpr ⟨choice?, hchoice, ?_⟩
  dsimp only at h ⊢
  split at h
  · rename_i hcoordinates
    rw [if_pos hcoordinates]
    exact h
  · rename_i hcoordinates
    split at h
    · rename_i hentry
      rw [if_neg hcoordinates, if_pos ⟨hentry.1, htable hentry.2⟩]
      exact h
    · cases h

theorem positioningStage_restate
    (htable : ex.config.dialect ≠ .embedded → config.dialect ≠ .embedded) {o : Option Token}
    (h : ex.positioningStage = .ok o) :
    (ex.restate config operator message).positioningStage = .ok o := by
  have hcode : (ex.restate config operator message).positioning? = ex.positioning? := rfl
  unfold positioningStage at h ⊢
  rw [hcode]
  split at h
  case h_2 => exact ex.setDataStage_restate operator message htable h
  all_goals exact h

/-- Only the first stage looks at the message, and no stage at more than the dialect. -/
theorem stage_restate (htable : ex.config.dialect ≠ .embedded → config.dialect ≠ .embedded)
    {stage : Execution → Except Failure (Option Token)} (hstage : stage ∈ stages.tail)
    {o : Option Token} (h : stage ex = .ok o) :
    stage (ex.restate config operator message) = .ok o := by
  simp only [stages, List.tail_cons, List.mem_cons, List.not_mem_nil, or_false] at hstage
  rcases hstage with rfl | rfl | rfl | rfl | rfl | rfl | rfl | rfl | rfl | rfl | rfl | rfl | rfl |
    rfl | rfl | rfl | rfl | rfl | rfl | rfl | rfl | rfl | rfl | rfl | rfl
  any_goals first
    | exact ex.positioningStage_restate operator message htable h
    | exact h

theorem tokensOf_restate (htable : ex.config.dialect ≠ .embedded → config.dialect ≠ .embedded)
    {list : List (Execution → Except Failure (Option Token))}
    (hlist : ∀ stage ∈ list, stage ∈ stages.tail) {tokens : List Token}
    (h : ex.tokensOf list = .ok tokens) :
    (ex.restate config operator message).tokensOf list = .ok tokens := by
  induction list generalizing tokens with
  | nil => exact h
  | cons stage rest ih =>
    obtain ⟨o, ts, ho, hts, rfl⟩ := tokensOf_cons_eq_ok_iff.mp h
    have hstage := ex.stage_restate operator message htable (hlist stage List.mem_cons_self) ho
    have hrest := ih (fun other hother => hlist other (List.mem_cons_of_mem stage hother)) hts
    exact tokensOf_cons_eq_ok_iff.mpr ⟨o, ts, hstage, hrest, rfl⟩

/-- An execution that is restated has the same tokens behind that of its message and the same state
and tools. -/
theorem run_restate (htable : ex.config.dialect ≠ .embedded → config.dialect ≠ .embedded)
    {tokens : List Token} {next : State} {tools : List Int}
    (h : ex.run = .ok (tokens, next, tools)) :
    ∃ rest, tokens = messageTokens ex.lineNumber ex.message ++ rest ∧
      (ex.restate config operator message).run =
        .ok (messageTokens ex.lineNumber message ++ rest, next, tools) := by
  obtain ⟨htokens, htools, number, tool, hnumber, htool, hnext⟩ := run_eq_ok_iff.mp h
  obtain ⟨o, rest, hmessage, hrest, rfl⟩ := tokensOf_cons_eq_ok_iff.mp htokens
  obtain ⟨o₁, ho₁, hlist₁⟩ := ex.messageStage_eq
  obtain ⟨o₂, ho₂, hlist₂⟩ := (ex.restate config operator message).messageStage_eq
  rw [hmessage] at ho₁
  cases ho₁
  have hrest' := ex.tokensOf_restate operator message htable (fun _ h => h) hrest
  refine ⟨rest, by rw [hlist₁], run_eq_ok_iff.mpr ⟨?_, htools, number, tool, hnumber, htool, hnext⟩⟩
  refine tokensOf_cons_eq_ok_iff.mpr ⟨o₂, rest, ho₂, hrest', ?_⟩
  rw [hlist₂]
  rfl

end Execution

end NumericControl
