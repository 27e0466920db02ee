import NumericControl.Proofs.Execution.Origin
import NumericControl.Proofs.Line.Values
import NumericControl.Proofs.Refusal.Execution
import NumericControl.Program
import NumericControl.Report.Basic

/-!
# Lines that fail by refusal only

The words of codes have to be whole numbers too, up to one digit.  Where all these words are finite
and the number of axes is given as a number, every line of a program is read or refused, and every
program has a report.

## Main definitions

* `Line.HasFiniteWholes`, `HasFiniteWholes` : the words of a line, or of a text, that have to be
  whole numbers are finite.

## Main results

* `failsOnly_interpret`, `Program.failsOnly_readLine` : lines fail by refusal only.
* `exists_validateFrom` : the lines of a program have a report.
* `Program.readLine_of_not_finite` : a line that starts with a code without a finite number fails
  without a refusal, in every state.
* `validate_of_hasFiniteWholes` : both for whole programs.
-/

namespace NumericControl

/-- The words of a line that have to be whole numbers are finite. -/
def Line.HasFiniteWholes (line : Line) : Prop :=
  ∀ w ∈ line.words, w.letter ∈ 'G' :: 'M' :: Execution.wholeLetters → Number.IsFinite w.value

/-- The words of a text that have to be whole numbers are finite. -/
def HasFiniteWholes (text : String) : Prop :=
  ∀ line, Line.read text = .ok line → line.HasFiniteWholes

instance (line : Line) : Decidable line.HasFiniteWholes :=
  inferInstanceAs (Decidable (∀ w ∈ line.words, _))

instance (text : String) : Decidable (HasFiniteWholes text) :=
  match h : Line.read text with
  | .ok line =>
    decidable_of_iff line.HasFiniteWholes
      ⟨fun hfinite line' hline => by rw [h] at hline; cases hline; exact hfinite,
        fun hfinite => hfinite line h⟩
  | .error _ => .isTrue fun line hline => by rw [h] at hline; cases hline

/-- The number of a finite code can be split. -/
theorem exists_splitCode {value : Float} (h : Number.IsFinite value) :
    ∃ n, splitCode value = .ok n := by
  obtain ⟨b, hb⟩ := h
  simp [splitCode, Number.floor, hb]

namespace Block

variable {ctx : BlockContext}

theorem failsOnly_addCode (b : Block) (word : Word) (code : Code) :
    FailsOnly Failure.IsRefusal (b.addCode ctx word code) := by
  unfold addCode
  split
  · exact .error (isRefusal_refuse _ _ _)
  · split
    · exact .error (isRefusal_refuse _ _ _)
    · split
      · exact .error (isRefusal_refuse _ _ _)
      · exact .ok _

theorem failsOnly_addG (b : Block) {word : Word} (h : Number.IsFinite word.value) :
    FailsOnly Failure.IsRefusal (b.addG ctx word) := by
  obtain ⟨n, hn⟩ := exists_splitCode h
  unfold addG
  rw [hn]
  dsimp only [Except.mapError, bind, Except.bind]
  split
  · exact b.failsOnly_addCode word _
  · exact .error (isRefusal_refuse _ _ _)

theorem failsOnly_addM (b : Block) {word : Word} (h : Number.IsFinite word.value) :
    FailsOnly Failure.IsRefusal (b.addM ctx word) := by
  obtain ⟨n, hn⟩ := exists_splitCode h
  unfold addM
  rw [hn]
  dsimp only [Except.mapError, bind, Except.bind]
  split
  · exact .ok _
  · exact b.failsOnly_addCode word _

theorem failsOnly_addValue (b : Block) (word : Word) (hcount : ctx.config.axisCountIsText = false) :
    FailsOnly Failure.IsRefusal (b.addValue ctx word) := by
  unfold addValue
  rw [hcount]
  split
  · exact .error (isRefusal_refuse _ _ _)
  · split
    · contradiction
    · split
      · exact .error (isRefusal_refuse _ _ _)
      · exact .ok _

theorem failsOnly_addAll (hcount : ctx.config.axisCountIsText = false) {words : List Word}
    (h : ∀ w ∈ words, w.letter ∈ ['G', 'M'] → Number.IsFinite w.value) (b : Block) :
    FailsOnly Failure.IsRefusal (b.addAll ctx words) := by
  induction words generalizing b with
  | nil => exact .ok b
  | cons word rest ih =>
    have hword : FailsOnly Failure.IsRefusal (b.add ctx word) := by
      unfold add
      split
      · rename_i hletter
        exact b.failsOnly_addG (h word List.mem_cons_self (by simp [beq_iff_eq.mp hletter]))
      · split
        · rename_i hletter
          exact b.failsOnly_addM (h word List.mem_cons_self (by simp [beq_iff_eq.mp hletter]))
        · exact b.failsOnly_addValue word hcount
    exact hword.bind fun b' _ => ih (fun w hw => h w (List.mem_cons_of_mem word hw)) b'

theorem failsOnly_owner (b : Block) : FailsOnly Failure.IsRefusal (b.owner ctx) := by
  unfold owner
  split
  · split
    · exact .error (isRefusal_refuse _ _ _)
    · exact .ok _
  · split
    · exact .ok _
    · exact .ok _

end Block

variable {config : Config} {operator : Operator} {s : State} {line : Line} {ex : Execution}

/-- An execution has finite whole numbers if its line has. -/
theorem Line.HasFiniteWholes.executionOf (h : line.HasFiniteWholes)
    (hex : executionOf config operator s line = .ok ex) : ex.HasFiniteWholes := by
  intro letter hletter value hvalue
  obtain ⟨w, hw, rfl, rfl⟩ := exists_word_of_word? hex hvalue
  exact h w hw (List.mem_cons_of_mem _ (List.mem_cons_of_mem _ hletter))

theorem failsOnly_executionOf (hcount : config.axisCountIsText = false)
    (h : line.HasFiniteWholes) :
    FailsOnly Failure.IsRefusal (executionOf config operator s line) := by
  have hwords : ∀ w ∈ line.words, w.letter ∈ ['G', 'M'] → Number.IsFinite w.value := by
    intro w hw hletter
    refine h w hw ?_
    simp only [List.mem_cons, List.not_mem_nil, or_false] at hletter ⊢
    exact hletter.imp_right .inl
  have hblock : FailsOnly Failure.IsRefusal
      (Block.ofWords (blockContext config operator s line) line.words) :=
    (Block.failsOnly_addAll hcount hwords {}).bind fun b _ =>
      b.failsOnly_owner.bind fun _ _ => .ok _
  exact hblock.bind fun _ _ => .ok _

/-- The interpretation of a line fails by refusal only. -/
theorem failsOnly_interpret (hcount : config.axisCountIsText = false)
    (h : line.HasFiniteWholes) :
    FailsOnly Failure.IsRefusal (interpret config operator s line) := by
  unfold interpret
  split
  · exact .ok _
  · split
    case h_5 =>
      exact (failsOnly_executionOf hcount h).bind fun ex hex =>
        (h.executionOf hex).run.bind fun _ _ => .ok _
    all_goals exact .ok _

/-- Reading a line fails by refusal only. -/
theorem Program.failsOnly_readLine {setup : Setup} (hcount : setup.config.axisCountIsText = false)
    {text : String} (h : HasFiniteWholes text) (p : Program) :
    FailsOnly Failure.IsRefusal (p.readLine setup text) := by
  unfold readLine
  split
  · exact .ok _
  · refine FailsOnly.bind ?_ fun line hline => ?_
    · unfold lineOf
      cases Line.read text with
      | ok line => exact .ok line
      | error e => exact .error ⟨_, rfl⟩
    · have hfinite := h line (mapError_eq_ok_iff.mp hline)
      exact (failsOnly_interpret hcount hfinite).bind fun _ _ => .ok _

/-- The lines of a program have a report, refused lines included. -/
theorem exists_validateFrom (hcount : config.axisCountIsText = false) {lines : List String}
    (h : ∀ text ∈ lines, HasFiniteWholes text) (p : Program) (report : Report) :
    ∃ result, validateFrom config p report lines = .ok result := by
  induction lines generalizing p report with
  | nil => exact ⟨_, rfl⟩
  | cons text rest ih =>
    have hrest := ih fun other hother => h other (List.mem_cons_of_mem text hother)
    have hline : FailsOnly Failure.IsRefusal (p.readLine ⟨config, {}⟩ text) :=
      p.failsOnly_readLine hcount (h text List.mem_cons_self)
    rw [validateFrom]
    cases hread : p.readLine ⟨config, {}⟩ text with
    | ok result => exact hrest result.1 _
    | error failure =>
      obtain ⟨e, rfl⟩ := hline failure hread
      exact hrest p _

/-! ### Codes that are too large -/

/-- A line that starts with a code without a finite number has no execution. -/
theorem executionOf_of_not_finite {w : Word} {rest : List Word} {fault : Number.NotFinite}
    (hwords : line.words = w :: rest) (hletter : w.letter = 'G' ∨ w.letter = 'M')
    (hvalue : Number.floor w.value = .error fault) :
    executionOf config operator s line = .error (.notWhole fault) := by
  have hsplit : splitCode w.value = .error fault := by rw [splitCode, hvalue]
  have hadd : ({} : Block).add (blockContext config operator s line) w =
      .error (.notWhole fault) := by
    rcases hletter with hletter | hletter
    · rw [Block.add, hletter, Block.addG, hsplit]
      rfl
    · rw [Block.add, hletter, Block.addM, hsplit]
      rfl
  rw [executionOf, Block.ofWords, hwords, Block.addAll, hadd]
  rfl

/-- Reading such a line fails, and not by a refusal. -/
theorem Program.readLine_of_not_finite (setup : Setup) {p : Program} {text : String}
    (hread : Line.read text = .ok line) (hend : p.state.programEnd = false) {w : Word}
    {rest : List Word} {fault : Number.NotFinite} (hwords : line.words = w :: rest)
    (hletter : w.letter = 'G' ∨ w.letter = 'M') (hvalue : Number.floor w.value = .error fault) :
    p.readLine setup text = .error (.notWhole fault) := by
  have hline : p.lineOf text = .ok line := by rw [lineOf, hread]; rfl
  have hinterpret : interpret setup.config setup.operator p.state line =
      .error (.notWhole fault) := by
    unfold interpret
    rw [hend]
    cases hcontent : line.content with
    | block items =>
      dsimp only [interpretBlock]
      rw [executionOf_of_not_finite hwords hletter hvalue]
      rfl
    | blank | comment | passThrough | demarcation =>
      simp [Line.words, hcontent, Content.items] at hwords
  rw [readLine, hend, hline]
  simp only [Bool.false_eq_true, if_false, bind, Except.bind, hinterpret]

/-- More digits than a finite number has. -/
def hugeDigits : List Char :=
  List.replicate 310 '9'

/-- A code that is too large. -/
def hugeCode : String :=
  String.ofList ('G' :: hugeDigits)

/-- The number of the digits is infinite. -/
theorem floor_hugeDigits :
    Number.floor (Number.Plain.value ⟨false, hugeDigits, []⟩) = .error .infinity := by
  -- the digits are counted first, or else the conversion would count them at every step
  have hdigits : Number.digitsValue (hugeDigits ++ []) = 10 ^ 310 - 1 := by decide +kernel
  have hreading : Number.Reading.of (Number.nearest false (10 ^ 310 - 1) (-((0 : Nat) : Int))) =
      .infinite false := by
    decide +kernel
  rw [Number.Plain.value, hdigits, List.length_nil, Number.floor, hreading]

/-- The line of the code is read, and its only word has no finite number. -/
theorem exists_read_hugeCode :
    ∃ line w, Line.read hugeCode = .ok line ∧ line.words = [w] ∧ w.letter = 'G' ∧
      Number.floor w.value = .error .infinity := by
  have hsource : Line.sourceOf hugeCode = 'G' :: hugeDigits := by
    have htext : hugeCode.toList = 'G' :: hugeDigits := String.toList_ofList
    have hends : (Text.dropTailWhile Text.isLineEnd ('G' :: hugeDigits)).filter
        (· != Line.byteOrderMark) = 'G' :: hugeDigits := by
      decide +kernel
    unfold Line.sourceOf
    rw [htext, hends]
  have hwords : (Line.ofSource ('G' :: hugeDigits)).toOption.map (fun line =>
      line.words.map fun w => (w.letter, w.digits)) = some [('G', hugeDigits)] := by
    decide +kernel
  have hplain : Number.plain? hugeDigits = some ⟨false, hugeDigits, []⟩ := by decide +kernel
  obtain ⟨line, hline, hwords⟩ := map_toOption_eq_some_iff.mp hwords
  have hread : Line.read hugeCode = .ok line :=
    Line.read_eq_ok_iff.mpr (by rw [hsource, hline])
  obtain ⟨w, hw, hword⟩ := List.map_eq_singleton_iff.mp hwords
  obtain ⟨hletter, hdigits⟩ := Prod.mk.inj hword
  obtain ⟨p, hp, hvalue⟩ := Line.hasWrittenValue_of_read hread w (hw ▸ List.mem_singleton_self w)
  rw [hdigits, hplain] at hp
  cases hp
  exact ⟨line, w, hread, hw, hletter, by rw [hvalue, floor_hugeDigits]⟩

/-! ### Whole programs -/

/-- Where the words that have to be whole numbers are finite, every line is read or refused in
every state, and every program has a report. -/
theorem validate_of_hasFiniteWholes (config : Config) (hcount : config.axisCountIsText = false) :
    (∀ (operator : Operator) (p : Program) (text : String), HasFiniteWholes text →
      FailsOnly Failure.IsRefusal (p.readLine ⟨config, operator⟩ text)) ∧
    ∀ lines : List String, (∀ text ∈ lines, HasFiniteWholes text) →
      ∃ report, validate config lines = .ok report := by
  refine ⟨fun operator p text h => p.failsOnly_readLine hcount h, fun lines h => ?_⟩
  obtain ⟨⟨p, report⟩, hreport⟩ :=
    exists_validateFrom hcount h .empty { dialect := config.dialect }
  exact ⟨_, bind_eq_ok_iff.mpr ⟨_, hreport, rfl⟩⟩

/-- A program with a refused line. -/
def repeatedCode : List String :=
  ["G1 X2", "G0 G1", "N3 T1 M61 Q2"]

theorem validate_repeatedCode :
    ({} : Config).axisCountIsText = false ∧ (∀ text ∈ repeatedCode, HasFiniteWholes text) ∧
      ∃ report, validate {} repeatedCode = .ok report ∧ report.errorCount = 1 := by
  have hfinite : ∀ text ∈ repeatedCode, HasFiniteWholes text := by decide +kernel
  have hcount : (validate {} repeatedCode).toOption.map Report.errorCount = some 1 := by
    decide +kernel
  obtain ⟨report, hreport⟩ := (validate_of_hasFiniteWholes {} rfl).2 repeatedCode hfinite
  rw [hreport] at hcount
  exact ⟨rfl, hfinite, report, hreport, Option.some.inj hcount⟩

theorem not_isRefusal_hugeCode :
    (∃ failure, Program.empty.readLine {} hugeCode = .error failure ∧ ¬ failure.IsRefusal) ∧
      ¬ ∃ report, validate {} [hugeCode] = .ok report := by
  obtain ⟨line, w, hread, hwords, hletter, hvalue⟩ := exists_read_hugeCode
  have hline (setup : Setup) :
      Program.empty.readLine setup hugeCode = .error (.notWhole .infinity) :=
    Program.readLine_of_not_finite setup hread rfl hwords (.inl hletter) hvalue
  refine ⟨⟨_, hline {}, ?_⟩, ?_⟩
  · rintro ⟨e, he⟩
    cases he
  · rintro ⟨report, hreport⟩
    obtain ⟨result, hresult, -⟩ := bind_eq_ok_iff.mp hreport
    rw [validateFrom, hline] at hresult
    cases hresult

end NumericControl
