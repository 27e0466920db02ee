import Mathlib.Data.List.Basic
import NumericControl.Proofs.Block.Revalued

/-!
# Programs in inches and in millimetres

Every length of a line in inches is converted exactly once: the words of the linear axes, the
offsets of arc centers and the radii.  So the line has the same outcome as the line in millimetres
in which these values are multiplied by the millimetres of an inch, and the states after the two
differ in their units only.  Lines that select units or scaling are left out, and so are the words
P, Q and E, which are lengths in some cycles and not in others.

## Main definitions

* `lengthLetters`, `metricValue` : the words that are lengths, and their values in millimetres.
* `State.inMetric`, `Execution.inMetric` : a state and an execution of the line in millimetres.
* `Execution.InInches` : an execution in inches, without the words and codes that are left out.
* `LineResult.SameButUnits` : results whose states differ in their units.

## Main results

* `Execution.InInches.run_inMetric` : the outcome of an execution in millimetres.
* `interpret_inMetric` : lines in inches and in millimetres have the same outcome.
-/

namespace NumericControl

/-- The letters of the words that are lengths: linear axes, arc offsets and radii. -/
def lengthLetters : List Char := ['X', 'Y', 'Z', 'I', 'J', 'K', 'R']

/-- The value in a program in millimetres of a word of a program in inches. -/
def metricValue (letter : Char) (value : Float) : Float :=
  if letter ∈ lengthLetters then value * Execution.inch else value

theorem metricValue_of_not_mem {letter : Char} (h : letter ∉ lengthLetters) (value : Float) :
    metricValue letter value = value :=
  if_neg h

theorem keepsCodes_metricValue : KeepsCodes metricValue :=
  ⟨metricValue_of_not_mem (by decide), metricValue_of_not_mem (by decide)⟩

/-- A state with millimetres in force. -/
def State.inMetric (s : State) : State :=
  { s with units := .metric }

namespace Execution

variable {ex : Execution}

/-- The execution of the line in millimetres. -/
def inMetric (ex : Execution) : Execution :=
  ex.revalue metricValue ex.state.inMetric

/-- An execution in inches that selects neither units nor scaling and has no word P, Q or E. -/
structure InInches (ex : Execution) : Prop where
  units : ex.state.units = .imperial
  noUnits : ex.units? = none
  noScaling : ex.scaling? = none
  lacks : ∀ letter ∈ ['P', 'Q', 'E'], ex.word? letter = none

/-! ### Words -/

theorem word?_inMetric (letter : Char) :
    ex.inMetric.word? letter = (ex.word? letter).map (metricValue letter) :=
  rfl

theorem word?_inMetric_of_not_mem {letter : Char} (h : letter ∉ lengthLetters) :
    ex.inMetric.word? letter = ex.word? letter := by
  have hvalue : metricValue letter = id := funext (metricValue_of_not_mem h)
  rw [word?_inMetric, hvalue, Option.map_id_apply]

theorem wholeWord?_inMetric_of_not_mem {letter : Char} (h : letter ∉ lengthLetters) :
    ex.inMetric.wholeWord? letter = ex.wholeWord? letter := by
  rw [wholeWord?, wholeWord?, word?_inMetric_of_not_mem h]

theorem require_inMetric_of_not_mem {letter : Char} (h : letter ∉ lengthLetters)
    (command : String) : ex.inMetric.require letter command = ex.require letter command := by
  rw [require, require, word?_inMetric_of_not_mem h]
  rfl

theorem given_axisWords_inMetric : ex.inMetric.axisWords.given = ex.axisWords.given := by
  unfold axisWords PerAxis.given
  refine List.filter_congr fun axis _ => ?_
  rw [PerAxis.get_ofFn, PerAxis.get_ofFn, word?_inMetric, Option.isSome_map]

/-! ### Stages without lengths -/

theorem feedStage_inMetric : ex.inMetric.feedStage = ex.feedStage := by
  rw [feedStage, feedStage, word?_inMetric_of_not_mem (by decide)]
  rfl

theorem spindleSpeedStage_inMetric : ex.inMetric.spindleSpeedStage = ex.spindleSpeedStage := by
  rw [spindleSpeedStage, spindleSpeedStage, word?_inMetric_of_not_mem (by decide)]
  rfl

theorem toolSelectStage_inMetric : ex.inMetric.toolSelectStage = ex.toolSelectStage := by
  rw [toolSelectStage, toolSelectStage, wholeWord?_inMetric_of_not_mem (by decide)]
  rfl

theorem toolNumber?_inMetric : ex.inMetric.toolNumber? = ex.toolNumber? := by
  rw [toolNumber?, toolNumber?, require_inMetric_of_not_mem (by decide)]
  rfl

theorem toolChangeStage_inMetric : ex.inMetric.toolChangeStage = ex.toolChangeStage := by
  rw [toolChangeStage, toolChangeStage, toolNumber?_inMetric]
  rfl

theorem userStage_inMetric : ex.inMetric.userStage = ex.userStage := by
  have hparameters : ex.inMetric.parameters = ex.parameters := by
    unfold parameters
    refine congrArg _ (List.filterMap_congr fun letter hletter => ?_)
    have hdisjoint : parameterLetters.Disjoint lengthLetters := by
      simp [parameterLetters, lengthLetters]
    rw [word?_inMetric_of_not_mem (hdisjoint hletter)]
  rw [userStage, userStage, hparameters]
  rfl

theorem dwellStage_inMetric : ex.inMetric.dwellStage = ex.dwellStage := by
  rw [dwellStage, dwellStage, require_inMetric_of_not_mem (by decide)]
  rfl

/-- A threading cycle needs its pitch, which is a P word. -/
theorem threadMove_of_word?_eq_none (hpitch : ex.word? 'P' = none) :
    ex.threadMove = .error (ex.refuse (.missing 'P') "G76") := by
  rw [threadMove, require, hpitch]
  rfl

namespace InInches

variable (h : ex.InInches)

include h

theorem units_eq : ex.units = .imperial := by
  rw [Execution.units, h.noUnits, Option.getD_none, h.units]

theorem units_inMetric : ex.inMetric.units = .metric := by
  have hnone : ex.inMetric.units? = none := h.noUnits
  rw [Execution.units, hnone, Option.getD_none]
  rfl

/-! ### Lengths -/

/-- A length is converted once. -/
theorem millimetres_metricValue {letter : Char} (hletter : letter ∈ lengthLetters) (value : Float) :
    ex.inMetric.millimetres (metricValue letter value) = ex.millimetres value := by
  rw [millimetres, millimetres, h.units_inMetric, h.units_eq]
  exact if_pos hletter

theorem map_millimetres {letter : Char} (hletter : letter ∈ lengthLetters) :
    (ex.inMetric.word? letter).map ex.inMetric.millimetres =
      (ex.word? letter).map ex.millimetres := by
  rw [word?_inMetric, Option.map_map]
  exact congrArg (Option.map · (ex.word? letter)) (funext (h.millimetres_metricValue hletter))

theorem scaleFactors_inMetric : ex.inMetric.scaleFactors = ex.scaleFactors := by
  have hnone : ex.inMetric.scaling? = none := h.noScaling
  rw [scaleFactors, scaleFactors, hnone, h.noScaling]
  rfl

theorem scalingActive_inMetric : ex.inMetric.scalingActive = ex.scalingActive := by
  rw [scalingActive, scalingActive, h.scaleFactors_inMetric]

/-- A linear axis is converted once, a rotary axis not at all. -/
theorem converted_metricValue (axis : Axis) (value : Float) :
    ex.inMetric.converted axis (metricValue axis.letter value) = ex.converted axis value := by
  have hlength : (if axis.isLinear then ex.inMetric.millimetres (metricValue axis.letter value)
      else metricValue axis.letter value) =
      if axis.isLinear then ex.millimetres value else value := by
    cases hlinear : axis.isLinear with
    | true =>
      have hletter : axis.letter ∈ lengthLetters := by
        revert hlinear
        cases axis <;> decide
      exact h.millimetres_metricValue hletter value
    | false =>
      have hletter : axis.letter ∉ lengthLetters := by
        revert hlinear
        cases axis <;> decide
      exact metricValue_of_not_mem hletter value
  rw [converted, converted, h.scalingActive_inMetric, h.scaleFactors_inMetric, hlength]

theorem lengthWords_inMetric : ex.inMetric.lengthWords = ex.lengthWords := by
  have hnone : ex.inMetric.scaling? = none := h.noScaling
  rw [lengthWords, lengthWords, hnone, h.noScaling]
  refine PerAxis.ext_get fun axis => ?_
  simp only [axisWords, PerAxis.get_ofFn, word?_inMetric, Option.map_map]
  exact congrArg (Option.map · (ex.word? axis.letter)) (funext (h.converted_metricValue axis))

theorem coordinateWords_inMetric : ex.inMetric.coordinateWords = ex.coordinateWords := by
  rw [coordinateWords, coordinateWords, h.lengthWords_inMetric]
  rfl

theorem offset_inMetric {letter : Char} (hletter : letter ∈ lengthLetters) (axis : Axis) :
    ex.inMetric.offset letter axis = ex.offset letter axis := by
  unfold offset
  rw [h.scalingActive_inMetric, h.scaleFactors_inMetric, word?_inMetric, Option.map_map]
  refine congrArg (Option.map · (ex.word? letter)) (funext fun value => ?_)
  rw [Function.comp_apply, h.millimetres_metricValue hletter]

theorem offsets_inMetric : ex.inMetric.offsets = ex.offsets := by
  rw [offsets, offsets, h.offset_inMetric (by decide), h.offset_inMetric (by decide),
    h.offset_inMetric (by decide)]

theorem arcRadiusOf_metricValue (value : Float) :
    ex.inMetric.arcRadiusOf (metricValue 'R' value) = ex.arcRadiusOf value := by
  rw [arcRadiusOf, arcRadiusOf, h.millimetres_metricValue (by decide), h.scalingActive_inMetric,
    h.scaleFactors_inMetric]
  rfl

/-! ### Positions -/

theorem axisValues_inMetric : ex.inMetric.axisValues = ex.axisValues := by
  rw [axisValues, axisValues, h.coordinateWords_inMetric]
  rfl

theorem axes_inMetric : ex.inMetric.axes = ex.axes := by
  rw [axes, axes, h.coordinateWords_inMetric]

theorem target_inMetric : ex.inMetric.target = ex.target := by
  rw [target, target, h.axisValues_inMetric, h.axes_inMetric]

theorem dynamicOffsets_inMetric : ex.inMetric.dynamicOffsets = ex.dynamicOffsets := by
  rw [dynamicOffsets, dynamicOffsets, h.lengthWords_inMetric]
  rfl

theorem positioned_inMetric : ex.inMetric.positioned = ex.positioned := by
  rw [positioned, positioned, h.axisValues_inMetric, h.axes_inMetric]
  rfl

theorem moves_inMetric : ex.inMetric.moves = ex.moves := by
  rw [moves, moves, h.axes_inMetric]
  rfl

theorem moveEnd_inMetric : ex.inMetric.moveEnd = ex.moveEnd := by
  rw [moveEnd, moveEnd, h.axisValues_inMetric, h.axes_inMetric]
  rfl

theorem position_inMetric : ex.inMetric.position = ex.position := by
  rw [position, position, h.moves_inMetric, h.moveEnd_inMetric, h.positioned_inMetric]

theorem drillPlane_inMetric : ex.inMetric.drillPlane = ex.drillPlane := by
  have hmotion : ex.inMetric.motion = ex.motion := rfl
  have hstate : ex.inMetric.state.drillPlane = ex.state.drillPlane := rfl
  unfold drillPlane
  rw [hmotion, h.moves_inMetric, hstate, word?_inMetric]
  cases ex.motion with
  | drill cycle =>
    cases ex.word? 'R' with
    | none => rfl
    | some r =>
      rw [Option.map_some]
      dsimp only
      rw [h.millimetres_metricValue (by decide)]
  | _ => rfl

theorem toolOffsets_inMetric : ex.inMetric.toolOffsets = ex.toolOffsets := by
  rw [toolOffsets, toolOffsets, h.dynamicOffsets_inMetric]
  rfl

/-! ### Stages with lengths -/

theorem scalingStage_inMetric : ex.inMetric.scalingStage = ex.scalingStage := by
  rw [scalingStage, scalingStage, h.scaleFactors_inMetric, given_axisWords_inMetric]
  rfl

theorem toolLengthStage_inMetric : ex.inMetric.toolLengthStage = ex.toolLengthStage := by
  have hnumber : ex.inMetric.toolOffsetNumber = ex.toolOffsetNumber := by
    rw [toolOffsetNumber, toolOffsetNumber, wholeWord?_inMetric_of_not_mem (by decide)]
    rfl
  rw [toolLengthStage, toolLengthStage, hnumber, h.dynamicOffsets_inMetric, h.lengthWords_inMetric]
  rfl

theorem setDataStage_inMetric : ex.inMetric.setDataStage = ex.setDataStage := by
  have hcoordinates (choice : Int) :
      ex.inMetric.setCoordinates choice = ex.setCoordinates choice := by
    rw [setCoordinates, setCoordinates, h.target_inMetric]
    rfl
  have hentry (form choice : Int) :
      ex.inMetric.setToolEntry form choice = ex.setToolEntry form choice := by
    rw [setToolEntry, setToolEntry, h.target_inMetric, h.map_millimetres (by decide)]
    rfl
  rw [setDataStage, setDataStage, require_inMetric_of_not_mem (by decide),
    wholeWord?_inMetric_of_not_mem (by decide)]
  simp only [hcoordinates, hentry]
  rfl

theorem positioningStage_inMetric : ex.inMetric.positioningStage = ex.positioningStage := by
  rw [positioningStage, positioningStage, h.setDataStage_inMetric, h.target_inMetric]
  rfl

theorem arcMove_inMetric (clockwise : Bool) :
    ex.inMetric.arcMove clockwise = ex.arcMove clockwise := by
  have hradius (radius : Float) :
      ex.inMetric.radiusArc clockwise radius = ex.radiusArc clockwise radius := by
    rw [radiusArc, radiusArc, h.moveEnd_inMetric, h.target_inMetric]
    rfl
  have hoffset : ex.inMetric.offsetArc clockwise = ex.offsetArc clockwise := by
    rw [offsetArc, offsetArc, h.offsets_inMetric, h.target_inMetric]
    rfl
  rw [arcMove, arcMove, word?_inMetric, hoffset]
  cases ex.word? 'R' with
  | none => rfl
  | some value =>
    rw [Option.map_some]
    dsimp only
    rw [h.arcRadiusOf_metricValue, hradius]

theorem spindleSyncMove_inMetric : ex.inMetric.spindleSyncMove = ex.spindleSyncMove := by
  rw [spindleSyncMove, spindleSyncMove, h.offsets_inMetric, h.target_inMetric]
  rfl

theorem threadMove_inMetric : ex.inMetric.threadMove = ex.threadMove := by
  have hnone := h.lacks 'P' (by decide)
  have hnone' : ex.inMetric.word? 'P' = none := by
    rw [word?_inMetric, hnone, Option.map_none]
  rw [threadMove_of_word?_eq_none hnone, threadMove_of_word?_eq_none hnone']
  rfl

/-- A cycle that drills in steps needs a step, which is a Q word. -/
theorem peckOf_inMetric (cycle : DrillCycle) : ex.inMetric.peckOf cycle = ex.peckOf cycle := by
  rw [peckOf, peckOf, word?_inMetric_of_not_mem (by decide), h.lacks 'Q' (by decide)]
  rfl

theorem drillMove_inMetric (cycle : DrillCycle) :
    ex.inMetric.drillMove cycle = ex.drillMove cycle := by
  have hradius : (ex.inMetric.word? 'R').isNone = (ex.word? 'R').isNone := by
    rw [word?_inMetric, Option.isNone_map]
  rw [drillMove, drillMove, wholeWord?_inMetric_of_not_mem (by decide), hradius,
    h.peckOf_inMetric, h.target_inMetric, h.drillPlane_inMetric,
    word?_inMetric_of_not_mem (by decide)]
  rfl

theorem motionStage_inMetric : ex.inMetric.motionStage = ex.motionStage := by
  have hmove : ex.inMetric.move = ex.move := by
    have hmotion : ex.inMetric.motion = ex.motion := rfl
    rw [move, move, hmotion, h.target_inMetric]
    split
    case h_4 => rw [h.arcMove_inMetric]
    case h_5 => rw [h.spindleSyncMove_inMetric]
    case h_6 => rw [h.threadMove_inMetric]
    case h_7 => rw [h.drillMove_inMetric]
    all_goals rfl
  rw [motionStage, motionStage, h.moves_inMetric, hmove]
  rfl

/-- Every stage does the same in inches and in millimetres. -/
theorem stage_inMetric {stage : Execution → Except Failure (Option Token)}
    (hstage : stage ∈ stages) : stage ex.inMetric = stage ex := by
  simp only [stages, List.mem_cons, List.not_mem_nil, or_false] at hstage
  rcases hstage with rfl | rfl | rfl | rfl | rfl | rfl | rfl | rfl | rfl | rfl | rfl | rfl | rfl |
    rfl | rfl | rfl | rfl | rfl | rfl | rfl | rfl | rfl | rfl | rfl | rfl | rfl
  any_goals first
    | exact feedStage_inMetric
    | exact spindleSpeedStage_inMetric
    | exact toolSelectStage_inMetric
    | exact toolChangeStage_inMetric
    | exact userStage_inMetric
    | exact dwellStage_inMetric
    | exact h.scalingStage_inMetric
    | exact h.toolLengthStage_inMetric
    | exact h.positioningStage_inMetric
    | exact h.motionStage_inMetric
    | rfl

/-! ### The whole block -/

theorem next_inMetric (sequenceNumber tool : Int) :
    ex.inMetric.next sequenceNumber tool = (ex.next sequenceNumber tool).inMetric := by
  rw [next, next, h.units_inMetric, h.toolOffsets_inMetric, h.scaleFactors_inMetric,
    h.axisValues_inMetric, h.position_inMetric, h.drillPlane_inMetric]
  rfl

/-- The execution in millimetres has the same tokens and tools and the same state after it but for
the units, or it fails in the same way. -/
theorem run_inMetric :
    Corresponds Failure.SameKind
      (fun x y => y.1 = x.1 ∧ x.2.1.units = .imperial ∧ y.2.1 = x.2.1.inMetric ∧ y.2.2 = x.2.2)
      ex.run ex.inMetric.run := by
  have hnumber : ex.inMetric.sequenceNumber = ex.sequenceNumber := by
    rw [sequenceNumber, sequenceNumber, wholeWord?_inMetric_of_not_mem (by decide)]
    rfl
  have htool : ex.inMetric.tool = ex.tool := by
    rw [tool, tool, wholeWord?_inMetric_of_not_mem (by decide), toolNumber?_inMetric]
    rfl
  have hrequests : ex.inMetric.toolRequests = ex.toolRequests := by
    rw [toolRequests, toolRequests, wholeWord?_inMetric_of_not_mem (by decide)]
  have htokens : SameOutcome (ex.tokensOf stages) (ex.inMetric.tokensOf stages) :=
    tokensOf_congr fun stage hstage => .of_eq (h.stage_inMetric hstage).symm
  rw [run, run, hnumber, htool, hrequests]
  refine (SameOutcome.refl _).bind fun number => htokens.bind fun tokens => ?_
  refine (SameOutcome.refl _).bind fun tool => (SameOutcome.refl _).bind fun tools => ?_
  exact .ok ⟨rfl, h.units_eq, h.next_inMetric number tool, rfl⟩

end InInches

end Execution

/-! ### Lines -/

variable {config : Config} {operator : Operator} {s : State} {line line' : Line}

/-- No M number is in the group of units or of scaling. -/
private theorem exists_isG_of_inGroup {w : Word} {group : ModalGroup}
    (hgroup : group = .units ∨ group = .scaling) (hw : w.InGroup group) :
    ∃ n ∈ group.gNumbers, w.IsG n := by
  rcases hw with ⟨n, hn, hmem⟩ | ⟨n, -, hn⟩
  · exact ⟨n, hmem, hn⟩
  · have hM : mGroup n ≠ .units ∧ mGroup n ≠ .scaling := by
      unfold mGroup
      split_ifs <;> decide
    rcases hgroup with rfl | rfl
    · exact absurd hn hM.1
    · exact absurd hn hM.2

/-- The execution of a line in inches without the words that are left out. -/
theorem inInches_of_executionOf {ex : Execution} (hunits : s.units = .imperial)
    (hcodes : ∀ w ∈ line.words, ∀ n ∈ [(20, 0), (21, 0), (50, 0), (51, 0)], ¬ w.IsG n)
    (hletters : ∀ w ∈ line.words, w.letter ∉ ['P', 'Q', 'E'])
    (h : executionOf config operator s line = .ok ex) : ex.InInches := by
  have hnone {α : Type} {group : ModalGroup} (f : Code → Option α)
      (hgroup : group = .units ∨ group = .scaling)
      (hnumbers : ∀ n ∈ group.gNumbers, n ∈ [(20, 0), (21, 0), (50, 0), (51, 0)]) :
      ex.code? group f = none := by
    unfold Execution.code?
    cases hcode : ex.codes group with
    | none => rfl
    | some c =>
      obtain ⟨w, hw, hin⟩ := exists_inGroup_of_codes h hcode
      obtain ⟨n, hn, hG⟩ := exists_isG_of_inGroup hgroup hin
      exact absurd hG (hcodes w hw n (hnumbers n hn))
  refine ⟨?_, hnone _ (.inl rfl) (by decide), hnone _ (.inr rfl) (by decide), ?_⟩
  · rw [state_of_executionOf h, hunits]
  · intro letter hletter
    cases hword : ex.word? letter with
    | none => rfl
    | some value =>
      obtain ⟨w, hw, rfl, -⟩ := exists_word_of_word? h hword
      exact absurd hletter (hletters w hw)

/-- Results with the same tokens and warnings, of which the first has inches in force and the
second the same state with millimetres in force. -/
structure LineResult.SameButUnits (result result' : LineResult) : Prop where
  tokens : result'.tokens = result.tokens
  units : result.state.units = .imperial
  state : result'.state = result.state.inMetric
  handled : result'.handled = result.handled
  warnings : result'.warnings = result.warnings

/-- A line in inches and the line in millimetres whose lengths are multiplied by the millimetres of
an inch have the same outcome: equal tokens, or failures of one kind.  The states after them differ
in their units only. -/
theorem interpret_inMetric (config : Config) (operator : Operator) (s : State) (line line' : Line)
    (hunits : s.units = .imperial) (hblock : ∃ items, line.content = .block items)
    (hblock' : ∃ items, line'.content = .block items) (hmessage : line'.message? = line.message?)
    (hwords : line'.words.map Word.key =
      line.words.map fun w => (w.letter, metricValue w.letter w.value))
    (hcodes : ∀ w ∈ line.words, ∀ n ∈ [(20, 0), (21, 0), (50, 0), (51, 0)], ¬ w.IsG n)
    (hletters : ∀ w ∈ line.words, w.letter ∉ ['P', 'Q', 'E']) :
    Corresponds Failure.SameKind LineResult.SameButUnits (interpret config operator s line)
      (interpret config operator s.inMetric line') := by
  obtain ⟨items, hitems⟩ := hblock
  obtain ⟨items', hitems'⟩ := hblock'
  have hend : s.inMetric.programEnd = s.programEnd := rfl
  rw [interpret_block hitems, interpret_block hitems', hend]
  split
  · exact .ok ⟨rfl, hunits, rfl, rfl, rfl⟩
  · have hnumber : s.inMetric.lineNumber = s.lineNumber := rfl
    refine (executionOf_of_revalues keepsCodes_metricValue hnumber hmessage hwords).bind ?_
    rintro ex _ hex ⟨stripped, rfl⟩
    have hinches := inInches_of_executionOf hunits hcodes hletters hex
    have hinMetric : ex.revalue metricValue s.inMetric = ex.inMetric := by
      rw [Execution.inMetric, state_of_executionOf hex]
    have hrun := hinches.run_inMetric.trans_same (ex.inMetric.run_relocate line'.source stripped)
    rw [hinMetric]
    refine hrun.bind ?_
    rintro ⟨tokens, next, tools⟩ ⟨tokens', next', tools'⟩ - ⟨htokens, hnext, hnext', htools⟩
    refine .ok ⟨htokens, hnext, hnext', rfl, ?_⟩
    exact congrArg (toolWarnings operator) htools

/-- The straight move with its length in millimetres. -/
def straightMoveInMetric : Line :=
  ⟨"G1 X50.8".toList,
    .block [.word ⟨'G', ['1'], 1.0, 0, 2⟩, .word ⟨'X', "50.8".toList, 50.8, 3, 8⟩]⟩

/-- The first state with inches in force. -/
def State.initialInInches : State :=
  { State.initial with units := .imperial }

theorem interpret_straightMoveInMetric :
    State.initialInInches.units = .imperial ∧
      straightMoveInMetric.message? = straightMove.message? ∧
      straightMoveInMetric.words.map Word.key =
        (straightMove.words.map fun w => (w.letter, metricValue w.letter w.value)) ∧
      Corresponds Failure.SameKind LineResult.SameButUnits
        (interpret {} {} .initialInInches straightMove)
        (interpret {} {} State.initialInInches.inMetric straightMoveInMetric) := by
  have hmessage : straightMoveInMetric.message? = straightMove.message? := by decide
  have hwords : straightMoveInMetric.words.map Word.key =
      straightMove.words.map fun w => (w.letter, metricValue w.letter w.value) := by
    decide +kernel
  have hcodes : ∀ w ∈ straightMove.words, ∀ n ∈ [(20, 0), (21, 0), (50, 0), (51, 0)],
      ¬ w.IsG n := by
    unfold Word.IsG Word.number?
    decide +kernel
  exact ⟨rfl, hmessage, hwords, interpret_inMetric {} {} .initialInInches straightMove
    straightMoveInMetric rfl ⟨_, rfl⟩ ⟨_, rfl⟩ hmessage hwords hcodes (by decide)⟩

end NumericControl
