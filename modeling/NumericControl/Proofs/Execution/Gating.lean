import Mathlib.Data.List.Basic
import NumericControl.Proofs.Block.WordOrder
import NumericControl.Proofs.Execution.Origin
import NumericControl.Proofs.Execution.Restatement

/-!
# What the dialect and the axis count decide

The dialect and the axis count decide which words have a role, but not which one.  So two
configurations that differ in nothing else and accept a line accept it with the same result.  The
extended dialect accepts every line that the embedded dialect accepts, and every line without G90.1
that another dialect accepts; and a machine with more axes accepts what one with fewer axes does.

## Main definitions

* `Config.SamePolicies` : configurations that differ in dialect and axis count only.
* `Accepts` : a line that is accepted in a state.

## Main results

* `BlockContext.Gives.unique` : the role of a word is the same wherever it has one.
* `interpret_of_gives` : a line whose words keep their roles is interpreted alike.
* `interpret_gated` : dialect and axis count decide which lines are accepted, and nothing else.
-/

namespace NumericControl

/-- Configurations that differ at most in the dialect and the axis count. -/
structure Config.SamePolicies (config config' : Config) : Prop where
  toolChange : config'.toolChange = config.toolChange
  mist : config'.mist = config.mist
  flood : config'.flood = config.flood

variable {config config' : Config} {operator : Operator} {s : State} {line : Line} {w : Word}

namespace Config.SamePolicies

theorem symm (h : config.SamePolicies config') : config'.SamePolicies config :=
  ⟨h.toolChange.symm, h.mist.symm, h.flood.symm⟩

/-- The same words are removed. -/
theorem ignores_eq (h : config.SamePolicies config') (w : Word) :
    (blockContext config' operator s line).ignores w =
      (blockContext config operator s line).ignores w := by
  have hpolicy : config'.policy = config.policy := by
    funext code
    rw [policy, policy, h.toolChange, h.mist, h.flood]
  have hstrips : (blockContext config' operator s line).strips =
      (blockContext config operator s line).strips := by
    funext number
    unfold BlockContext.strips blockContext
    rw [hpolicy]
  rw [BlockContext.ignores, BlockContext.ignores, hstrips]

end Config.SamePolicies

/-! ### The roles of words in two configurations -/

namespace BlockContext

variable {ctx ctx' : BlockContext} {r r' : Role}

/-- What a word contributes is decided by its letter, its value and the policy: in two contexts that
remove the same words it has the same role, if it has one in both. -/
theorem Gives.unique (hignores : ctx'.ignores w = ctx.ignores w) (h : ctx.Gives w r)
    (h' : ctx'.Gives w r') : r' = r := by
  rw [← role?_eq_some_iff] at h'
  cases h with
  | ofG number listed _ =>
    rw [role?_of_isG number, listed] at h'
    exact (allowed?_eq_some_iff.mp h').2
  | ofM number kept _ =>
    rw [role?_of_isM number, hignores, kept] at h'
    exact (allowed?_eq_some_iff.mp h').2
  | removed number ignored =>
    rw [role?_of_isM number, hignores, if_pos ignored] at h'
    exact (Option.some.inj h').symm
  | value kind _ =>
    rw [role?_of_isValue kind] at h'
    exact (roleOfValue?_eq_some_iff.mp h').2

/-- A word keeps its role in a context that has its code and takes its letter. -/
theorem Gives.mono (hignores : ctx'.ignores w = ctx.ignores w) (h : ctx.Gives w r)
    (hcode : ∀ c, ctx.Gives w (.code c) → c.allowedIn ctx'.config.dialect)
    (hletter : ctx.config.TakesLetter w.letter → ctx'.config.TakesLetter w.letter) :
    ctx'.Gives w r := by
  cases h with
  | ofG number listed allowed => exact .ofG number listed (hcode _ (.ofG number listed allowed))
  | ofM number kept allowed =>
    exact .ofM number (hignores.trans kept) (hcode _ (.ofM number kept allowed))
  | removed number ignored => exact .removed number (hignores.trans ignored)
  | value kind letter => exact .value kind (hletter letter)

end BlockContext

/-- G90.1 is the only code that the extended dialect does not have. -/
theorem BlockContext.Gives.allowedIn_extended {ctx : BlockContext} {c : Code}
    (h : ctx.Gives w (.code c)) (hw : ¬ w.IsG (90, 1)) : c.allowedIn .extended := by
  cases h with
  | ofG number listed _ =>
    rw [(Code.listed_of_ofG? listed).allowed, Dialect.withheld, List.mem_singleton]
    rintro rfl
    exact hw number
  | ofM => exact (Code.allowedIn_ofM _ _).mpr (by simp)

/-- The embedded dialect does not have G90.1. -/
theorem BlockContext.Gives.not_isG_of_embedded {ctx : BlockContext} {r : Role} (h : ctx.Gives w r)
    (hdialect : ctx.config.dialect = .embedded) : ¬ w.IsG (90, 1) := by
  intro hw
  cases h with
  | ofG number listed allowed =>
    rw [hdialect, (Code.listed_of_ofG? listed).allowed, isG_unique number hw] at allowed
    exact allowed (by decide)
  | ofM number | removed number => exact not_isM_of_isG hw number
  | value kind => exact kind.1 hw.1

/-- A machine with more axes takes the letters of one with fewer axes. -/
theorem Config.TakesLetter.mono {letter : Char} (h : config.TakesLetter letter)
    (hcount : config.axisCount ≤ config'.axisCount) (htext : config'.axisCountIsText = false) :
    config'.TakesLetter letter := by
  rcases h with ⟨axis, hletter, hindex, -⟩ | h
  · exact .inl ⟨axis, hletter, Nat.lt_of_lt_of_le hindex hcount, htext⟩
  · exact .inr h

/-! ### Lines whose words keep their roles -/

/-- Words with the same roles make the same block. -/
theorem Block.addAll_of_role?_eq {ctx ctx' : BlockContext} {words : List Word} {b : Block}
    (hroles : ∀ w ∈ words, ctx'.role? w = ctx.role? w)
    (h : ({} : Block).addAll ctx words = .ok b) : ({} : Block).addAll ctx' words = .ok b := by
  obtain ⟨hsome, hpairwise, hadmits, rfl⟩ := addAll_eq_ok_iff.mp h
  have hrolesOf : ctx'.roles words = ctx.roles words := List.filterMap_congr hroles
  have hremoved : words.filter ctx'.removes = words.filter ctx.removes := by
    refine List.filter_congr fun w hw => ?_
    rw [BlockContext.removes, BlockContext.removes, hroles w hw]
  refine addAll_eq_ok_iff.mpr ⟨fun w hw => (hroles w hw).symm ▸ hsome w hw, ?_, ?_, ?_⟩
  · rwa [hrolesOf]
  · rwa [hrolesOf]
  · rw [extend, extend, hrolesOf, hremoved]

/-- A line whose words have the same roles in another configuration is executed as before. -/
theorem executionOf_of_role?_eq {ex : Execution}
    (hroles : ∀ w ∈ line.words, (blockContext config' operator s line).role? w =
      (blockContext config operator s line).role? w)
    (h : executionOf config operator s line = .ok ex) :
    executionOf config' operator s line = .ok (ex.restate config' operator line.message?) := by
  obtain ⟨b, owner, hb, howner, rfl⟩ := executionOf_eq_ok_iff.mp h
  have hsame : SameOutcome (b.owner (blockContext config operator s line))
      (b.owner (blockContext config' operator s line)) := Block.owner_congr rfl rfl rfl rfl
  obtain ⟨_, howner', rfl⟩ := hsame.exists_ok howner
  exact executionOf_eq_ok_iff.mpr ⟨b, owner, Block.addAll_of_role?_eq hroles hb, howner', rfl⟩

/-- Every word of a line that is accepted before the program end has a role. -/
theorem exists_gives_of_interpret (hend : s.programEnd = false) {result : LineResult}
    (h : interpret config operator s line = .ok result) :
    ∀ w ∈ line.words, ∃ r, (blockContext config operator s line).Gives w r := by
  intro w hw
  cases interpret_eq_ok_iff.mp h with
  | ended hended =>
    rw [hend] at hended
    cases hended
  | passedOver _ hcontent =>
    rcases hcontent with hcontent | hcontent <;> simp [Line.words, hcontent, Content.items] at hw
  | comment _ hcontent | demarcation _ hcontent => simp [Line.words, hcontent, Content.items] at hw
  | block _ _ hex _ =>
    obtain ⟨b, owner, hb, -, -⟩ := executionOf_eq_ok_iff.mp hex
    obtain ⟨hsome, -⟩ := Block.addAll_eq_ok_iff.mp hb
    obtain ⟨r, hr⟩ := Option.isSome_iff_exists.mp (hsome w hw)
    exact ⟨r, BlockContext.role?_eq_some_iff.mp hr⟩

/-- A line whose words keep their roles in another configuration is accepted with the same result,
unless it sets data of the tool table, which the embedded dialect does not have. -/
theorem interpret_of_gives (htable : config.dialect ≠ .embedded → config'.dialect ≠ .embedded)
    (hgives : ∀ w ∈ line.words, ∀ r, (blockContext config operator s line).Gives w r →
      (blockContext config' operator s line).Gives w r) {result : LineResult}
    (h : interpret config operator s line = .ok result) :
    interpret config' operator s line = .ok result := by
  cases interpret_eq_ok_iff.mp h with
  | ended hend => exact interpret_eq_ok_iff.mpr (.ended hend)
  | passedOver hend hcontent => exact interpret_eq_ok_iff.mpr (.passedOver hend hcontent)
  | comment hend hcontent => exact interpret_eq_ok_iff.mpr (.comment hend hcontent)
  | demarcation hend hcontent => exact interpret_eq_ok_iff.mpr (.demarcation hend hcontent)
  | @block items ex tokens next tools hend hcontent hex hrun =>
    have hroles : ∀ w ∈ line.words, (blockContext config' operator s line).role? w =
        (blockContext config operator s line).role? w := by
      intro w hw
      obtain ⟨r, hr⟩ := exists_gives_of_interpret hend h w hw
      rw [BlockContext.role?_eq_some_iff.mpr hr,
        BlockContext.role?_eq_some_iff.mpr (hgives w hw r hr)]
    have hex' := executionOf_of_role?_eq hroles hex
    obtain ⟨b, owner, -, -, rfl⟩ := executionOf_eq_ok_iff.mp hex
    obtain ⟨rest, rfl, hrun'⟩ := Execution.run_restate _ operator line.message? htable hrun
    have hresult := Interpreted.block hend hcontent hex' hrun'
    exact interpret_eq_ok_iff.mpr hresult

/-- A line that is accepted in two configurations of the same policies has the same result. -/
theorem Config.SamePolicies.interpret_eq (hsame : config.SamePolicies config')
    {result result' : LineResult} (h : interpret config operator s line = .ok result)
    (h' : interpret config' operator s line = .ok result') : result' = result := by
  -- only one of the two dialects can lack the tool table that the other one has
  wlog htable : config.dialect ≠ .embedded → config'.dialect ≠ .embedded generalizing
    config config' result result'
  · rw [Classical.not_imp] at htable
    exact (this hsame.symm h' h fun _ => htable.1).symm
  have hresult : interpret config' operator s line = .ok result := by
    cases hend : s.programEnd with
    | true =>
      rw [interpret, if_pos hend] at h ⊢
      exact h
    | false =>
      refine interpret_of_gives htable (fun w hw r hr => ?_) h
      obtain ⟨r', hr'⟩ := exists_gives_of_interpret hend h' w hw
      rwa [← hr.unique (hsame.ignores_eq w) hr']
  rw [h'] at hresult
  exact Except.ok.inj hresult

/-! ### Dialects and axis counts -/

/-- A line that is accepted. -/
def Accepts (config : Config) (operator : Operator) (s : State) (line : Line) : Prop :=
  ∃ result, interpret config operator s line = .ok result

/-- The extended dialect accepts what another dialect accepts, but for G90.1. -/
theorem Accepts.extended (h : Accepts config operator s line)
    (hwords : ∀ w ∈ line.words, ∀ r, (blockContext config operator s line).Gives w r →
      ¬ w.IsG (90, 1)) :
    Accepts { config with dialect := .extended } operator s line := by
  obtain ⟨result, h⟩ := h
  have hsame : config.SamePolicies { config with dialect := .extended } := ⟨rfl, rfl, rfl⟩
  have htable : Dialect.extended ≠ .embedded := by decide
  refine ⟨result, interpret_of_gives (fun _ => htable) (fun w hw r hr => ?_) h⟩
  exact hr.mono (hsame.ignores_eq w) (fun c hc => hc.allowedIn_extended (hwords w hw r hr)) id

/-- A machine with more axes accepts what one with fewer axes accepts. -/
theorem Accepts.moreAxes (h : Accepts config operator s line) (hsame : config.SamePolicies config')
    (hdialect : config'.dialect = config.dialect) (hcount : config.axisCount ≤ config'.axisCount)
    (htext : config'.axisCountIsText = false) : Accepts config' operator s line := by
  obtain ⟨result, h⟩ := h
  refine ⟨result, interpret_of_gives (fun h => hdialect ▸ h) (fun w hw r hr => ?_) h⟩
  refine hr.mono (hsame.ignores_eq w) (fun c hc => ?_) fun hletter => hletter.mono hcount htext
  have hallowed : c.allowedIn config.dialect := by
    cases hc with
    | ofG number listed allowed => exact allowed
    | ofM number kept allowed => exact allowed
  exact hdialect.symm ▸ hallowed

/-- The dialect and the axis count decide which lines are accepted, and nothing else.  The extended
dialect accepts every line of the embedded dialect, and every line of the strict dialect that has no
G90.1; and a line that is accepted with some axes is accepted with more. -/
theorem interpret_gated (operator : Operator) (s : State) (line : Line) :
    (∀ config config' : Config, config.SamePolicies config' → ∀ result result',
        interpret config operator s line = .ok result →
        interpret config' operator s line = .ok result' → result' = result) ∧
      (∀ config : Config, config.dialect = .embedded → Accepts config operator s line →
        Accepts { config with dialect := .extended } operator s line) ∧
      (∀ config : Config, config.dialect = .strict → (∀ w ∈ line.words, ¬ w.IsG (90, 1)) →
        Accepts config operator s line →
        Accepts { config with dialect := .extended } operator s line) ∧
      ∀ config config' : Config, config.SamePolicies config' → config'.dialect = config.dialect →
        config.axisCount ≤ config'.axisCount → config'.axisCountIsText = false →
        Accepts config operator s line → Accepts config' operator s line := by
  refine ⟨fun config config' hsame result result' => hsame.interpret_eq, ?_, ?_, ?_⟩
  · intro config hdialect h
    exact h.extended fun w _ r hr => hr.not_isG_of_embedded hdialect
  · intro config _ hwords h
    exact h.extended fun w hw _ _ => hwords w hw
  · intro config config' hsame hdialect hcount htext h
    exact h.moreAxes hsame hdialect hcount htext

/-- A straight move on a machine of one axis in a given dialect. -/
def oneAxis (dialect : Dialect) : Config :=
  { dialect, axisCount := 1 }

theorem accepts_straightMove :
    Accepts (oneAxis .embedded) {} .initial straightMove ∧
      Accepts (oneAxis .strict) {} .initial straightMove ∧
      (∀ w ∈ straightMove.words, ¬ w.IsG (90, 1)) ∧
      Accepts (oneAxis .extended) {} .initial straightMove ∧
      Accepts { oneAxis .extended with axisCount := 6 } {} .initial straightMove ∧
      ∀ result result', interpret (oneAxis .embedded) {} .initial straightMove = .ok result →
        interpret (oneAxis .strict) {} .initial straightMove = .ok result' → result' = result := by
  have haccepts (dialect : Dialect)
      (h : (interpret (oneAxis dialect) {} .initial straightMove).toOption.isSome) :
      Accepts (oneAxis dialect) {} .initial straightMove := by
    obtain ⟨result, hresult⟩ := Option.isSome_iff_exists.mp h
    exact ⟨result, toOption_eq_some_iff.mp hresult⟩
  have hembedded := haccepts .embedded (by decide +kernel)
  have hstrict := haccepts .strict (by decide +kernel)
  have hwords : ∀ w ∈ straightMove.words, ¬ w.IsG (90, 1) := by
    unfold Word.IsG Word.number?
    decide +kernel
  obtain ⟨hequal, hextended, hextended', haxes⟩ := interpret_gated {} .initial straightMove
  refine ⟨hembedded, hstrict, hwords,
    hextended (oneAxis .embedded) rfl hembedded, ?_, ?_⟩
  · exact haxes (oneAxis .extended) { oneAxis .extended with axisCount := 6 } ⟨rfl, rfl, rfl⟩ rfl
      (by decide) rfl (hextended' (oneAxis .strict) rfl hwords hstrict)
  · exact hequal _ _ ⟨rfl, rfl, rfl⟩

end NumericControl
