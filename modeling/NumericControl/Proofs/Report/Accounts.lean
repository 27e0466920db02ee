import Mathlib.Algebra.GroupWithZero.Nat
import Mathlib.Data.List.Nodup
import NumericControl.Proofs.Report.Hazards
import NumericControl.Proofs.Report.Prediction

/-!
# The accounts of a report

There is something to say about a line if it is refused, or if it brings a hazard that no line
before it has brought.  A report counts these lines and lists the first of them, with their numbers
and what there is to say; whether a line is one of them depends on all lines before it, also on
those that are no longer listed.

## Main definitions

* `Reading.Shows` : a line that is read brings a hazard.
* `Reading.IsNoteworthy` : there is something to say about a line, after those before it.
* `Reading.issues` : what there is to say about it.
* `lineIssues` : all lines about which there is something to say.
* `Report.Accounts` : a report tells the readings of lines.

## Main results

* `newHazards_eq` : the hazards of tokens that are not known yet, each once and in order.
* `Report.Accounts.after` : a report that takes in one more reading.
* `Hazard.issue_ne_detail` : what is said about a hazard is not said about an error.
* `existsUnique_lineIssue` : a hazard is told of exactly one line.
* `validate_accounts` : what a report tells of the lines of a program.
-/

namespace NumericControl

/-! ### The wording of issues -/

/-- The wording of a hazard as an issue. -/
def Hazard.issue (hazard : Hazard) : String :=
  "Modal hazard: " ++ hazard.text

/-- Texts that differ at some place do so also if something follows. -/
theorem append_ne_append {a b : String} (i : ℕ) (ha : a.toList[i]?.isSome)
    (hb : b.toList[i]?.isSome) (hne : a.toList[i]? ≠ b.toList[i]?) (rest text : String) :
    a ++ rest ≠ b ++ text := by
  intro h
  have hplace : (a.toList ++ rest.toList)[i]? = (b.toList ++ text.toList)[i]? := by
    rw [← String.toList_append, ← String.toList_append, h]
  rw [List.getElem?_append_left (by simpa using ha),
    List.getElem?_append_left (by simpa using hb)] at hplace
  exact hne hplace

/-- Nothing that is said about a cause starts as what is said about a hazard. -/
theorem Cause.message_append_ne (cause : Cause) (rest text : String) :
    cause.message ++ rest ≠ "Modal hazard: " ++ text := by
  cases cause with
  | groupTwice group =>
    change "Modal group violation" ++ rest ≠ _
    exact append_ne_append 6 (by decide) (by decide) (by decide) rest text
  | missing letter =>
    -- the letter can be any one, but no space follows the first letter of a hazard
    refine append_ne_append 1 ?_ (by decide) ?_ rest text
    · change (String.singleton letter ++ " word missing").toList[1]?.isSome
      simp
    · change (String.singleton letter ++ " word missing").toList[1]? ≠ _
      simp
  | degenerate fault =>
    cases fault with
    | zeroRadius | coincident =>
      exact append_ne_append 0 (by decide) (by decide) (by decide) rest text
    | tooShort radius halfChord =>
      change "Arc radius " ++ _ ++ _ ++ _ ++ rest ≠ _
      simp only [String.append_assoc]
      exact append_ne_append 0 (by decide) (by decide) (by decide) _ text
  | unsupportedBy dialect =>
    change "Unsupported command for " ++ _ ++ _ ++ rest ≠ _
    simp only [String.append_assoc]
    exact append_ne_append 0 (by decide) (by decide) (by decide) _ text
  | axisUnavailable axis axisCount =>
    change "Axis " ++ _ ++ _ ++ _ ++ _ ++ rest ≠ _
    simp only [String.append_assoc]
    exact append_ne_append 0 (by decide) (by decide) (by decide) _ text
  | _ => exact append_ne_append 0 (by decide) (by decide) (by decide) rest text

/-- What is said about a hazard is not said about an error. -/
theorem Hazard.issue_ne_detail (hazard : Hazard) (e : ParseError) : hazard.issue ≠ e.detail := by
  intro h
  unfold ParseError.detail at h
  split at h
  · exact e.cause.message_append_ne "" hazard.text (String.append_empty.trans h.symm)
  · exact e.cause.message_append_ne "" hazard.text (String.append_empty.trans h.symm)
  · rw [String.append_assoc, String.append_assoc] at h
    exact e.cause.message_append_ne _ hazard.text h.symm

theorem Hazard.issue_injective : Function.Injective Hazard.issue := by
  intro a b h
  cases a <;> cases b <;> first | rfl | exact absurd h (by decide)

/-! ### Readings -/

namespace Reading

/-- The hazards that a line brings if it is read, in the order of its tokens. -/
def hazards (r : Reading) : List Hazard :=
  if r.failure?.isNone then r.tokens.filterMap Token.hazard? else []

/-- A line that is read brings a hazard. -/
def Shows (r : Reading) (hazard : Hazard) : Prop :=
  r.failure? = none ∧ ∃ t ∈ r.tokens, t.hazard? = some hazard

instance (r : Reading) (hazard : Hazard) : Decidable (r.Shows hazard) :=
  inferInstanceAs (Decidable (_ ∧ _))

theorem mem_hazards_iff {r : Reading} {hazard : Hazard} : hazard ∈ r.hazards ↔ r.Shows hazard := by
  unfold hazards Shows
  split
  · rename_i h
    rw [List.mem_filterMap, and_iff_right (Option.isNone_iff_eq_none.mp h)]
  · rename_i h
    exact iff_of_false List.not_mem_nil fun hshows => h (Option.isNone_iff_eq_none.mpr hshows.1)

/-- The hazards that a line is the first one to bring, each once. -/
def firstHazards (earlier : List Reading) (r : Reading) : List Hazard :=
  (r.hazards.filter fun hazard => earlier.all fun e => !e.hazards.contains hazard).eraseDups

/-- There is something to say about a line: it fails, or it brings a hazard that no earlier line has
brought. -/
def IsNoteworthy (earlier : List Reading) (r : Reading) : Prop :=
  r.failure?.isSome ∨ ∃ hazard, r.Shows hazard ∧ ∀ e ∈ earlier, ¬ e.Shows hazard

/-- What there is to say about a line: why it is refused, or which hazards it is the first one to
bring. -/
def issues (earlier : List Reading) (r : Reading) : List String :=
  match r.refusal? with
  | some e => [e.detail]
  | none => (r.firstHazards earlier).map Hazard.issue

theorem mem_firstHazards_iff {earlier : List Reading} {r : Reading} {hazard : Hazard} :
    hazard ∈ r.firstHazards earlier ↔ r.Shows hazard ∧ ∀ e ∈ earlier, ¬ e.Shows hazard := by
  simp [firstHazards, List.mem_eraseDups, ← mem_hazards_iff]

/-- A line is told to bring a hazard if it is the first one that does so. -/
theorem issue_mem_issues_iff {earlier : List Reading} {r : Reading} {hazard : Hazard} :
    hazard.issue ∈ r.issues earlier ↔ r.Shows hazard ∧ ∀ e ∈ earlier, ¬ e.Shows hazard := by
  rw [← mem_firstHazards_iff, issues]
  cases hrefusal : r.refusal? with
  | none => exact List.mem_map_of_injective Hazard.issue_injective
  | some e =>
    have hfailure : r.failure? ≠ none := by
      unfold refusal? at hrefusal
      unfold failure?
      split at hrefusal <;> simp_all
    dsimp only
    rw [List.mem_singleton, mem_firstHazards_iff]
    exact iff_of_false (hazard.issue_ne_detail e) fun h => hfailure h.1.1

end Reading

/-- The hazards of tokens that are not known yet, each of them once and in the order of the
tokens. -/
theorem newHazards_eq (known : List Hazard) (tokens : List Token) :
    newHazards known tokens =
      ((tokens.filterMap Token.hazard?).filter fun hazard => !known.contains hazard).eraseDups := by
  induction tokens generalizing known with
  | nil => rfl
  | cons t tokens ih =>
    rw [newHazards, List.filterMap_cons]
    cases t.hazard? with
    | none => exact ih known
    | some hazard =>
      dsimp only
      rw [List.filter_cons]
      by_cases hknown : known.contains hazard = true
      · rw [if_pos hknown, ih, hknown]
        rfl
      · rw [if_neg hknown, ih, Bool.eq_false_iff.mpr hknown, if_pos Bool.not_false,
          List.eraseDups_cons, List.filter_filter]
        congr 3
        funext other
        simp [Bool.beq_eq_decide_eq, Bool.and_comm]

/-- Hazards that are known once each are still known once each with those of tokens. -/
theorem nodup_append_newHazards {known : List Hazard} (h : known.Nodup) (tokens : List Token) :
    (known ++ newHazards known tokens).Nodup := by
  induction tokens generalizing known with
  | nil => simpa [newHazards] using h
  | cons t tokens ih =>
    rw [newHazards]
    cases t.hazard? with
    | none => exact ih h
    | some hazard =>
      dsimp only
      split
      · exact ih h
      · rename_i hunknown
        rw [List.append_cons]
        exact ih (h.append (List.nodup_singleton hazard) (by simpa using hunknown))

/-! ### Lines about which there is something to say -/

/-- The entry of a line in the list of a report, after the lines before it. -/
def lineIssue? (earlier : List Reading) (r : Reading) : Option LineIssue :=
  if (r.issues earlier).isEmpty then none
  else some ⟨earlier.length + 1, Text.trim r.text, r.issues earlier⟩

/-- The entries of all lines about which there is something to say. -/
def lineIssues (readings : List Reading) : List LineIssue :=
  (List.range readings.length).filterMap fun i =>
    readings[i]?.bind (lineIssue? (readings.take i))

/-- Where a line fails by refusal only, there is something to say about it if it is noteworthy. -/
theorem Reading.issues_ne_nil_iff {earlier : List Reading} {r : Reading}
    (hrefuses : FailsOnly Failure.IsRefusal r.outcome) :
    r.issues earlier ≠ [] ↔ r.IsNoteworthy earlier := by
  unfold issues IsNoteworthy
  cases houtcome : r.outcome with
  | error failure =>
    obtain ⟨e, rfl⟩ := hrefuses failure houtcome
    have hrefusal : r.refusal? = some e := by rw [refusal?, houtcome]
    have hfailure : r.failure? = some (.refused e) := by rw [failure?, houtcome]
    rw [hrefusal, hfailure]
    exact iff_of_true (List.cons_ne_nil _ _) (.inl rfl)
  | ok result =>
    have hrefusal : r.refusal? = none := by rw [refusal?, houtcome]
    have hfailure : r.failure? = none := by rw [failure?, houtcome]
    rw [hrefusal, hfailure]
    simp only [← mem_firstHazards_iff, Option.isSome_none, Bool.false_eq_true, false_or]
    rw [ne_eq, List.map_eq_nil_iff]
    constructor
    · exact List.exists_mem_of_ne_nil _
    · rintro ⟨hazard, hmem⟩
      exact List.ne_nil_of_mem hmem

/-- The entry of the line at a place. -/
theorem bind_lineIssue?_eq_some_iff {readings : List Reading} {i : ℕ} {entry : LineIssue} :
    readings[i]?.bind (lineIssue? (readings.take i)) = some entry ↔
      ∃ r, readings[i]? = some r ∧ r.issues (readings.take i) ≠ [] ∧
        entry = ⟨i + 1, Text.trim r.text, r.issues (readings.take i)⟩ := by
  rw [Option.bind_eq_some_iff]
  refine exists_congr fun r => and_congr_right fun hr => ?_
  have hlength : (readings.take i).length = i :=
    List.length_take_of_le (Nat.le_of_lt (List.getElem?_eq_some_iff.mp hr).1)
  simp only [lineIssue?, hlength, List.isEmpty_iff]
  split
  · rename_i hnone
    exact iff_of_false nofun fun h => h.1 hnone
  · rename_i hsome
    rw [Option.some.injEq, eq_comm, and_iff_right hsome]

theorem mem_lineIssues_iff {readings : List Reading} {entry : LineIssue} :
    entry ∈ lineIssues readings ↔
      ∃ i r, readings[i]? = some r ∧ r.issues (readings.take i) ≠ [] ∧
        entry = ⟨i + 1, Text.trim r.text, r.issues (readings.take i)⟩ := by
  simp only [lineIssues, List.mem_filterMap, bind_lineIssue?_eq_some_iff, List.mem_range]
  refine exists_congr fun i => and_iff_right_of_imp ?_
  rintro ⟨r, hr, -⟩
  exact (List.getElem?_eq_some_iff.mp hr).1

/-- The entries are in the order of their lines. -/
theorem pairwise_lineIssues (readings : List Reading) :
    (lineIssues readings).Pairwise fun a b => a.number < b.number := by
  refine List.Pairwise.filterMap _ ?_ List.pairwise_lt_range
  intro i j hlt a ha b hb
  obtain ⟨-, -, -, rfl⟩ := bind_lineIssue?_eq_some_iff.mp ha
  obtain ⟨-, -, -, rfl⟩ := bind_lineIssue?_eq_some_iff.mp hb
  exact Nat.succ_lt_succ hlt

theorem lineIssues_concat (readings : List Reading) (r : Reading) :
    lineIssues (readings ++ [r]) = lineIssues readings ++ (lineIssue? readings r).toList := by
  unfold lineIssues
  rw [List.length_append, List.length_singleton, List.range_succ, List.filterMap_append]
  congr 1
  · refine List.filterMap_congr fun i hi => ?_
    have hlt := List.mem_range.mp hi
    rw [List.getElem?_append_left hlt, List.take_append_of_le_length (Nat.le_of_lt hlt)]
  · simp only [List.filterMap_cons, List.filterMap_nil, List.getElem?_concat_length,
      Option.bind_some, List.take_left]
    cases lineIssue? readings r <;> rfl

/-- Of the things of a list that have a property one is the first. -/
theorem exists_first {α : Type} {P : α → Prop} {l : List α} (h : ∃ a ∈ l, P a) :
    ∃ (i : ℕ) (a : α), l[i]? = some a ∧ P a ∧ ∀ b ∈ l.take i, ¬ P b := by
  induction l with
  | nil => simp at h
  | cons b l ih =>
    by_cases hb : P b
    · exact ⟨0, b, rfl, hb, by simp⟩
    · obtain ⟨i, a, hi, ha, hfirst⟩ := ih (by simpa [hb] using h)
      exact ⟨i + 1, a, hi, ha, by simpa [hb] using hfirst⟩

/-- A hazard that some line brings is told of exactly one line. -/
theorem existsUnique_lineIssue {readings : List Reading} {hazard : Hazard}
    (h : ∃ r ∈ readings, r.Shows hazard) :
    ∃! entry, entry ∈ lineIssues readings ∧ hazard.issue ∈ entry.issues := by
  obtain ⟨i, r, hr, hshows, hfirst⟩ := exists_first h
  have hissue : hazard.issue ∈ r.issues (readings.take i) :=
    Reading.issue_mem_issues_iff.mpr ⟨hshows, hfirst⟩
  refine ⟨⟨i + 1, Text.trim r.text, r.issues (readings.take i)⟩,
    ⟨mem_lineIssues_iff.mpr ⟨i, r, hr, List.ne_nil_of_mem hissue, rfl⟩, hissue⟩, ?_⟩
  rintro entry ⟨hentry, hother⟩
  obtain ⟨j, s, hs, -, rfl⟩ := mem_lineIssues_iff.mp hentry
  obtain ⟨hsshows, hsfirst⟩ := Reading.issue_mem_issues_iff.mp hother
  -- of two lines the later one comes after a line that brings the hazard
  have hearlier {k l : ℕ} {t : Reading} (hlt : k < l) (ht : readings[k]? = some t) :
      t ∈ readings.take l :=
    List.mem_of_getElem? ((List.getElem?_take_of_lt hlt).trans ht)
  rcases Nat.lt_trichotomy i j with hlt | rfl | hgt
  · exact absurd hshows (hsfirst r (hearlier hlt hr))
  · rw [Option.some.inj (hs.symm.trans hr)]
  · exact absurd hsshows (hfirst s (hearlier hgt hs))

/-! ### The report -/

/-- The total of a tally is the sum of its counts. -/
theorem Tally.total_eq_sum (t : Tally) : t.total = (t.map Prod.snd).sum := by
  induction t with
  | nil => rfl
  | cons entry rest ih => rw [total, ih, List.map_cons, List.sum_cons]

/-- There is one reading for each line, in order. -/
theorem Program.map_text_readings (setup : Setup) (p : Program) (lines : List String) :
    (p.readings setup lines).map Reading.text = lines := by
  induction lines generalizing p with
  | nil => rfl
  | cons text rest ih =>
    rw [readings, List.map_cons, ih]
    rfl

namespace Report

variable {report : Report} {all : List LineIssue} {readings : List Reading} {r : Reading}

/-- A report counts entries and lists the first of them, and it tells whether there are more. -/
structure Lists (report : Report) (all : List LineIssue) : Prop where
  issueCount : report.issueCount = all.length
  issues : report.issues.toList = all.take issueLimit
  isTruncated : report.isTruncated = true ↔ issueLimit < all.length

theorem Lists.size_issues (h : report.Lists all) :
    report.issues.size = min issueLimit all.length := by
  rw [← Array.length_toList, h.issues, List.length_take]

/-- A report that lists entries counts and lists one more line if there is something to say about
it. -/
theorem Lists.record (h : report.Lists all) (number : ℕ) (text : String) (issues : List String) :
    (report.record number text issues).Lists
      (all ++ if issues.isEmpty then [] else [⟨number, Text.trim text, issues⟩]) := by
  unfold Report.record
  split
  · rwa [List.append_nil]
  · have hcount (entry : LineIssue) : report.issueCount + 1 = (all ++ [entry]).length := by
      rw [List.length_append, h.issueCount]
      rfl
    have hsize := h.size_issues
    dsimp only
    split
    · rename_i hroom
      have hlt : all.length < issueLimit := by omega
      refine ⟨hcount _, ?_, ?_⟩
      · rw [Array.toList_push, h.issues, List.take_of_length_le (Nat.le_of_lt hlt),
          List.take_of_length_le (by rw [List.length_append]; exact hlt)]
      · rw [h.isTruncated, List.length_append, List.length_singleton]
        omega
    · rename_i hfull
      have hle : issueLimit ≤ all.length := by omega
      refine ⟨hcount _, ?_, iff_of_true rfl ?_⟩
      · rw [h.issues, List.take_append_of_le_length hle]
      · rw [List.length_append]
        exact Nat.lt_succ_of_le hle

theorem totalLines_record (number : ℕ) (text : String) (issues : List String) :
    (report.record number text issues).totalLines = report.totalLines := by
  unfold Report.record
  repeat' split
  all_goals rfl

/-- A report that tells the readings of lines: how many there are, how many fail, which hazards they
bring and about which there is something to say. -/
structure Accounts (report : Report) (readings : List Reading) : Prop where
  totalLines : report.totalLines = readings.length
  errorCount : report.errorCount = (readings.filter fun r => r.failure?.isSome).length
  nodup_hazards : report.hazards.Nodup
  mem_hazards : ∀ hazard, hazard ∈ report.hazards ↔ ∃ r ∈ readings, r.Shows hazard
  lists : report.Lists (lineIssues readings)

/-- The hazards that a report does not know yet are those that a line is the first one to bring. -/
theorem Accounts.newHazards_eq (h : report.Accounts readings) (hread : r.failure? = none) :
    newHazards report.hazards r.tokens = r.firstHazards readings := by
  have hhazards : r.hazards = r.tokens.filterMap Token.hazard? := by
    rw [Reading.hazards, hread]
    rfl
  rw [NumericControl.newHazards_eq, Reading.firstHazards, hhazards]
  congr 2
  funext hazard
  rw [Bool.eq_iff_iff]
  simp [h.mem_hazards, Reading.mem_hazards_iff]

/-- A report that records what there is to say about the next line lists the entries so far. -/
theorem Lists.record_issues (h : report.Lists (lineIssues readings)) :
    (report.record (readings.length + 1) r.text (r.issues readings)).Lists
      (lineIssues (readings ++ [r])) := by
  have hentry : (lineIssue? readings r).toList =
      if (r.issues readings).isEmpty then []
      else [⟨readings.length + 1, Text.trim r.text, r.issues readings⟩] := by
    unfold lineIssue?
    split <;> rfl
  rw [lineIssues_concat, hentry]
  exact h.record _ _ _

/-- A report takes in a line that is refused. -/
theorem Accounts.after_of_refused (h : report.Accounts readings) {e : ParseError}
    (houtcome : r.outcome = .error (.refused e)) :
    (report.after r).Accounts (readings ++ [r]) := by
  have hafter : report.after r = report.refuse r.text e := by rw [Report.after, houtcome]
  have hfailure : r.failure? = some (.refused e) := by rw [Reading.failure?, houtcome]
  have hissues : r.issues readings = [e.detail] := by
    rw [Reading.issues, Reading.refusal?, houtcome]
  have hshows (hazard : Hazard) : ¬ r.Shows hazard := fun hshows => by
    rw [hshows.1] at hfailure
    cases hfailure
  rw [hafter, Report.refuse, h.totalLines, ← hissues]
  refine ⟨?_, ?_, ?_, fun hazard => ?_, ?_⟩
  · rw [totalLines_record, List.length_append, List.length_singleton]
  · rw [Report.errorCount, errors_record, Tally.total_add, List.filter_append,
      List.length_append, List.filter_cons_of_pos (by rw [hfailure]; rfl)]
    exact congrArg (· + 1) h.errorCount
  · rw [hazards_record]
    exact h.nodup_hazards
  · rw [hazards_record, h.mem_hazards]
    simp [or_and_right, exists_or, hshows]
  · exact Lists.record_issues ⟨h.lists.issueCount, h.lists.issues, h.lists.isTruncated⟩

/-- A report takes in a line that is read. -/
theorem Accounts.after_of_ok (h : report.Accounts readings) {next : Program} {handled : Bool}
    (houtcome : r.outcome = .ok (next, handled)) :
    (report.after r).Accounts (readings ++ [r]) := by
  have hafter : report.after r = report.accept r.text handled r.tokens := by
    rw [Report.after, houtcome]
  have hread : r.failure? = none := by rw [Reading.failure?, houtcome]
  have hissues : r.issues readings = (r.firstHazards readings).map Hazard.issue := by
    rw [Reading.issues, Reading.refusal?, houtcome]
  have hnew := h.newHazards_eq hread
  have haccept : report.accept r.text handled r.tokens =
      Report.record { report with
        totalLines := readings.length + 1
        programLines := if handled then report.programLines + 1 else report.programLines
        hazards := report.hazards ++ r.firstHazards readings } (readings.length + 1) r.text
          (r.issues readings) := by
    rw [Report.accept, h.totalLines, hnew, hissues]
    rfl
  rw [hafter, haccept]
  refine ⟨?_, ?_, ?_, fun hazard => ?_, ?_⟩
  · rw [totalLines_record, List.length_append, List.length_singleton]
  · rw [Report.errorCount, errors_record, List.filter_append, List.length_append,
      List.filter_cons_of_neg (by rw [hread]; exact Bool.false_ne_true)]
    exact h.errorCount
  · rw [hazards_record]
    exact hnew ▸ nodup_append_newHazards h.nodup_hazards r.tokens
  · -- a hazard of the line is known already, or the line is the first one to bring it
    rw [hazards_record, List.mem_append, Reading.mem_firstHazards_iff, h.mem_hazards]
    simp only [List.mem_append, List.mem_singleton, or_and_right, exists_or, exists_eq_left]
    by_cases hknown : ∃ e ∈ readings, e.Shows hazard
    · exact iff_of_true (.inl hknown) (.inl hknown)
    · simp only [hknown, false_or, and_iff_left_iff_imp]
      exact fun _ e he hshows => hknown ⟨e, he, hshows⟩
  · exact Lists.record_issues ⟨h.lists.issueCount, h.lists.issues, h.lists.isTruncated⟩

/-- A report takes in one more reading. -/
theorem Accounts.after (h : report.Accounts readings)
    (hrefuses : FailsOnly Failure.IsRefusal r.outcome) :
    (report.after r).Accounts (readings ++ [r]) := by
  cases houtcome : r.outcome with
  | error failure =>
    obtain ⟨e, rfl⟩ := hrefuses failure houtcome
    exact h.after_of_refused houtcome
  | ok result => exact h.after_of_ok houtcome

/-- A report takes in one reading after another. -/
theorem Accounts.foldl_after {rest : List Reading} (h : report.Accounts readings)
    (hrefuses : ∀ r ∈ rest, FailsOnly Failure.IsRefusal r.outcome) :
    (rest.foldl Report.after report).Accounts (readings ++ rest) := by
  induction rest generalizing report readings with
  | nil => rwa [List.append_nil]
  | cons r rest ih =>
    rw [List.foldl_cons, List.append_cons]
    exact ih (h.after (hrefuses r List.mem_cons_self))
      fun s hs => hrefuses s (List.mem_cons_of_mem r hs)

theorem accounts_nil (dialect : Dialect) : Accounts { dialect := dialect } [] where
  totalLines := rfl
  errorCount := rfl
  nodup_hazards := List.nodup_nil
  mem_hazards := by simp
  lists := ⟨rfl, rfl, iff_of_false Bool.false_ne_true (Nat.not_lt_zero _)⟩

end Report

/-- What a report tells of lines that fail by refusal only.  There is an entry for each line that
fails or brings a hazard that no line before it has brought; the report counts the entries and lists
the first 200 of them in the order of the lines.  It counts the lines and those that fail, also by
kind, and it has every hazard that a line brings; there is exactly one entry, be it listed or not,
that tells of it. -/
theorem validate_accounts (config : Config) (lines : List String)
    (hlines : Program.empty.RefusesOnly ⟨config, {}⟩ lines) :
    let readings := Program.empty.readings ⟨config, {}⟩ lines
    ∃ (report : Report) (entries : List LineIssue), validate config lines = .ok report ∧
      (entries.Pairwise fun a b => a.number < b.number) ∧
      (∀ entry, entry ∈ entries ↔
        ∃ i r, readings[i]? = some r ∧ r.IsNoteworthy (readings.take i) ∧
          entry = ⟨i + 1, Text.trim r.text, r.issues (readings.take i)⟩) ∧
      report.issueCount = entries.length ∧
      report.issues.toList = entries.take 200 ∧
      (report.isTruncated = true ↔ 200 < report.issueCount) ∧
      report.totalLines = lines.length ∧
      report.errorCount = (readings.filter fun r => r.failure?.isSome).length ∧
      report.errorCount = (report.errors.map Prod.snd).sum ∧
      report.hazards.Nodup ∧
      (∀ hazard, hazard ∈ report.hazards ↔ ∃ r ∈ readings, r.Shows hazard) ∧
      ∀ hazard ∈ report.hazards, ∃! entry, entry ∈ entries ∧ hazard.issue ∈ entry.issues := by
  intro readings
  have haccounts : (readings.foldl Report.after { dialect := config.dialect }).Accounts readings :=
    (Report.accounts_nil config.dialect).foldl_after hlines
  have hvalidate : validate config lines = .ok
      { readings.foldl Report.after { dialect := config.dialect } with
        warnings := (Program.empty.skim ⟨config, {}⟩ lines).warnings.toList
        programEnd := (Program.empty.skim ⟨config, {}⟩ lines).state.programEnd } := by
    rw [validate, Report.validateFrom_eq_foldl hlines]
    rfl
  have hlength : readings.length = lines.length := by
    rw [← List.length_map Reading.text, Program.map_text_readings]
  have hentries (entry : LineIssue) : entry ∈ lineIssues readings ↔
      ∃ i r, readings[i]? = some r ∧ r.IsNoteworthy (readings.take i) ∧
        entry = ⟨i + 1, Text.trim r.text, r.issues (readings.take i)⟩ := by
    rw [mem_lineIssues_iff]
    refine exists_congr fun i => exists_congr fun r => and_congr_right fun hr => ?_
    rw [Reading.issues_ne_nil_iff (hlines r (List.mem_of_getElem? hr))]
  exact ⟨_, lineIssues readings, hvalidate, pairwise_lineIssues readings, hentries,
    haccounts.lists.issueCount, haccounts.lists.issues,
    haccounts.lists.issueCount ▸ haccounts.lists.isTruncated,
    haccounts.totalLines.trans hlength, haccounts.errorCount, Tally.total_eq_sum _,
    haccounts.nodup_hazards, haccounts.mem_hazards,
    fun hazard hmem => existsUnique_lineIssue ((haccounts.mem_hazards hazard).mp hmem)⟩

/-- A program that returns to a mode, after a line that is refused. -/
def returningModes : List String :=
  ["G91", "G0 G1", "G90", "G91 G20", "M30"]

theorem validate_accounts_returningModes :
    Program.empty.RefusesOnly ⟨{}, {}⟩ returningModes ∧
      ∃ (report : Report) (entries : List LineIssue), validate {} returningModes = .ok report ∧
        report.issues.toList = entries.take 200 ∧ report.totalLines = 5 ∧ report.errorCount = 1 ∧
        .inches ∈ report.hazards ∧ .scaling ∉ report.hazards ∧
        ∃! entry, entry ∈ entries ∧ Hazard.incremental.issue ∈ entry.issues := by
  have hlines : Program.empty.RefusesOnly ⟨{}, {}⟩ returningModes := by decide +kernel
  obtain ⟨report, entries, hreport, -, -, -, hissues, -, htotal, herrors, -, -, hhazards,
    hunique⟩ := validate_accounts {} returningModes hlines
  refine ⟨hlines, report, entries, hreport, hissues, htotal, ?_,
    (hhazards _).mpr (by decide +kernel), mt (hhazards _).mp (by decide +kernel),
    hunique _ ((hhazards _).mpr (by decide +kernel))⟩
  rw [herrors]
  decide +kernel

end NumericControl
