import NumericControl.Proofs.Line.Rewriting
import NumericControl.Proofs.Line.Values

/-!
# Lines from which words are removed

A line without some of its words can be read again.  What is read are the words and the message that
stay, and the message is respaced.  The words can be named in any order: what is cut out of a line
depends on the places that they cover.

## Main results

* `Line.spells_of_ofSource` : a line has the whole source, and a block spells its items.
* `Line.removeWords_cases` : what stays of a line.
* `Line.exists_read_of_spells` : what is read from the line that stays.
* `Line.exists_read_removeWords` : what a line holds when words are removed.
* `Line.words_of_removed` : it has exactly the other words, letter, value and text.
-/

namespace NumericControl

variable {c : Char} {cs source : List Char} {items : List Item} {words : List Word} {line : Line}
  {text : String}

namespace Line

/-- What spells a block is the source of one. -/
theorem ofSource_of_spells (h : Spells 0 (c :: cs) items) (hc : Text.isBlank c = false)
    (hremark : c ≠ ';') : ofSource (c :: cs) = .ok ⟨c :: cs, .block items⟩ := by
  have hmarks : passThroughMarks.contains c = false ∧ (c == '%') = false := by
    rcases h.head_cases hc with halpha | rfl | ⟨hc, -⟩
    · have hrange := toNat_of_isAlpha halpha
      have hne {mark : Char} (hmark : mark.toNat < 65 ∨ 122 < mark.toNat) : c ≠ mark := by
        rintro rfl
        omega
      simp [passThroughMarks, hne]
    · decide
    · exact absurd hc hremark
  have hscan : scan 0 .between (c :: cs) = .ok items := scan_eq_ok_iff.mpr h
  have hsemicolon : (c == ';') = false := beq_eq_false_iff_ne.mpr hremark
  rw [ofSource, List.dropWhile_cons_of_neg (by simp [hc])]
  simp only [hsemicolon, hmarks.1, hmarks.2, hscan, Bool.false_eq_true, if_false]
  rfl

/-- A line has the whole source, and what a block spells is what its source spells. -/
theorem spells_of_ofSource (h : ofSource source = .ok line) :
    line.source = source ∧ ∀ items, line.content = .block items → Spells 0 source items := by
  unfold ofSource at h
  split at h
  · cases h
    exact ⟨rfl, nofun⟩
  · split at h
    · cases h
      exact ⟨rfl, nofun⟩
    · split at h
      · cases h
        exact ⟨rfl, nofun⟩
      · split at h
        · cases h
          exact ⟨rfl, nofun⟩
        · obtain ⟨items, hscan, rfl⟩ := map_eq_ok_iff.mp h
          refine ⟨rfl, fun items' hitems => ?_⟩
          cases hitems
          exact scan_eq_ok_iff.mp hscan

theorem source_of_read (h : read text = .ok line) : line.source = sourceOf text :=
  (spells_of_ofSource (read_eq_ok_iff.mp h)).1

theorem byteOrderMark_not_mem_source (h : read text = .ok line) : byteOrderMark ∉ line.source := by
  rw [source_of_read h, sourceOf, List.mem_filter]
  simp

/-- A text without line ends and byte order marks is the source of a line. -/
theorem sourceOf_ofList (hend : ∀ c ∈ cs, Text.isLineEnd c = false)
    (hmark : ∀ c ∈ cs, c ≠ byteOrderMark) : sourceOf (String.ofList cs) = cs := by
  have hdrop : Text.dropTailWhile Text.isLineEnd cs = cs := by
    rw [Text.dropTailWhile_eq_rdropWhile, List.rdropWhile_eq_self_iff]
    intro hne
    simp [hend _ (List.getLast_mem hne)]
  rw [sourceOf, String.toList_ofList, hdrop, List.filter_eq_self]
  intro c hc
  simpa using hmark c hc

theorem words_of_block (h : line.content = .block items) : line.words = wordsOf items := by
  rw [words, h]
  rfl

theorem message?_of_block (h : line.content = .block items) :
    line.message? = ((commentsOf items).findSome? messageOf?).map String.ofList := by
  rw [message?, comments, h]
  rfl

/-- Nothing but a remark stays of a block, or what stays starts with a word or a comment. -/
theorem removeWords_cases (h : Spells 0 (Text.respace (cut words 0 source)) items) :
    (items = [] ∧ removeWords source words = removedLine) ∨
      ∃ c rest, Text.isBlank c = false ∧ c ≠ ';' ∧
        Text.respace (cut words 0 source) = c :: rest ∧ removeWords source words = c :: rest := by
  cases hrest : Text.respace (cut words 0 source) with
  | nil =>
    rw [hrest] at h
    cases h
    exact .inl ⟨rfl, by rw [removeWords, hrest]⟩
  | cons c rest =>
    have hc : Text.isBlank c = false := Text.isBlank_head_respace hrest
    by_cases hremark : c = ';'
    · subst hremark
      rw [hrest] at h
      refine .inl ⟨?_, by rw [removeWords, hrest]; rfl⟩
      rcases h.head_cases hc with hstart | hstart | ⟨-, hnil⟩
      · exact absurd hstart (by decide)
      · cases hstart
      · exact hnil
    · refine .inr ⟨c, rest, hc, hremark, rfl, ?_⟩
      rw [removeWords, hrest]
      split <;> simp_all

/-- What stays of a line can be read again.  It has the words and the message of the block that it
spells; the comment that stands for an empty line has neither. -/
theorem exists_read_of_spells (h : Spells 0 (Text.respace (cut words 0 source)) items)
    (hmark : byteOrderMark ∉ source) :
    ∃ items', read (String.ofList (removeWords source words)) =
        .ok ⟨removeWords source words, .block items'⟩ ∧
      wordsOf items' = wordsOf items ∧
      (commentsOf items').findSome? messageOf? = (commentsOf items).findSome? messageOf? := by
  rcases removeWords_cases h with ⟨rfl, hremoved⟩ | ⟨c, rest, hc, hremark, hrest, hstays⟩
  · rw [hremoved]
    exact ⟨[.comment "line removed".toList], rfl, rfl, rfl⟩
  · have hchars : ∀ d ∈ c :: rest, Text.isLineEnd d = false ∧ d ≠ byteOrderMark := by
      intro d hd
      rw [← hrest] at hd
      rcases Text.mem_respace hd with rfl | ⟨hmem, hblank⟩
      · decide
      · have hend : Text.isLineEnd d = false := by
          rw [← Bool.not_eq_true, Text.isLineEnd, Bool.or_eq_true, beq_iff_eq, beq_iff_eq]
          rintro (rfl | rfl) <;> cases hblank
        exact ⟨hend, fun hd => hmark (hd ▸ mem_of_mem_cut hmem)⟩
    have hsource := sourceOf_ofList (fun d hd => (hchars d hd).1) fun d hd => (hchars d hd).2
    rw [hrest] at h
    refine ⟨items, ?_, rfl, rfl⟩
    rw [hstays, read_eq_ok_iff, hsource]
    exact ofSource_of_spells h hc hremark

/-- A line without some of its words can be read again: it has the words that stay, and its message
is respaced. -/
theorem exists_read_removeWords (h : read text = .ok line) (hblock : line.content = .block items)
    (p : Word → Bool) :
    ∃ line' items', read (String.ofList (removeWords line.source (line.words.filter p))) =
        .ok line' ∧ line'.content = .block items' ∧
      line'.source = removeWords line.source (line.words.filter p) ∧
      line'.words.map Word.written = (line.words.filter fun w => !p w).map Word.written ∧
      line'.message? = line.message?.map Text.respaced := by
  obtain ⟨hsource, hspells⟩ := spells_of_ofSource (read_eq_ok_iff.mp h)
  rw [← hsource] at hspells
  obtain ⟨rest, hrest, hwritten, hmessage⟩ := (hspells items hblock).exists_removed p
  obtain ⟨items', hread, hwords, hsays⟩ :=
    exists_read_of_spells hrest (byteOrderMark_not_mem_source h)
  rw [words_of_block hblock]
  refine ⟨_, items', hread, rfl, rfl, ?_, ?_⟩
  · rw [words_of_block rfl, hwords, hwritten]
  · rw [message?_of_block rfl, hsays, hmessage, message?_of_block hblock, Option.map_map,
      Option.map_map]
    exact congrArg (Option.map · _) (funext fun chars => (Text.respaced_ofList chars).symm)

/-- What is left of a line does not depend on the order in which the removed words are given. -/
theorem removeWords_perm {words' : List Word} (h : words.Perm words') (source : List Char) :
    removeWords source words = removeWords source words' := by
  have hcut (pos : Nat) (cs : List Char) : cut words pos cs = cut words' pos cs := by
    induction cs generalizing pos with
    | nil => rfl
    | cons c cs ih => rw [cut, cut, h.any_eq, ih]
  rw [removeWords, removeWords, hcut]

/-- A block without some of its words, in whatever order they are given, is read as a block.  Its
words are the others in their order, with the same letters, values and texts. -/
theorem words_of_removed {text : String} {line : Line} {items : List Item} {removed : List Word}
    (h : read text = .ok line) (hblock : line.content = .block items) (p : Word → Bool)
    (hremoved : removed.Perm (line.words.filter p)) :
    ∃ line' items', read (String.ofList (removeWords line.source removed)) = .ok line' ∧
      line'.content = .block items' ∧
      line'.words.map Word.written = (line.words.filter fun w => !p w).map Word.written := by
  obtain ⟨line', items', hread, hblock', -, hwritten, -⟩ := exists_read_removeWords h hblock p
  rw [← removeWords_perm hremoved] at hread
  exact ⟨line', items', hread, hblock', hwritten⟩

/-- Words without white space between them, values with white space inside, a comment between words
and an end-of-line comment. -/
def crowdedLine : String :=
  "n1 0G1 X- 1 .5y2(a)F1 00M3;off"

/-- The words G1, Y2 and F100 of the crowded line. -/
def isCrowding (w : Word) : Bool :=
  w.letter ∈ ['G', 'Y', 'F']

theorem words_of_removed_crowdedLine :
    ∃ line items, read crowdedLine = .ok line ∧ line.content = .block items ∧
      (line.words.filter isCrowding).reverse.map Word.text = ["F100", "Y2", "G1"] ∧
      (line.words.filter isCrowding).reverse.Perm (line.words.filter isCrowding) ∧
      removeWords line.source (line.words.filter isCrowding).reverse =
        "n1 0 X- 1 .5(a)M3;off".toList ∧
      ∃ line' items', read (String.ofList (removeWords line.source
          (line.words.filter isCrowding).reverse)) = .ok line' ∧
        line'.content = .block items' ∧
        line'.words.map Word.written =
          (line.words.filter fun w => !isCrowding w).map Word.written := by
  have hline : (read crowdedLine).toOption.map (fun line =>
      ((line.words.filter isCrowding).reverse.map Word.text,
        removeWords line.source (line.words.filter isCrowding).reverse)) =
      some (["F100", "Y2", "G1"], "n1 0 X- 1 .5(a)M3;off".toList) := by
    decide +kernel
  obtain ⟨⟨source, content⟩, hread, hfacts⟩ := map_toOption_eq_some_iff.mp hline
  obtain ⟨hwords, hstays⟩ := Prod.mk.inj hfacts
  cases content with
  | block items =>
    have hperm := List.reverse_perm ((Line.mk source (.block items)).words.filter isCrowding)
    exact ⟨_, items, hread, rfl, hwords, hperm, hstays,
      words_of_removed hread rfl isCrowding hperm⟩
  | _ => cases hwords

end Line

end NumericControl
