import NumericControl.Line.Scan
import NumericControl.Proofs.Outcome

/-!
# The values of the words of a line

A word that is read has the value that its digits write.

## Main definitions

* `Word.HasWrittenValue` : the value of a word is that of its digits.

## Main results

* `hasWrittenValue_of_scan` : so it is for every word of a scan.
* `Line.hasWrittenValue_of_read` : and for every word of a line that is read from a text.
-/

namespace NumericControl

/-- The value of the word is the one that its digits write. -/
def Word.HasWrittenValue (w : Word) : Prop :=
  ∃ p, Number.plain? w.digits = some p ∧ w.value = p.value

private theorem hasWrittenValue_of_closeWord {o : OpenWord} {w : Word} (h : o.close = .ok w) :
    w.HasWrittenValue := by
  unfold OpenWord.close at h
  dsimp only at h
  split at h
  · rename_i p hp
    cases h
    exact ⟨p, hp, rfl⟩
  · cases h

/-- Leaving a mode completes at most the open word. -/
private theorem hasWrittenValue_of_close {mode : ScanMode} {items : List Item}
    (h : mode.close = .ok items) : ∀ w, .word w ∈ items → w.HasWrittenValue := by
  intro w hw
  cases mode with
  | between =>
    cases h
    cases hw
  | word o =>
    obtain ⟨w', hclose, rfl⟩ := map_eq_ok_iff.mp h
    cases List.mem_singleton.mp hw
    exact hasWrittenValue_of_closeWord hclose
  | comment text =>
    cases h
    cases List.mem_singleton.mp hw

/-- Every word of a scan has the value that its digits write. -/
theorem hasWrittenValue_of_scan {pos : Nat} {mode : ScanMode} {cs : List Char} {items : List Item}
    (h : scan pos mode cs = .ok items) : ∀ w, .word w ∈ items → w.HasWrittenValue := by
  induction cs generalizing pos mode items with
  | nil => exact hasWrittenValue_of_close (by simpa only [scan] using h)
  | cons c cs ih =>
    -- an item that is complete stands in front of those that the rest of the line gives
    have hsplit {mode' : ScanMode} {pos' : Nat} {items : List Item}
        (h : (do return (← mode.close) ++ (← scan pos' mode' cs)) = .ok items) :
        ∀ w, .word w ∈ items → w.HasWrittenValue := by
      obtain ⟨done, hdone, h⟩ := bind_eq_ok_iff.mp h
      obtain ⟨rest, hrest, h⟩ := bind_eq_ok_iff.mp h
      cases h
      intro w hw
      rcases List.mem_append.mp hw with hw | hw
      · exact hasWrittenValue_of_close hdone w hw
      · exact ih hrest w hw
    unfold scan at h
    split at h
    · split at h
      · exact hsplit h
      · exact ih h
    · split at h
      · exact hasWrittenValue_of_close h
      · split at h
        · exact hsplit h
        · split at h
          · split at h
            · exact ih h
            · cases h
          · split at h
            · exact ih h
            · split at h
              · exact hsplit h
              · cases h

namespace Line

theorem read_eq_ok_iff {text : String} {line : Line} :
    read text = .ok line ↔ ofSource (sourceOf text) = .ok line := by
  unfold read
  dsimp only
  split
  · rename_i heq
    rw [heq, Except.ok.injEq, Except.ok.injEq]
  · rename_i heq
    rw [heq]
    exact ⟨nofun, nofun⟩

/-- Every word of a line that is read has the value that its digits write. -/
theorem hasWrittenValue_of_read {text : String} {line : Line} (h : read text = .ok line) :
    ∀ w ∈ line.words, w.HasWrittenValue := by
  have hsource := read_eq_ok_iff.mp h
  intro w hw
  obtain ⟨item, hitem, hword⟩ := List.mem_filterMap.mp hw
  unfold ofSource at hsource
  split at hsource
  · cases hsource
    cases hitem
  · split at hsource
    · cases hsource
      cases hitem
    · split at hsource
      · cases hsource
        cases hitem
      · split at hsource
        · cases hsource
          cases hitem
        · obtain ⟨items, hscan, hline⟩ := map_eq_ok_iff.mp hsource
          cases hline
          cases item <;> cases hword
          exact hasWrittenValue_of_scan hscan w hitem

end Line

end NumericControl
