import Mathlib.Data.List.Induction
import Mathlib.Data.List.Nodup
import NumericControl.Proofs.Outcome
import NumericControl.Settings.Recent

/-!
# The list of recent files

Every added file moves to the front of the list, which is then cut to its limit.  What is cut off
never matters: the list is always the front of the one that remembers all files that were ever
added, ordered by when each was added last.

## Main definitions

* `IsByRecency` : the distinct members of a sequence, the one that was added last in front.
* `Settings.addAll` : settings to which files are added one after the other.

## Main results

* `IsByRecency.concat` : the order by recency after one more addition.
* `take_filter_take` : what is cut off a list does not come back when an item is taken out.
* `Settings.addAll_recent` : the list after any sequence of additions.
-/

namespace NumericControl

/-! ### Order by recency -/

section

variable {α : Type} {added listed : List α} {a b : α}

/-- One item was added once more after the last time that the other one was added. -/
def AddedAfter (added : List α) (a b : α) : Prop :=
  ∃ before after, added = before ++ b :: after ∧ b ∉ after ∧ a ∈ after

/-- A list holds the distinct members of a sequence of additions, ordered by their last addition
with the latest one first. -/
structure IsByRecency (added listed : List α) : Prop where
  nodup : listed.Nodup
  mem_iff : ∀ a, a ∈ listed ↔ a ∈ added
  latestFirst : listed.Pairwise (AddedAfter added)

theorem AddedAfter.concat (h : AddedAfter added a b) {c : α} (hne : b ≠ c) :
    AddedAfter (added ++ [c]) a b := by
  obtain ⟨before, after, rfl, hlast, ha⟩ := h
  exact ⟨before, after ++ [c], by simp, by simp [hlast, hne], List.mem_append_left _ ha⟩

/-- What is added at the end is added after everything else that was added. -/
theorem addedAfter_concat (hb : b ∈ added) (hne : b ≠ a) : AddedAfter (added ++ [a]) a b := by
  obtain ⟨after, before, hadded, hlast⟩ := List.eq_append_cons_of_mem (List.mem_reverse.mpr hb)
  have hsplit : added = before.reverse ++ b :: after.reverse := by
    simpa using congrArg List.reverse hadded
  exact ⟨before.reverse, after.reverse ++ [a], by simp [hsplit], by simp [hlast, hne], by simp⟩

theorem isByRecency_nil : IsByRecency ([] : List α) [] :=
  ⟨List.nodup_nil, fun _ => Iff.rfl, List.Pairwise.nil⟩

/-- One more addition takes its item out of the order and puts it in front. -/
theorem IsByRecency.concat [DecidableEq α] (h : IsByRecency added listed) (a : α) :
    IsByRecency (added ++ [a]) (a :: listed.filter (· ≠ a)) where
  nodup := List.nodup_cons.mpr ⟨by simp, h.nodup.filter _⟩
  mem_iff b := by
    by_cases hb : b = a
    · simp [hb]
    · simp [hb, h.mem_iff]
  latestFirst := by
    have hother : ∀ b ∈ listed.filter (· ≠ a), b ∈ listed ∧ b ≠ a := by simp
    refine List.pairwise_cons.mpr ⟨fun b hb => ?_, ?_⟩
    · obtain ⟨hlisted, hne⟩ := hother b hb
      exact addedAfter_concat ((h.mem_iff b).mp hlisted) hne
    · refine (h.latestFirst.filter _).imp_of_mem fun {c b} _ hb hafter => ?_
      exact hafter.concat (hother b hb).2

/-- An item that is taken out of the front of a list makes room for one more, so one item more has
to be kept to know what moves up. -/
theorem take_filter_take (p : α → Bool) (n : Nat) {l : List α} (h : l.countP (!p ·) ≤ 1) :
    ((l.take (n + 1)).filter p).take n = (l.filter p).take n := by
  induction l generalizing n with
  | nil => simp
  | cons a l ih =>
    by_cases ha : p a
    · rw [List.countP_cons_of_neg (by simp [ha])] at h
      cases n with
      | zero => simp
      | succ n =>
        rw [List.take_succ_cons, List.filter_cons_of_pos ha, List.filter_cons_of_pos ha,
          List.take_succ_cons, List.take_succ_cons, ih n h]
    · rw [List.countP_cons_of_pos (by simp [ha])] at h
      -- this was the only item to be taken out
      have hrest : ∀ b ∈ l, p b := by
        have hnone := List.countP_eq_zero.mp (Nat.le_zero.mp (Nat.le_of_succ_le_succ h))
        simpa using hnone
      have hfront : ∀ b ∈ l.take n, p b := fun b hb => hrest b (List.mem_of_mem_take hb)
      rw [List.take_succ_cons, List.filter_cons_of_neg ha, List.filter_cons_of_neg ha,
        List.filter_eq_self.mpr hrest, List.filter_eq_self.mpr hfront, List.take_take,
        Nat.min_self]

/-- Moving an item to the front of a list that was cut to a limit, and cutting it again, gives the
same as cutting it afterwards only. -/
theorem take_cons_filter_take [DecidableEq α] (a : α) (n : Nat) (h : listed.Nodup) :
    (a :: (listed.take n).filter (· ≠ a)).take n = (a :: listed.filter (· ≠ a)).take n := by
  cases n with
  | zero => rfl
  | succ n =>
    have hcount : listed.countP (fun b => !decide (b ≠ a)) ≤ 1 := by
      have hsame : (fun b => !decide (b ≠ a)) = (· == a) := by
        funext b
        simp [beq_eq_decide]
      rw [hsame]
      exact List.nodup_iff_count_le_one.mp h a
    rw [List.take_succ_cons, List.take_succ_cons, take_filter_take _ n hcount]

end

/-! ### Adding files -/

theorem Json.eqv_ofRaw (a b : RawText) : (ofRaw a).eqv (ofRaw b) = decide (a = b) := by
  cases a <;> cases b <;> simp [ofRaw, eqv, beq_eq_decide]

theorem moveToFront_map_ofRaw (path : RawText) (paths : List RawText) :
    moveToFront path (paths.map .ofRaw) = (path :: paths.filter (· ≠ path)).map Json.ofRaw := by
  have hkept : ((fun item => !item.eqv (.ofRaw path)) ∘ Json.ofRaw) =
      fun other => decide (other ≠ path) := by
    funext other
    simp [Json.eqv_ofRaw]
  rw [moveToFront, List.filter_map, hkept, List.map_cons]

namespace Settings

variable {s : Settings} {n : Nat} {paths : List RawText}

/-- The settings with files added one after the other, each seen from a directory. -/
def addAll (s : Settings) (files : List (String × RawText)) : Except RecentFault Settings :=
  files.foldlM (fun s file => s.addRecent file.1 file.2) s

/-- Adding a file to a list of paths moves it to the front and cuts the list; the limit stays. -/
theorem addRecent_eq (hlimit : s.recentLimit = .int n)
    (hpaths : s.recentItems = .array (paths.map .ofRaw)) (current : String) (path : RawText) :
    ∃ s', s.addRecent current path = .ok s' ∧ s'.recentLimit = .int n ∧
      s'.recentItems =
        .array (((path :: paths.filter (· ≠ path)).take n).map Json.ofRaw) := by
  have hfront : frontBy? (.int n) (moveToFront path (paths.map .ofRaw)) =
      some (((path :: paths.filter (· ≠ path)).take n).map Json.ofRaw) := by
    rw [frontBy?, front_of_nonneg (Int.natCast_nonneg n), moveToFront_map_ofRaw, Int.toNat_natCast,
      List.map_take]
  have hitems : s.recentWith path =
      .ok (((path :: paths.filter (· ≠ path)).take n).map Json.ofRaw) := by
    rw [recentWith, hpaths, Json.items?]
    simp only [hlimit, hfront]
  have hlimitKey : ("max_recent_files" : Key) ≠ "recent_files" := by decide
  have hlimitKey' : ("max_recent_files" : Key) ≠ "last_gcode_dir" := by decide
  have hlistKey : ("recent_files" : Key) ≠ "last_gcode_dir" := by decide
  refine ⟨_, by rw [addRecent, hitems]; rfl, ?_, ?_⟩
  · rw [← hlimit, recentLimit, item?, setItem, setItem, Members.get?_insert_of_ne hlimitKey',
      Members.get?_insert_of_ne hlimitKey]
    rfl
  · rw [recentItems, item?, setItem, setItem, Members.get?_insert_of_ne hlistKey,
      Members.get?_insert_self, Option.getD_some]

/-- **The list of recent files.** After any sequence of additions to an empty list, with a limit
that stays the same, the list holds the distinct files that were added, ordered by their last
addition with the latest one first, as many of them as the limit admits. -/
theorem addAll_recent (hlimit : s.recentLimit = .int n) (hempty : s.recentItems = .array [])
    (files : List (String × RawText)) :
    ∃ listed s', IsByRecency (files.map Prod.snd) listed ∧ s.addAll files = .ok s' ∧
      s'.recentItems = .array ((listed.take n).map .ofRaw) := by
  -- the limit is carried along, because every step reads it from the settings
  suffices h : ∃ listed s', IsByRecency (files.map Prod.snd) listed ∧ s.addAll files = .ok s' ∧
      s'.recentLimit = .int n ∧ s'.recentItems = .array ((listed.take n).map .ofRaw) by
    obtain ⟨listed, s', hlisted, hadded, -, hitems⟩ := h
    exact ⟨listed, s', hlisted, hadded, hitems⟩
  induction files using List.reverseRecOn with
  | nil => exact ⟨[], s, isByRecency_nil, rfl, hlimit, by simpa using hempty⟩
  | append_singleton files file ih =>
    obtain ⟨listed, s₁, hlisted, hadded, hlimit₁, hitems₁⟩ := ih
    obtain ⟨s', hstep, hlimit', hitems'⟩ := addRecent_eq hlimit₁ hitems₁ file.1 file.2
    refine ⟨file.2 :: listed.filter (· ≠ file.2), s', ?_, ?_, hlimit', ?_⟩
    · simpa using hlisted.concat file.2
    · rw [addAll, List.foldlM_append]
      exact bind_eq_ok_iff.mpr ⟨s₁, hadded, bind_eq_ok_iff.mpr ⟨s', hstep, rfl⟩⟩
    · rw [hitems', take_cons_filter_take _ _ hlisted.nodup]

/-- Two files of which the first one is added again, where only one is remembered. -/
theorem addAll_recent_repeatedFile :
    let s : Settings := ⟨"settings.json", [("max_recent_files", .int 1)]⟩
    let files : List (String × RawText) := [("/", "a.nc"), ("/", "b.nc"), ("/", "a.nc")]
    s.recentLimit = .int (1 : Nat) ∧ s.recentItems = .array [] ∧
      ∃ listed s', IsByRecency (files.map Prod.snd) listed ∧ s.addAll files = .ok s' ∧
        s'.recentItems = .array ((listed.take 1).map .ofRaw) := by
  intro s files
  have hlimit : s.recentLimit = .int (1 : Nat) := rfl
  have hempty : s.recentItems = .array [] := rfl
  exact ⟨hlimit, hempty, addAll_recent hlimit hempty files⟩

end Settings

end NumericControl
