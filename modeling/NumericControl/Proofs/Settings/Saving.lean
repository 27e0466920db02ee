import Mathlib.Logic.Relation
import NumericControl.Proofs.Files.Undisturbed
import NumericControl.Proofs.Json.Stored
import NumericControl.Proofs.Settings.Dotted
import NumericControl.Proofs.Settings.Loading
import NumericControl.Settings.Recent

/-!
# Saving settings

Settings that are saved are laid over the defaults when they are loaded.  They come back as they
were because no change of settings takes a key of the defaults away, and none of the defaults is a
section that could be merged with what was saved.

## Main definitions

* `Settings.Change` : the changes that settings can undergo.
* `Settings.IsComplete` : settings that have every key of the defaults, and storable values.

## Main results

* `Settings.Change.isComplete` : settings stay complete.
* `Settings.read_of_save` : what a file holds after settings are saved.
* `Settings.load_of_save` : settings that are saved are loaded as they were.
-/

namespace NumericControl

namespace Members

variable {m : Members} {value : Json} {key : Key}

theorem mem_keys_insert (other : Key) (value : Json) (h : key ∈ m.map Prod.fst) :
    key ∈ (insert other value m).map Prod.fst := by
  rw [keys_insert]
  split
  · exact h
  · exact List.mem_append_left _ h

/-- Keys stay when a value is set for a path. -/
theorem mem_keys_setAt (value : Json) (path : List Key) (h : key ∈ m.map Prod.fst) :
    key ∈ (setAt value path m).map Prod.fst := by
  cases path with
  | nil => exact h
  | cons part parts =>
    by_cases hlast : parts = []
    · subst hlast
      exact mem_keys_insert part _ h
    · rw [setAt_cons value part hlast]
      exact mem_keys_insert part _ h

/-- Members stay storable when a storable value is set for a path. -/
theorem isStorable_setAt (hvalue : value.IsStorable) (path : List Key)
    (h : (Json.object m).IsStorable) : (Json.object (setAt value path m)).IsStorable := by
  induction path generalizing m with
  | nil => exact h
  | cons part parts ih =>
    by_cases hlast : parts = []
    · subst hlast
      exact h.insert part hvalue
    · rw [setAt_cons value part hlast]
      refine h.insert part (ih ?_)
      cases hsection : get? part m with
      | none => exact Json.isStorable_empty
      | some found =>
        cases found with
        | object members => exact h.of_get? hsection
        | _ => exact Json.isStorable_empty

/-- What is laid over members without sections is taken as it is. -/
theorem get?_merge_of_noSection {base given : Members} (hgiven : (given.map Prod.fst).Nodup)
    (hbase : ∀ key members, get? key base ≠ some (.object members)) (key : Key) :
    get? key (merge base given) = (get? key given).or (get? key base) := by
  rw [get?_merge hgiven]
  cases get? key given with
  | none => rfl
  | some value =>
    cases value with
    | object members =>
      rw [Option.map_some, mergeValue_object_of_ne (hbase key)]
    | _ => simp [mergeValue]

end Members

namespace Settings

variable {s s' : Settings} {m : Members}

/-! ### Changes -/

/-- The changes that settings can undergo.  Loaded settings come from any disk. -/
inductive Change : Settings → Settings → Prop
  | set (s : Settings) (key : Key) {value : Json} (hvalue : value.IsStorable) :
      Change s (s.set key value)
  | setItem (s : Settings) (key : Key) {value : Json} (hvalue : value.IsStorable) :
      Change s (s.setItem key value)
  | addRecent {s s' : Settings} {current : String} {path : RawText}
      (hadded : s.addRecent current path = .ok s') : Change s s'
  | reset (s : Settings) : Change s s.reset
  | load {s s' : Settings} {d d' : Disk}
      (hloaded : (s.load (m := StateM Disk)).run d = (.ok (some s'), d'))
      (hfinite : (Json.object s'.data).firstNotFinite? = none) : Change s s'
  | save {s : Settings} {d d' : Disk} {outcome : Except SettingsWriteFault Unit}
      (hsaved : (s.save (m := StateM Disk)).run d = (outcome, d')) : Change s s

/-- Settings that have every key of the defaults, and storable values. -/
structure IsComplete (s : Settings) : Prop where
  keys : ∀ key ∈ defaults.map Prod.fst, key ∈ s.data.map Prod.fst
  storable : (Json.object s.data).IsStorable

/-- None of the defaults is a section. -/
theorem get?_defaults_ne (key : Key) (members : Members) :
    Members.get? key defaults ≠ some (.object members) := by
  intro h
  have hmem := Members.mem_of_get? h
  simp [defaults] at hmem

theorem isStorable_defaults : (Json.object defaults).IsStorable where
  wellKeyed := wellKeyed_defaults
  finite := rfl

theorem isComplete_new (path : String) : (new path).IsComplete where
  keys _ := id
  storable := isStorable_defaults

theorem IsComplete.setItem (h : s.IsComplete) (key : Key) {value : Json}
    (hvalue : value.IsStorable) : (s.setItem key value).IsComplete where
  keys other hother := Members.mem_keys_insert key value (h.keys other hother)
  storable := h.storable.insert key hvalue

theorem IsComplete.set (h : s.IsComplete) (key : Key) {value : Json} (hvalue : value.IsStorable) :
    (s.set key value).IsComplete where
  keys other hother := Members.mem_keys_setAt value key.dottedParts (h.keys other hother)
  storable := Members.isStorable_setAt hvalue key.dottedParts h.storable

/-- The items of a storable value are storable. -/
theorem isStorable_of_items? {value : Json} {items : List Json} (h : value.IsStorable)
    (hitems : value.items? = some items) : ∀ item ∈ items, item.IsStorable := by
  cases value with
  | array inner =>
    cases hitems
    exact Json.isStorable_array_iff.mp h
  | text s =>
    cases hitems
    exact List.forall_mem_map.mpr fun c _ => Json.isStorable_ofRaw (.text _)
  | brokenText points =>
    cases hitems
    exact List.forall_mem_map.mpr fun point _ => Json.isStorable_ofRaw _
  | object members =>
    cases hitems
    exact List.forall_mem_map.mpr fun p _ => Json.isStorable_ofRaw p.1
  | _ => cases hitems

theorem subset_of_frontBy? {limit : Json} {items kept : List Json}
    (h : frontBy? limit items = some kept) : kept ⊆ items := by
  cases limit with
  | null =>
    cases h
    exact List.Subset.refl items
  | bool b =>
    cases h
    exact (front_sublist _ items).subset
  | int n =>
    cases h
    exact (front_sublist n items).subset
  | _ => cases h

/-- The list of recent files stays storable. -/
theorem isStorable_recentWith {path : RawText} {items : List Json} (h : s.IsComplete)
    (hitems : s.recentWith path = .ok items) : (Json.array items).IsStorable := by
  have hlisted : s.recentItems.IsStorable := by
    rw [recentItems, item?]
    cases hget : Members.get? "recent_files" s.data with
    | none => exact Json.isStorable_array_iff.mpr nofun
    | some value => exact h.storable.of_get? hget
  rw [recentWith] at hitems
  split at hitems
  · cases hitems
  · next before hbefore =>
    split at hitems
    · cases hitems
    · next kept hkept =>
      cases hitems
      refine Json.isStorable_array_iff.mpr fun item hitem => ?_
      rcases List.mem_cons.mp (subset_of_frontBy? hkept hitem) with rfl | hmem
      · exact Json.isStorable_ofRaw path
      · exact isStorable_of_items? hlisted hbefore item (List.mem_of_mem_filter hmem)

theorem IsComplete.addRecent {current : String} {path : RawText} (h : s.IsComplete)
    (hadded : s.addRecent current path = .ok s') : s'.IsComplete := by
  obtain ⟨items, hitems, hs'⟩ := bind_eq_ok_iff.mp hadded
  cases hs'
  exact (h.setItem _ (isStorable_recentWith h hitems)).setItem _ (Json.isStorable_ofRaw _)

/-- Settings that are loaded are the values of some file laid over the defaults. -/
theorem load_eq_ok {d d' : Disk} (h : (s.load (m := StateM Disk)).run d = (.ok (some s'), d')) :
    ∃ content members, parse content = .ok members ∧
      s' = { s with data := merge defaults members } := by
  rw [load, Disk.run_bind] at h
  rcases hkind : (FileAccess.kind? (m := StateM Disk) (Path.ofText s.path).text).run d with
    ⟨_ | _ | _, d₁⟩
  · rw [hkind] at h
    cases h
  · rw [hkind] at h
    cases h
  rw [hkind, Disk.run_bind] at h
  rcases hread : (FileAccess.read (m := StateM Disk) (Path.ofText s.path).text).run d₁ with
    ⟨_ | content, d₂⟩
  · rw [hread] at h
    cases h
  rw [hread] at h
  obtain ⟨members, hmembers, hs'⟩ := map_eq_ok_iff.mp (congrArg Prod.fst h)
  exact ⟨content, members, hmembers, (Option.some.inj hs').symm⟩

/-- Laying the values of a file over the defaults makes settings complete. -/
theorem IsComplete.of_parse {content : ByteArray} (h : parse content = .ok m) (path : String)
    (hfinite : (Json.object (merge defaults m)).firstNotFinite? = none) :
    (Settings.mk path (merge defaults m)).IsComplete where
  keys key hkey :=
    (Members.mem_keys_merge (wellKeyed_of_parse h).nodup_keys key).mpr (.inl hkey)
  storable := by
    have hgiven := wellKeyed_of_parse h
    have hkeys := Members.nodup_keys_merge wellKeyed_defaults.nodup_keys hgiven.nodup_keys
    refine ⟨.object hkeys fun p hp => ?_, hfinite⟩
    have hget := Members.get?_of_mem hkeys hp
    rw [Members.get?_merge_of_noSection hgiven.nodup_keys get?_defaults_ne] at hget
    rcases Option.or_eq_some_iff.mp hget with hvalue | ⟨-, hvalue⟩
    · exact hgiven.of_get? hvalue
    · exact wellKeyed_defaults.of_get? hvalue

/-- Settings stay complete, and in their place. -/
theorem Change.isComplete (h : s.IsComplete) (hchange : Change s s') :
    s'.IsComplete ∧ s'.path = s.path := by
  cases hchange with
  | set key hvalue => exact ⟨h.set key hvalue, rfl⟩
  | setItem key hvalue => exact ⟨h.setItem key hvalue, rfl⟩
  | addRecent hadded =>
    refine ⟨h.addRecent hadded, ?_⟩
    obtain ⟨items, -, hs'⟩ := bind_eq_ok_iff.mp hadded
    cases hs'
    rfl
  | reset => exact ⟨isComplete_new s.path, rfl⟩
  | load hloaded hfinite =>
    obtain ⟨content, members, hparse, rfl⟩ := load_eq_ok hloaded
    exact ⟨.of_parse hparse s.path hfinite, rfl⟩
  | save => exact ⟨h, rfl⟩

/-- Whatever becomes of new settings, they are complete, and in their place. -/
theorem isComplete_of_changes {path : String}
    (hchanges : Relation.ReflTransGen Change (new path) s) : s.IsComplete ∧ s.path = path := by
  induction hchanges with
  | refl => exact ⟨isComplete_new path, rfl⟩
  | tail _ hchange ih =>
    obtain ⟨hcomplete, hpath⟩ := ih
    obtain ⟨hcomplete', hpath'⟩ := hchange.isComplete hcomplete
    exact ⟨hcomplete', hpath'.trans hpath⟩

/-! ### Saving -/

theorem save_eq_ok {d d' : Disk} (h : (s.save (m := StateM Disk)).run d = (.ok (), d')) :
    (writeAtomic (m := StateM Disk) (Path.ofText s.path) (render s.data).toUTF8
      (some backupEnding)).run d = (.ok (), d') := by
  rw [save] at h
  split at h
  · cases h
  · rw [Disk.run_bind] at h
    rcases hwrite : (writeAtomic (m := StateM Disk) (Path.ofText s.path) (render s.data).toUTF8
      (some backupEnding)).run d with ⟨_ | _, d₁⟩
    · rw [hwrite] at h
      cases h
    · rw [hwrite] at h
      obtain rfl : d₁ = d' := congrArg Prod.snd h
      rfl

/-- Settings that are saved are in their file. -/
theorem read_of_save {d d' : Disk} (h : (s.save (m := StateM Disk)).run d = (.ok (), d')) :
    d'.tree.read (Path.ofText s.path).text = .ok (render s.data).toUTF8 ∧
      d'.tree.file? (FileTree.placeOf d.tree.current (Path.ofText s.path).text) =
        some (render s.data).toUTF8 :=
  Disk.read_of_writeAtomic (Path.isNormal_ofText s.path) (by decide) (save_eq_ok h)

/-- What settings write is read again, laid over the defaults. -/
theorem same_merge_sorted (h : s.IsComplete) :
    (Json.object (merge defaults (Json.sortedMembers s.data))).Same (.object s.data) := by
  have hkeyed := h.storable.wellKeyed
  have hsorted := (Json.keys_sortedMembers_perm s.data).nodup_iff.mpr hkeyed.nodup_keys
  refine .object (fun key => ?_) fun key v v' hv hv' => ?_
  · rw [Members.mem_keys_merge hsorted, (Json.keys_sortedMembers_perm s.data).mem_iff]
    exact or_iff_right_of_imp (h.keys key)
  · rw [Members.get?_merge_of_noSection hsorted get?_defaults_ne,
      Json.get?_sortedMembers hkeyed.nodup_keys, hv'] at hv
    cases hv
    exact (hkeyed.of_get? hv').same_sortKeys

/-- **Settings come back as they were.** Whatever sequence of changes new settings went through, a
save that reports no fault, on a disk any operation of which may have failed before, is followed by
a load into new settings for the same file that has a result, and its values are those that were
saved.  Reading a document is assumed to give back the storable value that it was written from. -/
theorem load_of_save {path : String} {d d' : Disk}
    (hchanges : Relation.ReflTransGen Change (new path) s)
    (hread : (Json.object s.data).IsStorable →
      Json.read ((Json.object s.data).sortKeys.write (some (Json.spaces 2))) =
        .ok (Json.object s.data).sortKeys)
    (hsave : (s.save (m := StateM Disk)).run d = (.ok (), d')) :
    ∃ loaded, ((new path).load (m := StateM FileTree)).run d'.tree =
        (.ok (some loaded), d'.tree) ∧
      loaded.path = path ∧ (Json.object loaded.data).Same (.object s.data) := by
  obtain ⟨hcomplete, hpath⟩ := isComplete_of_changes hchanges
  have hcontent := (read_of_save hsave).1
  rw [hpath] at hcontent
  have hdocument := hread hcomplete.storable
  rw [Json.sortKeys_object] at hdocument
  have hparse : parse (render s.data).toUTF8 = .ok (Json.sortedMembers s.data) := by
    refine parse_eq_ok_iff.mpr ⟨render s.data, rfl, ?_⟩
    rw [render, Json.sortKeys_object, hdocument]
  refine ⟨⟨path, merge defaults (Json.sortedMembers s.data)⟩, ?_, rfl,
    same_merge_sorted hcomplete⟩
  rw [load_eq (s := new path) hcontent, hparse]
  rfl

/-- Settings with a section that the defaults do not have. -/
def themedSettings : Settings := localSettings.set "ui.theme" (.text "dark")

/-- Their values in the order of the keys. -/
def themedMembers : Members :=
  [("arc_resolution", .int 32), ("axis_count", .int 3), ("continue_on_error", .bool false),
    ("dialect", .text "extended"), ("ignore_m6", .text "execute"), ("ignore_m7", .text "execute"),
    ("ignore_m8", .text "execute"), ("last_gcode_dir", .text ""), ("max_recent_files", .int 10),
    ("recent_files", .array []), ("ui", .object [("theme", .text "dark")])]

theorem data_themedSettings :
    themedSettings.data = defaults ++ ([("ui", .object [("theme", .text "dark")])] : Members) := by
  simp only [themedSettings, set, RawText.dottedParts_text]
  decide +kernel

theorem sortKeys_themedSettings :
    (Json.object themedSettings.data).sortKeys = .object themedMembers := by
  have hsorted : Json.sortedMembers themedSettings.data = themedMembers := by
    rw [data_themedSettings]
    exact Json.sortedMembers_eq (by decide +kernel) (by decide +kernel)
  rw [Json.sortKeys_object, hsorted]

/-- An empty tree takes the file of settings with a short name. -/
theorem exists_save_themedSettings :
    ∃ d', (themedSettings.save (m := StateM Disk)).run ⟨{}, []⟩ = (.ok (), d') := by
  have hdepth : ¬ Json.nestingLimit < (Json.object themedSettings.data).depth := by
    rw [data_themedSettings]
    decide +kernel
  have hpath : themedSettings.path = "s" := rfl
  have hname : isFileName "s" = true := by decide
  have hfirst : isFileName ("s" ++ temporaryEnding) = true := by decide
  have hwritten : ∃ d', (writeAtomic (m := StateM Disk) (Path.ofText "s")
      (render themedSettings.data).toUTF8 (some backupEnding)).run ⟨{}, []⟩ = (.ok (), d') :=
    Disk.run_writeAtomic_of_new (Path.beside?_of_isFileName hname hfirst)
      (lastName_of_isFileName hname) (FileTree.locate_parent_of_isFileName hname rfl) rfl
      (FileTree.locate_text_of_isFileName hname rfl)
      (FileTree.locate_text_of_isFileName hfirst rfl) rfl rfl (by decide)
  obtain ⟨d', hwritten⟩ := hwritten
  refine ⟨d', ?_⟩
  rw [save, if_neg hdepth, hpath, Disk.run_bind, hwritten]
  rfl

theorem load_of_save_themedSettings :
    ∃ d', Relation.ReflTransGen Change (new "s") themedSettings ∧
      Json.read ((Json.object themedSettings.data).sortKeys.write (some (Json.spaces 2))) =
        .ok (Json.object themedSettings.data).sortKeys ∧
      (themedSettings.save (m := StateM Disk)).run ⟨{}, []⟩ = (.ok (), d') ∧
      ∃ loaded, ((new "s").load (m := StateM FileTree)).run d'.tree =
          (.ok (some loaded), d'.tree) ∧
        loaded.path = "s" ∧ (Json.object loaded.data).Same (.object themedSettings.data) := by
  have hchanges : Relation.ReflTransGen Change (new "s") themedSettings :=
    .single (.set localSettings "ui.theme" (Json.isStorable_ofRaw (.text "dark")))
  have hread : Json.read ((Json.object themedSettings.data).sortKeys.write (some (Json.spaces 2))) =
      .ok (Json.object themedSettings.data).sortKeys := by
    rw [sortKeys_themedSettings]
    refine toOption_eq_some_iff.mp ?_
    -- the text is taken apart first: its characters are those of its parts
    simp only [Json.read, Json.write, themedMembers, Json.writeOnto, Json.writeMembers,
      Json.writeKey, String.toList_append, Json.toList_writeText]
    decide +kernel
  obtain ⟨d', hsave⟩ := exists_save_themedSettings
  exact ⟨d', hchanges, hread, hsave, load_of_save hchanges (fun _ => hread) hsave⟩

end Settings

end NumericControl
