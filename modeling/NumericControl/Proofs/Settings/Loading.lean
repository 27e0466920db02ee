import NumericControl.CommandLine.Run
import NumericControl.Files.Tree
import NumericControl.Proofs.Json.Reading
import NumericControl.Proofs.Settings.Merging
import NumericControl.Proofs.Text.Utf8

/-!
# Loading the settings file

The content of the settings file is decoded, read and laid over the defaults.  What becomes of a
content is told by its bytes: settings if they are the bytes of an object, a report if they are
those of a malformed text or of another value, and neither if they are no text at all or one that is
too large to be taken in.  The files stay as they are, and where there is a report the program goes
on with the settings that it had.

## Main results

* `Settings.parse_eq_ok_iff`, `Settings.unforeseen_parse_iff` : the outcome for the bytes of a file.
* `Settings.load_classified` : the outcome of loading a file that can be read.
* `Settings.merged?_defaults` : the defaults can be copied, so anything is laid over them.
* `Settings.merge_loaded` : loaded settings are not changed by being merged once more.
-/

namespace NumericControl

theorem LoadFault.isForeseen_ofReadError_iff {cause : Json.ReadError} :
    (ofReadError cause).isForeseen = false ↔ cause ≠ .malformed := by
  cases cause <;> simp [ofReadError, isForeseen]

namespace Settings

variable {content : ByteArray} {members : Members}

theorem parse_of_decode? {text : String} (h : Text.Utf8.decode? content = some text) :
    parse content =
      match Json.read text with
      | .error cause => .error (.ofReadError cause)
      | .ok (.object members) => .ok members
      | .ok _ => .error .notAnObject := by
  unfold parse
  split
  · next hnone =>
    rw [h] at hnone
    cases hnone
  · next hsome =>
    rw [h] at hsome
    cases hsome
    rfl

theorem parse_of_decode?_none (h : Text.Utf8.decode? content = none) :
    parse content = .error .notText := by
  rw [parse, h]

/-- The values of a settings file are those of the object that its bytes write. -/
theorem parse_eq_ok_iff :
    parse content = .ok members ↔
      ∃ text : String, content = text.toUTF8 ∧ Json.read text = .ok (.object members) := by
  simp only [← Text.Utf8.decode?_eq_some_iff]
  cases hdecode : Text.Utf8.decode? content with
  | none => simp [parse_of_decode?_none hdecode]
  | some text =>
    rw [parse_of_decode? hdecode]
    constructor
    · intro h
      split at h
      · cases h
      · next hread =>
        cases h
        exact ⟨text, rfl, hread⟩
      · cases h
    · rintro ⟨_, ⟨⟩, hread⟩
      rw [hread]

/-- The values of a settings file have distinct keys in every section, whatever the file. -/
theorem wellKeyed_of_parse (h : parse content = .ok members) : (Json.object members).WellKeyed := by
  obtain ⟨text, _, hread⟩ := parse_eq_ok_iff.mp h
  exact Json.wellKeyed_of_read hread

theorem wellKeyed_defaults : (Json.object defaults).WellKeyed := by
  refine .object (by decide) ?_
  simp only [defaults, List.forall_mem_cons, List.not_mem_nil]
  exact ⟨.text _, .int _, .text _, .text _, .text _, .int _, .bool _, .text _, .int _,
    .array nofun, nofun⟩

/-- The defaults can always be copied. -/
theorem merged?_defaults (given : Members) : merged? defaults given = some (merge defaults given) :=
  rfl

/-- Values that come from a settings file are not changed by being laid over the defaults once
more. -/
theorem merge_loaded (h : parse content = .ok members) :
    merge defaults (merge defaults members) = merge defaults members := by
  have hunder : ∀ under ∈ some (Json.object defaults), under.WellKeyed := by
    simpa using wellKeyed_defaults
  have hover := (wellKeyed_of_parse h).mergeValue_over hunder
  simpa only [mergeValue_objects, Json.object.injEq] using hover

/-- The content of a file is refused without a report if it is no text or not taken in. -/
theorem unforeseen_parse_iff :
    (∃ fault, parse content = .error fault ∧ fault.isForeseen = false) ↔
      (∀ text : String, content ≠ text.toUTF8) ∨
        ∃ text : String, content = text.toUTF8 ∧ Json.IsOversized text := by
  simp only [ne_eq, ← Text.Utf8.decode?_eq_some_iff]
  cases hdecode : Text.Utf8.decode? content with
  | none =>
    rw [parse_of_decode?_none hdecode]
    exact ⟨fun _ => .inl nofun, fun _ => ⟨_, rfl, rfl⟩⟩
  | some text =>
    rw [parse_of_decode? hdecode]
    constructor
    · rintro ⟨fault, hfault, hforeseen⟩
      split at hfault
      · next cause hread =>
        cases hfault
        have hother := LoadFault.isForeseen_ofReadError_iff.mp hforeseen
        exact .inr ⟨text, rfl, Json.isOversized_iff.mpr ⟨cause, hread, hother⟩⟩
      · cases hfault
      · cases hfault
        cases hforeseen
    · rintro (h | ⟨_, ⟨⟩, hlarge⟩)
      · exact absurd rfl (h text)
      · obtain ⟨cause, hread, hother⟩ := Json.isOversized_iff.mp hlarge
        rw [hread]
        exact ⟨_, rfl, LoadFault.isForeseen_ofReadError_iff.mpr hother⟩

variable {s : Settings} {t : FileTree}

/-- Something that can be read is a file. -/
theorem kind?_of_read {path : String} (h : t.read path = .ok content) :
    t.kind? path = .ok (some .file) := by
  obtain ⟨place, hplace, hcontent⟩ := bind_eq_ok_iff.mp h
  rw [FileTree.kind?, hplace]
  unfold FileTree.contentAt at hcontent
  split at hcontent
  · next hentry => simp only [FileTree.kindAt?, hentry]
  · cases hcontent
  · cases hcontent

/-- Loading a file that can be read is laying its values over the defaults. -/
theorem load_eq (h : t.read (Path.ofText s.path).text = .ok content) :
    (s.load (m := StateM FileTree)).run t =
      ((parse content).map fun members => some { s with data := merge defaults members }, t) := by
  have hkind : FileAccess.kind? (m := StateM FileTree) (Path.ofText s.path).text t =
      (.ok (some .file), t) := by
    change ((t.kind? _).mapError _, t) = _
    rw [kind?_of_read h]
    rfl
  have hread : FileAccess.read (m := StateM FileTree) (Path.ofText s.path).text t =
      (.ok content, t) := by
    change ((t.read _).mapError _, t) = _
    rw [h]
    rfl
  simp only [load, StateT.run, bind, StateT.bind, hkind, hread]
  rfl

/-- What the program goes on with: the loaded settings, or those that it had if there is a
report. -/
theorem loadedOrDefault_eq (h : t.read (Path.ofText s.path).text = .ok content) :
    (loadedOrDefault (m := StateM FileTree) s).run t =
      (match parse content with
        | .ok members => .ok { s with data := merge defaults members }
        | .error fault => if fault.isForeseen then .ok s else .error fault, t) := by
  have hload : s.load (m := StateM FileTree) t = _ := load_eq h
  simp only [loadedOrDefault, StateT.run, bind, StateT.bind, hload]
  cases parse content with
  | ok members => rfl
  | error fault => cases fault <;> rfl

/-- **Loading a settings file that can be read.** The files stay as they are.  There are settings
exactly if the bytes of the file are those of an object, and their values are those of the object
laid over the defaults.  Everything else is reported, and then the settings are the ones that there
were before, except for bytes that are no text and texts that are too large to be taken in. -/
theorem load_classified (h : t.read (Path.ofText s.path).text = .ok content) :
    ∃ outcome, (s.load (m := StateM FileTree)).run t = (outcome, t) ∧
      (∀ loaded?, outcome = .ok loaded? ↔
        ∃ (text : String) (members : Members), content = text.toUTF8 ∧
          Json.read text = .ok (.object members) ∧
          loaded? = some { s with data := merge defaults members }) ∧
      ((∃ fault, outcome = .error fault ∧ fault.isForeseen = false) ↔
        (∀ text : String, content ≠ text.toUTF8) ∨
          ∃ text : String, content = text.toUTF8 ∧ Json.IsOversized text) ∧
      ((∃ fault, outcome = .error fault ∧ fault.isForeseen = true) →
        (loadedOrDefault (m := StateM FileTree) s).run t = (.ok s, t)) := by
  refine ⟨_, load_eq h, fun loaded? => ?_, ?_, ?_⟩
  · rw [map_eq_ok_iff]
    constructor
    · rintro ⟨members, hmembers, rfl⟩
      obtain ⟨text, htext, hread⟩ := parse_eq_ok_iff.mp hmembers
      exact ⟨text, members, htext, hread, rfl⟩
    · rintro ⟨text, members, htext, hread, rfl⟩
      exact ⟨members, parse_eq_ok_iff.mpr ⟨text, htext, hread⟩, rfl⟩
  · rw [← unforeseen_parse_iff]
    simp only [map_eq_error_iff]
  · rintro ⟨fault, hfault, hforeseen⟩
    rw [loadedOrDefault_eq h, map_eq_error_iff.mp hfault]
    simp only [hforeseen, if_true]

/-- Settings in a file of the current directory. -/
def localSettings : Settings := .new "s"

/-- A tree with that file. -/
def localTree (content : ByteArray) : FileTree :=
  { entries := [(["s"], .file content)] }

theorem read_localTree (content : ByteArray) :
    (localTree content).read (Path.ofText localSettings.path).text = .ok content := by
  have hparts : "s".splitOn "/" = ["s"] := by
    rw [String.splitOn, if_neg (by decide), String.splitOnAux, if_neg (by decide),
      if_neg (by decide +kernel), String.splitOnAux, if_pos (by decide +kernel)]
    decide +kernel
  have hpath : (Path.ofText localSettings.path).text = "s" := by
    simp only [localSettings, new, Path.ofText, hparts]
    decide +kernel
  have hlocate : (localTree content).locate "s" = .ok ["s"] := by
    have hencoded : pathEncodingFault? "s" = none := by decide +kernel
    have hrelative : "s".startsWith "/" = false := by decide +kernel
    have hnull : "s".contains (Char.ofNat 0) = false := by simp
    have hshort : ¬ FileTree.pathLimit < "s".utf8ByteSize := by decide +kernel
    simp only [FileTree.locate, hencoded, hnull, hrelative, hparts, if_neg hshort]
    rfl
  rw [hpath, FileTree.read, hlocate]
  rfl

/-- The text of a file with one setting. -/
def sixAxesText : String := "\x7b\"axis_count\": 6\x7d"

theorem load_classified_sixAxes :
    (localTree sixAxesText.toUTF8).read (Path.ofText localSettings.path).text =
        .ok sixAxesText.toUTF8 ∧
      (localSettings.load (m := StateM FileTree)).run (localTree sixAxesText.toUTF8) =
        (.ok (some { localSettings with data := merge defaults [("axis_count", .int 6)] }),
          localTree sixAxesText.toUTF8) := by
  have hfile := read_localTree sixAxesText.toUTF8
  have hread : Json.read sixAxesText = .ok (.object [("axis_count", .int 6)]) :=
    toOption_eq_some_iff.mp (by decide +kernel)
  obtain ⟨outcome, hload, hok, -⟩ := load_classified hfile
  rw [hload, (hok _).mpr ⟨sixAxesText, _, rfl, hread, rfl⟩]
  exact ⟨hfile, rfl⟩

/-- Settings in a file that is one byte which is no text. -/
theorem not_isForeseen_badByte :
    ¬ ∃ outcome, (localSettings.load (m := StateM FileTree)).run (localTree ⟨#[0xFF]⟩) =
        (outcome, localTree ⟨#[0xFF]⟩) ∧
      ((∃ loaded?, outcome = .ok loaded?) ∨
        ∃ fault, outcome = .error fault ∧ fault.isForeseen = true) := by
  have hdecode : Text.Utf8.decode? ⟨#[0xFF]⟩ = none := by decide +kernel
  rintro ⟨outcome, hload, houtcome⟩
  rw [load_eq (read_localTree _), parse_of_decode?_none hdecode] at hload
  cases hload
  rcases houtcome with ⟨loaded?, ⟨⟩⟩ | ⟨fault, ⟨⟩, ⟨⟩⟩

end Settings

end NumericControl
