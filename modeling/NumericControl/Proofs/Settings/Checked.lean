import NumericControl.Proofs.Outcome
import NumericControl.Proofs.Settings.Dotted
import NumericControl.Settings.Checked

/-!
# What checked settings describe

A configuration is built exactly from the settings that pass the check, and it holds the values that
they name: whatever the check admits, the conversions after it accept, and so does the
configuration.  Everything else is reported, except for an infinite number where a whole number is
needed: that has no whole part, and the check ends in the conversion itself.

## Main definitions

* `Json.IsInfinite` : an infinite number.
* `Settings.Names` : what a setting names, in lower case and without the white space around it.
* `Settings.IsValid` : the settings that are admitted.
* `Settings.Describes` : the configuration that settings describe.
* `Settings.MeetsInfinity` : the check comes to an infinite number.

## Main results

* `Settings.validate_eq_ok_iff`, `Settings.validate_eq_infinite_iff` : the outcome of the check.
* `Settings.config_eq_ok_iff` : the outcome of the conversions.
* `Settings.config_eq_error_iff` : the configuration fails as the check does.
* `Settings.config_classified` : what comes of any settings.
-/

namespace NumericControl

/-- An infinite number. -/
def Json.IsInfinite (value : Json) : Prop :=
  ∃ x negative, value = .float x ∧ Number.Reading.of x = .infinite negative

theorem Dialect.ofName?_eq_some_iff {name : String} {d : Dialect} :
    ofName? name = some d ↔ d.name = name := by
  constructor
  · intro h
    simpa using List.find?_some h
  · rintro rfl
    cases d <;> rfl

theorem IgnorePolicy.ofName?_eq_some_iff {name : String} {p : IgnorePolicy} :
    ofName? name = some p ↔ p.name = name := by
  constructor
  · intro h
    simpa using List.find?_some h
  · rintro rfl
    cases p <;> rfl

namespace Check

variable {parameter name : String} {value : Json} {n : Int}

/-- A text that is a choice in lower case and without the white space around it is admitted as
that. -/
theorem choice_of_mem {choices : List String} {s : String}
    (h : Text.lower (Text.trim s) ∈ choices) :
    choice parameter choices (.text s) = .ok (Text.lower (Text.trim s)) := by
  simp only [choice, List.contains_iff_mem, if_pos h]

/-- Everything else is reported. -/
theorem exists_rejection_of_choice (parameter : String) {choices : List String}
    (h : ∀ s, value = .text s → Text.lower (Text.trim s) ∉ choices) :
    ∃ rejection, choice parameter choices value = .error (.rejected parameter value rejection) := by
  cases value with
  | text s =>
    refine ⟨.notAmong (choices.mergeSort fun a b => decide (a ≤ b)), ?_⟩
    simp only [choice, List.contains_iff_mem, if_neg (h s rfl)]
  | _ => exact ⟨_, rfl⟩

theorem choice_eq_ok_iff {choices : List String} :
    choice parameter choices value = .ok name ↔
      ∃ s, value = .text s ∧ Text.lower (Text.trim s) = name ∧ name ∈ choices := by
  by_cases h : ∃ s, value = .text s ∧ Text.lower (Text.trim s) ∈ choices
  · obtain ⟨s, rfl, hmem⟩ := h
    rw [choice_of_mem hmem, Except.ok.injEq]
    constructor
    · exact fun hname => ⟨s, rfl, hname, hname ▸ hmem⟩
    · rintro ⟨s', hs, hname, -⟩
      rw [Json.text.inj hs, hname]
  · have hnone : ∀ s, value = .text s → Text.lower (Text.trim s) ∉ choices :=
      fun s hs hmem => h ⟨s, hs, hmem⟩
    obtain ⟨rejection, hrejected⟩ := exists_rejection_of_choice parameter hnone
    rw [hrejected]
    constructor
    · nofun
    · rintro ⟨s, hs, hname, hmem⟩
      exact absurd (hname ▸ hmem) (hnone s hs)

theorem choice_ne_infinite {choices : List String} :
    choice parameter choices value ≠ .error .infinite := by
  by_cases h : ∃ s, value = .text s ∧ Text.lower (Text.trim s) ∈ choices
  · obtain ⟨s, rfl, hmem⟩ := h
    rw [choice_of_mem hmem]
    nofun
  · obtain ⟨rejection, hrejected⟩ := exists_rejection_of_choice parameter
      fun s hs hmem => h ⟨s, hs, hmem⟩
    rw [hrejected]
    nofun

theorem wholePart_eq_infinite_iff :
    wholePart parameter value = .error .infinite ↔ value.IsInfinite := by
  cases value with
  | float x =>
    simp only [wholePart, Number.truncate, Json.IsInfinite]
    cases hreading : Number.Reading.of x <;> simp [hreading]
  | text s =>
    simp only [wholePart, Json.IsInfinite]
    split <;> simp
  | _ => simp [wholePart, Json.IsInfinite]

theorem within_eq_ok_iff {range : Int × Int} {m : Int} :
    within parameter range n = .ok m ↔ n = m ∧ range.1 ≤ n ∧ n ≤ range.2 := by
  unfold within
  split
  · next h => simp [h]
  · next h => exact ⟨nofun, fun hin => absurd hin.2 h⟩

theorem within_ne_infinite {range : Int × Int} :
    within parameter range n ≠ .error .infinite := by
  unfold within
  split <;> simp

/-- A number of axes is a whole number between three and six, and no truth value. -/
theorem axisCount_eq_ok_iff :
    axisCount value = .ok n ↔
      (∀ b, value ≠ .bool b) ∧ wholePart "axis_count" value = .ok n ∧ 3 ≤ n ∧ n ≤ 6 := by
  cases value with
  | bool b => simp [axisCount]
  | _ =>
    simp only [axisCount, bind_eq_ok_iff, within_eq_ok_iff, axisCountRange]
    grind

theorem axisCount_eq_infinite_iff : axisCount value = .error .infinite ↔ value.IsInfinite := by
  cases value with
  | bool b => simp [axisCount, Json.IsInfinite]
  | _ => simp [axisCount, bind_eq_error_iff, within_ne_infinite, wholePart_eq_infinite_iff]

theorem arcResolution_eq_ok_iff :
    arcResolution value = .ok n ↔
      wholePart "arc_resolution" value = .ok n ∧ 2 ≤ n ∧ n ≤ 10000 := by
  simp only [arcResolution, bind_eq_ok_iff, within_eq_ok_iff, arcResolutionRange]
  grind

theorem arcResolution_eq_infinite_iff :
    arcResolution value = .error .infinite ↔ value.IsInfinite := by
  simp [arcResolution, bind_eq_error_iff, within_ne_infinite, wholePart_eq_infinite_iff]

end Check

/-- A configuration takes a whole number of axes from three to six. -/
theorem Config.withAxisCount_int_eq_ok_iff {config c : Config} {n : Int} :
    config.withAxisCount (.int n) = .ok c ↔ 3 ≤ n ∧ n ≤ 6 ∧
      c = { config with
        axisCount := n.toNat, axisCountText := toString n, axisCountIsText := false } := by
  simp only [withAxisCount, bind_eq_ok_iff, Check.axisCount_eq_ok_iff]
  constructor
  · rintro ⟨m, ⟨-, hm, hlow, hhigh⟩, ⟨⟩⟩
    obtain rfl : n = m := Except.ok.inj hm
    exact ⟨hlow, hhigh, rfl⟩
  · rintro ⟨hlow, hhigh, rfl⟩
    exact ⟨n, ⟨nofun, rfl, hlow, hhigh⟩, rfl⟩

namespace Settings

variable {s : Settings}

/-- The setting of a key is a text that names something, in any case and with white space around
it. -/
def Names (s : Settings) (key name : String) : Prop :=
  ∃ text, s.value key = .text text ∧ Text.lower (Text.trim text) = name

/-- The names of the policies are among the settings. -/
structure NamesPolicies (s : Settings) : Prop where
  toolChange : ∃ p : IgnorePolicy, s.Names "ignore_m6" p.name
  mist : ∃ p : IgnorePolicy, s.Names "ignore_m7" p.name
  flood : ∃ p : IgnorePolicy, s.Names "ignore_m8" p.name

/-- The number of axes is given: as a whole number from three to six, and not by a truth value. -/
structure HasAxisCount (s : Settings) (n : Int) : Prop where
  noTruthValue : ∀ b, s.value "axis_count" ≠ .bool b
  whole : Check.wholePart "axis_count" (s.value "axis_count") = .ok n
  three_le : 3 ≤ n
  le_six : n ≤ 6

/-- The number of chords is given: as a whole number from two to ten thousand. -/
structure HasArcResolution (s : Settings) (n : Int) : Prop where
  whole : Check.wholePart "arc_resolution" (s.value "arc_resolution") = .ok n
  two_le : 2 ≤ n
  le_tenThousand : n ≤ 10000

/-- The settings that concern the interpreter and the length of the list of recent files are
admitted. -/
structure IsValid (s : Settings) : Prop where
  dialect : ∃ d : Dialect, s.Names "dialect" d.name
  axisCount : ∃ n, s.HasAxisCount n
  policies : s.NamesPolicies
  arcResolution : ∃ n, s.HasArcResolution n
  recentLimit : ∃ n : Nat, s.value "max_recent_files" = .int n

/-- The check comes to an infinite number: to that of the axes, or to that of the chords when all
before it is admitted. -/
structure MeetsInfinity (s : Settings) : Prop where
  dialect : ∃ d : Dialect, s.Names "dialect" d.name
  number : (s.value "axis_count").IsInfinite ∨
    (∃ n, s.HasAxisCount n) ∧ s.NamesPolicies ∧ (s.value "arc_resolution").IsInfinite

/-- The configuration that settings describe: a whole number of axes from three to six, and the
dialect and the policies that the settings name. -/
structure Describes (s : Settings) (c : Config) : Prop where
  axisCount : s.HasAxisCount c.axisCount
  axisCountIsText : c.axisCountIsText = false
  dialect : s.Names "dialect" c.dialect.name
  toolChange : s.Names "ignore_m6" c.toolChange.name
  mist : s.Names "ignore_m7" c.mist.name
  flood : s.Names "ignore_m8" c.flood.name

theorem axisCount_eq_ok_iff {n : Int} :
    Check.axisCount (s.value "axis_count") = .ok n ↔ s.HasAxisCount n := by
  rw [Check.axisCount_eq_ok_iff]
  exact ⟨fun ⟨hbool, hwhole, hlow, hhigh⟩ => ⟨hbool, hwhole, hlow, hhigh⟩,
    fun ⟨hbool, hwhole, hlow, hhigh⟩ => ⟨hbool, hwhole, hlow, hhigh⟩⟩

theorem arcResolution_eq_ok_iff {n : Int} :
    Check.arcResolution (s.value "arc_resolution") = .ok n ↔ s.HasArcResolution n := by
  rw [Check.arcResolution_eq_ok_iff]
  exact ⟨fun ⟨hwhole, hlow, hhigh⟩ => ⟨hwhole, hlow, hhigh⟩,
    fun ⟨hwhole, hlow, hhigh⟩ => ⟨hwhole, hlow, hhigh⟩⟩

theorem dialect_eq_ok_iff {name : String} :
    s.dialect = .ok name ↔ ∃ d : Dialect, d.name = name ∧ s.Names "dialect" name := by
  have hmem : name ∈ Dialect.all.map Dialect.name ↔ ∃ d : Dialect, d.name = name := by
    simp only [List.mem_map]
    exact ⟨fun ⟨d, _, hname⟩ => ⟨d, hname⟩, fun ⟨d, hname⟩ => ⟨d, by cases d <;> decide, hname⟩⟩
  rw [dialect, Check.choice_eq_ok_iff, Names]
  grind

theorem policy_eq_ok_iff {key name : String} :
    s.policy key = .ok name ↔ ∃ p : IgnorePolicy, p.name = name ∧ s.Names key name := by
  have hmem : name ∈ IgnorePolicy.all.map IgnorePolicy.name ↔
      ∃ p : IgnorePolicy, p.name = name := by
    simp only [List.mem_map]
    exact ⟨fun ⟨p, _, hname⟩ => ⟨p, hname⟩, fun ⟨p, hname⟩ => ⟨p, by cases p <;> decide, hname⟩⟩
  rw [policy, Check.choice_eq_ok_iff, Names]
  grind

/-! ### The check -/

theorem isRecentLimit_iff {value : Json} :
    isRecentLimit value = true ↔ ∃ n : Nat, value = .int n := by
  cases value with
  | int n =>
    simp only [isRecentLimit, decide_eq_true_eq, Json.int.injEq]
    exact ⟨fun h => ⟨n.toNat, (Int.toNat_of_nonneg h).symm⟩, fun ⟨m, h⟩ => h ▸ Int.natCast_nonneg m⟩
  | _ => simp [isRecentLimit]

theorem checkInterpreter_eq_ok_iff :
    s.checkInterpreter = .ok () ↔
      (∃ d : Dialect, s.Names "dialect" d.name) ∧
      (∃ n, s.HasAxisCount n) ∧ s.NamesPolicies ∧ ∃ n, s.HasArcResolution n := by
  simp only [checkInterpreter, bind_eq_ok_iff, dialect_eq_ok_iff, policy_eq_ok_iff,
    axisCount_eq_ok_iff, arcResolution_eq_ok_iff]
  constructor
  · rintro ⟨_, ⟨d, rfl, hd⟩, axes, haxes, _, ⟨p, rfl, hp⟩, _, ⟨q, rfl, hq⟩, _, ⟨r, rfl, hr⟩, chords,
      hchords, -⟩
    exact ⟨⟨d, hd⟩, ⟨axes, haxes⟩, ⟨⟨p, hp⟩, ⟨q, hq⟩, ⟨r, hr⟩⟩, chords, hchords⟩
  · rintro ⟨⟨d, hd⟩, ⟨axes, haxes⟩, ⟨⟨p, hp⟩, ⟨q, hq⟩, ⟨r, hr⟩⟩, chords, hchords⟩
    exact ⟨_, ⟨d, rfl, hd⟩, axes, haxes, _, ⟨p, rfl, hp⟩, _, ⟨q, rfl, hq⟩, _, ⟨r, rfl, hr⟩, chords,
      hchords, rfl⟩

/-- The check of the interpreter's settings comes to an infinite number exactly where they meet
one. -/
theorem checkInterpreter_eq_infinite_iff :
    s.checkInterpreter = .error .infinite ↔ s.MeetsInfinity := by
  have hdialect : s.dialect ≠ .error .infinite := Check.choice_ne_infinite
  have hpolicy (key : String) : s.policy key ≠ .error .infinite := Check.choice_ne_infinite
  simp only [checkInterpreter, bind_eq_error_iff, dialect_eq_ok_iff, policy_eq_ok_iff, hdialect,
    hpolicy, axisCount_eq_ok_iff, Check.axisCount_eq_infinite_iff,
    Check.arcResolution_eq_infinite_iff, false_or]
  constructor
  · rintro ⟨_, ⟨d, rfl, hd⟩, haxes |
      ⟨axes, haxes, _, ⟨p, rfl, hp⟩, _, ⟨q, rfl, hq⟩, _, ⟨r, rfl, hr⟩, hchords⟩⟩
    · exact ⟨⟨d, hd⟩, .inl haxes⟩
    · rcases hchords with hchords | ⟨_, _, ⟨⟩⟩
      exact ⟨⟨d, hd⟩, .inr ⟨⟨axes, haxes⟩, ⟨⟨p, hp⟩, ⟨q, hq⟩, ⟨r, hr⟩⟩, hchords⟩⟩
  · rintro ⟨⟨d, hd⟩, haxes | ⟨⟨axes, haxes⟩, ⟨⟨p, hp⟩, ⟨q, hq⟩, ⟨r, hr⟩⟩, hchords⟩⟩
    · exact ⟨_, ⟨d, rfl, hd⟩, .inl haxes⟩
    · exact ⟨_, ⟨d, rfl, hd⟩, .inr ⟨axes, haxes, _, ⟨p, rfl, hp⟩, _, ⟨q, rfl, hq⟩, _, ⟨r, rfl, hr⟩,
        .inl hchords⟩⟩

theorem validate_of_error {e : CheckError} (h : s.checkInterpreter = .error e) :
    s.validate = .error (.check e) := by
  rw [validate, h]
  rfl

theorem validate_of_ok (h : s.checkInterpreter = .ok ()) :
    s.validate = if isRecentLimit (s.value "max_recent_files") then .ok ()
      else .error (.recentLimit (s.value "max_recent_files")) := by
  rw [validate, h]
  cases hlimit : isRecentLimit (s.value "max_recent_files") <;> simp only [hlimit] <;> rfl

/-- The check passes exactly the admitted settings. -/
theorem validate_eq_ok_iff : s.validate = .ok () ↔ s.IsValid := by
  cases hcheck : s.checkInterpreter with
  | error e =>
    rw [validate_of_error hcheck]
    refine ⟨nofun, fun h => ?_⟩
    have hok := checkInterpreter_eq_ok_iff.mpr ⟨h.dialect, h.axisCount, h.policies, h.arcResolution⟩
    simp [hcheck] at hok
  | ok _ =>
    obtain ⟨hdialect, haxes, hpolicies, hchords⟩ := checkInterpreter_eq_ok_iff.mp hcheck
    rw [validate_of_ok hcheck]
    constructor
    · intro h
      split at h
      · next hlimit => exact ⟨hdialect, haxes, hpolicies, hchords, isRecentLimit_iff.mp hlimit⟩
      · cases h
    · intro h
      rw [if_pos (isRecentLimit_iff.mpr h.recentLimit)]

theorem validate_eq_infinite_iff : s.validate = .error (.check .infinite) ↔ s.MeetsInfinity := by
  rw [← checkInterpreter_eq_infinite_iff]
  cases hcheck : s.checkInterpreter with
  | error e => simp [validate_of_error hcheck]
  | ok _ =>
    rw [validate_of_ok hcheck]
    split <;> simp

/-- A fault that the check finds is foreseen, unless it comes to an infinite number. -/
theorem isForeseen_of_validate {fault : SettingsFault} (h : s.validate = .error fault) :
    fault.isForeseen = false ↔ fault = .check .infinite := by
  cases hcheck : s.checkInterpreter with
  | error e =>
    obtain rfl : SettingsFault.check e = fault := by
      rw [validate_of_error hcheck] at h
      exact Except.error.inj h
    cases e <;> simp [SettingsFault.isForeseen]
  | ok _ =>
    rw [validate_of_ok hcheck] at h
    split at h
    · cases h
    · obtain rfl := Except.error.inj h
      simp [SettingsFault.isForeseen]

/-! ### The conversions -/

/-- A key without a dot leads to its own value. -/
theorem get?_getD_of_notMem {key : String} (h : '.' ∉ key.toList) :
    (s.get? key).getD .null = s.value key := by
  have hparts : (RawText.text key).dottedParts = [.text key] := by
    have hsplit : key.splitOn "." = [key] := Text.splitOn_of_not_mem h
    rw [RawText.dottedParts, hsplit, List.map_singleton]
  rw [get?, hparts, Json.follow?_object_cons, value, item?]
  cases Members.get? (.text key) s.data <;> rfl

theorem converted_eq_ok_iff {α : Type} {ofName? : String → Option α} {name : α → String}
    (hname : ∀ {text a}, ofName? text = some a ↔ name a = text) {key : String}
    (hkey : '.' ∉ key.toList) {a : α} :
    s.converted ofName? key = .ok a ↔ s.Names key (name a) := by
  rw [converted, get?_getD_of_notMem hkey, Names]
  cases s.value key with
  | text text =>
    simp only [Json.text.injEq, exists_eq_left', eq_comm (a := Text.lower _), ← hname]
    cases ofName? (Text.lower (Text.trim text)) <;> simp
  | _ => simp

theorem wholeAxisCount_eq_ok_iff {n : Int} :
    s.wholeAxisCount = .ok n ↔ Check.wholePart "axis_count" (s.value "axis_count") = .ok n := by
  rw [wholeAxisCount, get?_getD_of_notMem (by decide), mapError_eq_ok_iff]

/-! ### The configuration -/

/-- Settings that fail the check have no configuration, and for the same reason. -/
theorem config_of_error {fault : SettingsFault} (h : s.validate = .error fault) :
    s.config = .error fault := by
  rw [config, h]
  rfl

/-- All values that passed the check are converted, and the configuration keeps the number of axes
as a whole number. -/
theorem config_eq_ok_iff {c : Config} :
    s.config = .ok c ↔
      s.validate = .ok () ∧ s.Describes c ∧ c.axisCountText = toString c.axisCount := by
  have hpolicy (key : String) (hkey : '.' ∉ key.toList) (p : IgnorePolicy) :
      s.converted IgnorePolicy.ofName? key = .ok p ↔ s.Names key p.name :=
    converted_eq_ok_iff IgnorePolicy.ofName?_eq_some_iff hkey
  have hdialect (d : Dialect) :
      s.converted Dialect.ofName? "dialect" = .ok d ↔ s.Names "dialect" d.name :=
    converted_eq_ok_iff Dialect.ofName?_eq_some_iff (by decide)
  simp only [config, bind_eq_ok_iff, mapError_eq_ok_iff, hpolicy "ignore_m6" (by decide),
    hpolicy "ignore_m7" (by decide), hpolicy "ignore_m8" (by decide), hdialect,
    wholeAxisCount_eq_ok_iff, Config.withAxisCount_int_eq_ok_iff]
  constructor
  · rintro ⟨_, hvalid, p, hp, q, hq, r, hr, d, hd, n, hn, hlow, hhigh, rfl⟩
    obtain ⟨m, rfl⟩ : ∃ m : Nat, n = m := Int.eq_ofNat_of_zero_le (by omega)
    obtain ⟨_, haxes⟩ := (validate_eq_ok_iff.mp hvalid).axisCount
    exact ⟨hvalid, ⟨⟨haxes.noTruthValue, hn, hlow, hhigh⟩, rfl, hd, hp, hq, hr⟩, rfl⟩
  · rintro ⟨hvalid, ⟨haxes, hnoText, hd, hp, hq, hr⟩, htext⟩
    refine ⟨(), hvalid, _, hp, _, hq, _, hr, _, hd, _, haxes.whole, haxes.three_le, haxes.le_six,
      ?_⟩
    obtain ⟨dialect, count, text, isText, _, _, _⟩ := c
    obtain rfl : isText = false := hnoText
    obtain rfl : text = toString count := htext
    rfl

/-- Whatever the check admits, the conversions accept, and so does the configuration. -/
theorem exists_config_of_validate (h : s.validate = .ok ()) : ∃ c, s.config = .ok c := by
  have hvalid := validate_eq_ok_iff.mp h
  obtain ⟨d, hd⟩ := hvalid.dialect
  obtain ⟨n, hn⟩ := hvalid.axisCount
  obtain ⟨⟨p, hp⟩, ⟨q, hq⟩, ⟨r, hr⟩⟩ := hvalid.policies
  obtain ⟨count, rfl⟩ : ∃ count : Nat, n = count :=
    Int.eq_ofNat_of_zero_le (by have := hn.three_le; omega)
  exact ⟨{ dialect := d, axisCount := count, toolChange := p, mist := q, flood := r },
    config_eq_ok_iff.mpr ⟨h, ⟨hn, rfl, hd, hp, hq, hr⟩, rfl⟩⟩

/-- The configuration fails exactly as the check does. -/
theorem config_eq_error_iff {fault : SettingsFault} :
    s.config = .error fault ↔ s.validate = .error fault := by
  refine ⟨fun h => ?_, config_of_error⟩
  cases hvalidate : s.validate with
  | error other =>
    have hsame := (config_of_error hvalidate).symm.trans h
    rw [Except.error.inj hsame]
  | ok _ =>
    obtain ⟨c, hc⟩ := exists_config_of_validate hvalidate
    rw [hc] at h
    cases h

/-- **What comes of any settings.** There is a configuration exactly if the check passes, which is
if the settings are admitted, and then it is the one that they describe.  Otherwise the fault is a
foreseen one, unless the check comes to an infinite number. -/
theorem config_classified (s : Settings) :
    ((∃ c, s.config = .ok c) ↔ s.validate = .ok ()) ∧ (s.validate = .ok () ↔ s.IsValid) ∧
      (∀ c, s.config = .ok c → s.Describes c) ∧
      ((∃ fault, s.config = .error fault ∧ fault.isForeseen = false) ↔ s.MeetsInfinity) := by
  refine ⟨⟨?_, ?_⟩, validate_eq_ok_iff, fun c hc => (config_eq_ok_iff.mp hc).2.1, ?_⟩
  · rintro ⟨c, hc⟩
    exact (config_eq_ok_iff.mp hc).1
  · exact exists_config_of_validate
  · rw [← validate_eq_infinite_iff]
    constructor
    · rintro ⟨fault, hfault, hforeseen⟩
      have hvalidate := config_eq_error_iff.mp hfault
      rwa [← (isForeseen_of_validate hvalidate).mp hforeseen]
    · exact fun h => ⟨_, config_eq_error_iff.mpr h, rfl⟩

/-- The defaults with an infinite number of axes. -/
def endlessAxes : Settings :=
  (Settings.new "settings.json").setItem "axis_count" (.float Number.infinity)

theorem not_isForeseen_endlessAxes :
    ¬ ((∃ c, endlessAxes.config = .ok c) ∨
      ∃ fault, endlessAxes.config = .error fault ∧ fault.isForeseen = true) := by
  have hinfinite : (endlessAxes.value "axis_count").IsInfinite :=
    ⟨Number.infinity, false, rfl, by decide +kernel⟩
  have hdialect : endlessAxes.Names "dialect" Dialect.extended.name :=
    ⟨"extended", rfl, by decide +kernel⟩
  have hconfig : endlessAxes.config = .error (.check .infinite) :=
    config_eq_error_iff.mpr (validate_eq_infinite_iff.mpr ⟨⟨_, hdialect⟩, .inl hinfinite⟩)
  rw [hconfig]
  rintro (⟨c, ⟨⟩⟩ | ⟨fault, ⟨⟩, ⟨⟩⟩)

end Settings

end NumericControl
