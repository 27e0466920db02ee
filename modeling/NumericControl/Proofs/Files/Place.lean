import NumericControl.Files.Tree
import NumericControl.Proofs.Outcome
import NumericControl.Proofs.Text.Splitting

/-!
# The places of paths

Where a path leads is told by its names alone: a tree can refuse to follow it, but it cannot lead it
elsewhere.  Paths that are read from texts are written so that they are read again, and so a path
and the paths beside it, whose names are longer by an ending, lead into one directory.

## Main definitions

* `FileTree.enter`, `FileTree.follow` : where a name leads, and where several names lead.
* `FileTree.placeOf` : where the text of a path leads.
* `isFileName` : the names that are paths of their own.
* `Path.IsNormal` : the paths that texts write.

## Main results

* `FileTree.locate_eq` : a tree leads a path to its place, or nowhere.
* `FileTree.locate_mono` : with more directories, paths lead where they led.
* `Path.IsNormal.placeOf_text` : the place of a path that is written.
* `Path.IsNormal.placeOf_named`, `Path.IsNormal.placeOf_beside` : the places of paths in one
  directory.
-/

namespace NumericControl

namespace FileTree

variable {t t' : FileTree} {place goal : Place} {name path : String} {names : List String}

/-- The place that a name leads to from a place. -/
def enter (place : Place) (name : String) : Place :=
  if isIdleName name then place
  else if name = upName then place.dropLast
  else place ++ [name]

/-- The place that names lead to from a place. -/
def follow (place : Place) (names : List String) : Place :=
  names.foldl enter place

/-- The place that the text of a path leads to from the current directory. -/
def placeOf (current : Place) (path : String) : Place :=
  follow (if path.startsWith "/" then [] else current) (path.splitOn "/")

theorem follow_append (place : Place) (names more : List String) :
    follow place (names ++ more) = follow (follow place names) more :=
  List.foldl_append

/-- Names that lead nowhere make no difference. -/
theorem follow_of_isIdleName (place : Place) (h : ∀ name ∈ names, isIdleName name = true) :
    follow place names = place := by
  induction names with
  | nil => rfl
  | cons name names ih =>
    obtain ⟨hname, hnames⟩ := List.forall_mem_cons.mp h
    rw [follow, List.foldl_cons, enter, if_pos hname]
    exact ih hnames

theorem entryFault?_eq_none_iff {entry : Option TreeEntry} :
    entryFault? entry = none ↔ entry = some .directory := by
  cases entry with
  | none => simp [entryFault?]
  | some entry => cases entry <;> simp [entryFault?]

/-- A walk takes one name after the other, each one in a directory. -/
theorem walk_cons_eq_ok_iff :
    t.walk place (name :: names) = .ok goal ↔
      t.entry? place = some .directory ∧
        (isIdleName name = true ∨ name = upName ∨ name.utf8ByteSize ≤ nameLimit) ∧
        t.walk (enter place name) names = .ok goal := by
  rw [walk, ← entryFault?_eq_none_iff, enter]
  cases entryFault? (t.entry? place) with
  | some fault => simp
  | none =>
    by_cases hidle : isIdleName name = true
    · simp [hidle]
    · by_cases hup : name = upName
      · simp only [if_neg hidle, if_pos hup]
        simp [hup]
      · by_cases hlong : nameLimit < name.utf8ByteSize
        · simp [hidle, hup, hlong]
        · simp [hidle, hup, hlong, Nat.not_lt.mp hlong]

theorem walk_eq (h : t.walk place names = .ok goal) : goal = follow place names := by
  induction names generalizing place with
  | nil =>
    cases h
    rfl
  | cons name names ih =>
    obtain ⟨-, -, hwalk⟩ := walk_cons_eq_ok_iff.mp h
    exact ih hwalk

/-- Only directories are walked through, so nothing else matters to where a walk leads. -/
theorem walk_mono (hdirectories : ∀ p, t.entry? p = some .directory →
      t'.entry? p = some .directory)
    (h : t.walk place names = .ok goal) : t'.walk place names = .ok goal := by
  induction names generalizing place with
  | nil => exact h
  | cons name names ih =>
    obtain ⟨hdirectory, hname, hwalk⟩ := walk_cons_eq_ok_iff.mp h
    exact walk_cons_eq_ok_iff.mpr ⟨hdirectories place hdirectory, hname, ih hwalk⟩

/-- The path is one that can be written in bytes and is neither empty nor too long. -/
theorem locate_eq_ok_iff :
    t.locate path = .ok place ↔
      (pathEncodingFault? path = none ∧
        path.contains (Char.ofNat 0) = false ∧ path ≠ "" ∧ path.utf8ByteSize ≤ pathLimit) ∧
        t.walk (if path.startsWith "/" then [] else t.current) (path.splitOn "/") = .ok place := by
  unfold locate
  cases pathEncodingFault? path with
  | some fault => simp
  | none =>
    by_cases hnull : path.contains (Char.ofNat 0) = true
    · simp only [hnull, if_true]
      simp
    · by_cases hempty : path = ""
      · simp [hempty]
      · by_cases hlong : pathLimit < path.utf8ByteSize
        · simp [hnull, hempty, hlong]
        · simp [hnull, hempty, hlong, Nat.not_lt.mp hlong]

/-- A path without a slash is a name of the current directory. -/
theorem locate_of_not_mem_slash
    (hpath : pathEncodingFault? path = none ∧
      Char.ofNat 0 ∉ path.toList ∧ path ≠ "" ∧ path.utf8ByteSize ≤ pathLimit)
    (hslash : '/' ∉ path.toList) (h : t.walk t.current [path] = .ok place) :
    t.locate path = .ok place := by
  have hparts : path.splitOn "/" = [path] := Text.splitOn_of_not_mem hslash
  have hrelative : path.startsWith "/" = false := by
    rw [Bool.eq_false_iff, Ne, String.startsWith_string_iff]
    exact fun hstarts => hslash (hstarts.subset List.mem_cons_self)
  refine locate_eq_ok_iff.mpr ⟨by simpa using hpath, ?_⟩
  rw [hrelative, hparts, if_neg Bool.false_ne_true]
  exact h

/-- A tree leads a path to the place that the path tells, if it leads it anywhere. -/
theorem locate_eq (h : t.locate path = .ok place) : place = placeOf t.current path :=
  walk_eq (locate_eq_ok_iff.mp h).2

/-- A tree that has all directories of another one, and the same current one, leads paths where the
other one does. -/
theorem locate_mono (hcurrent : t'.current = t.current)
    (hdirectories : ∀ p, t.entry? p = some .directory → t'.entry? p = some .directory)
    (h : t.locate path = .ok place) : t'.locate path = .ok place := by
  obtain ⟨hpath, hwalk⟩ := locate_eq_ok_iff.mp h
  exact locate_eq_ok_iff.mpr ⟨hpath, hcurrent ▸ walk_mono hdirectories hwalk⟩

end FileTree

/-! ### Names alone -/

/-- A name that is a path of its own: it can be written in bytes, is not too long, leads down and
holds neither a slash nor the character zero. -/
def isFileName (name : String) : Bool :=
  (pathEncodingFault? name).isNone &&
    !name.toList.contains (Char.ofNat 0) && !name.toList.contains '/' &&
    name.utf8ByteSize ≤ FileTree.nameLimit && !isIdleName name && name != upName

section

variable {t : FileTree} {name : String}

theorem Path.ofText_of_isFileName (h : isFileName name = true) : ofText name = ⟨"", [name]⟩ := by
  simp only [isFileName, Bool.and_eq_true, Bool.not_eq_true', List.contains_eq_mem,
    decide_eq_false_iff_not] at h
  obtain ⟨⟨⟨⟨-, hslash⟩, -⟩, hidle⟩, -⟩ := h
  have hparts : name.splitOn "/" = [name] := Text.splitOn_of_not_mem hslash
  have hroot : name.toList.takeWhile (· == '/') = [] := by
    cases hname : name.toList with
    | nil => rfl
    | cons c cs =>
      have hc : c ≠ '/' := by
        rintro rfl
        exact hslash (hname ▸ List.mem_cons_self)
      simp [hc]
  rw [ofText, hroot, hparts]
  simp [rootOfSlashes, hidle]

theorem Path.text_of_isFileName (h : isFileName name = true) : (ofText name).text = name := by
  rw [ofText_of_isFileName h, text, if_neg (by simp), String.intercalate_singleton,
    String.empty_append]

theorem lastName_of_isFileName (h : isFileName name = true) :
    lastName (Path.ofText name).text ≠ upName := by
  rw [Path.text_of_isFileName h]
  simp only [isFileName, Bool.and_eq_true, Bool.not_eq_true', List.contains_eq_mem,
    decide_eq_false_iff_not, bne_iff_ne] at h
  obtain ⟨⟨⟨⟨-, hslash⟩, -⟩, -⟩, hup⟩ := h
  have hparts : name.splitOn "/" = [name] := Text.splitOn_of_not_mem hslash
  rwa [lastName, hparts]

/-- A name alone leads into the current directory. -/
theorem FileTree.locate_of_isFileName (h : isFileName name = true)
    (hcurrent : t.entry? t.current = some .directory) :
    t.locate name = .ok (t.current ++ [name]) := by
  simp only [isFileName, Bool.and_eq_true, Bool.not_eq_true', List.contains_eq_mem,
    decide_eq_false_iff_not, decide_eq_true_eq, bne_iff_ne, Option.isNone_iff_eq_none] at h
  obtain ⟨⟨⟨⟨⟨hbytes, hnull⟩, hslash⟩, hshort⟩, hidle⟩, hup⟩ := h
  have hempty : name ≠ "" := by
    rintro rfl
    cases hidle
  refine locate_of_not_mem_slash ⟨hbytes, hnull, hempty, hshort.trans (by decide)⟩ hslash ?_
  refine walk_cons_eq_ok_iff.mpr ⟨hcurrent, .inr (.inr hshort), ?_⟩
  rw [enter, hidle, if_neg Bool.false_ne_true, if_neg hup]
  rfl

theorem FileTree.locate_text_of_isFileName (h : isFileName name = true)
    (hcurrent : t.entry? t.current = some .directory) :
    t.locate (Path.ofText name).text = .ok (t.current ++ [name]) := by
  rw [Path.text_of_isFileName h]
  exact locate_of_isFileName h hcurrent

/-- The directory of a name alone is the current one. -/
theorem FileTree.locate_parent_of_isFileName (h : isFileName name = true)
    (hcurrent : t.entry? t.current = some .directory) :
    t.locate (Path.ofText name).parent.text = .ok t.current := by
  have hpoint : (Path.ofText name).parent.text = "." := by
    rw [Path.ofText_of_isFileName h]
    rfl
  rw [hpoint]
  refine locate_of_not_mem_slash (by decide) (by decide) ?_
  exact walk_cons_eq_ok_iff.mpr ⟨hcurrent, .inl rfl, rfl⟩

/-- A name alone stands in one directory with what is beside it. -/
theorem Path.beside?_of_isFileName {ending : String} (h : isFileName name = true)
    (hbeside : isFileName (name ++ ending) = true) :
    (ofText name).beside? ending = some (ofText (name ++ ending)) := by
  rw [ofText_of_isFileName h, ofText_of_isFileName hbeside]
  simp only [isFileName, Bool.and_eq_true, Bool.not_eq_true', List.contains_eq_mem,
    decide_eq_false_iff_not, String.toList_append, List.mem_append, not_or] at hbeside
  obtain ⟨⟨⟨⟨-, -, hslash⟩, -⟩, -⟩, -⟩ := hbeside
  rw [beside?, if_neg (not_or.mpr ⟨List.cons_ne_nil _ _, hslash⟩)]
  rfl

end

/-! ### Written paths -/

namespace Path

/-- A path as texts write it: it starts at the current directory or at the top, and each of its
names leads somewhere and holds no slash. -/
structure IsNormal (p : Path) : Prop where
  root : p.root = "" ∨ p.root = "/" ∨ p.root = "//"
  names : ∀ name ∈ p.names, isIdleName name = false ∧ '/' ∉ name.toList

theorem isNormal_ofText (s : String) : (ofText s).IsNormal where
  root := by
    simp only [ofText, rootOfSlashes]
    split <;> simp
  names name hname := by
    obtain ⟨hpart, hidle⟩ := List.mem_filter.mp hname
    exact ⟨by simpa using hidle, Text.not_mem_of_mem_splitOn hpart⟩

variable {p q : Path} {ending : String}

/-- A slash in front of a text sets an empty part off. -/
theorem splitOn_slash_append (s : String) : ("/" ++ s).splitOn "/" = "" :: s.splitOn "/" := by
  have h := Text.splitOn_eq ("/" ++ s) '/'
  have hs := Text.splitOn_eq s '/'
  rw [String.toList_append] at h
  have hlist : ("/".toList ++ s.toList).splitOn '/' = [] :: s.toList.splitOn '/' := by
    change ('/' :: s.toList).splitOn '/' = _
    rw [List.splitOn_cons_eq_if_modifyHead, if_pos (beq_self_eq_true '/')]
  rw [hlist, List.map_cons] at h
  exact h.trans (congrArg ("" :: ·) hs.symm)

/-- The parts of joined names are the names, or one part that leads nowhere. -/
theorem splitOn_intercalate_names (h : ∀ name ∈ p.names, '/' ∉ name.toList) :
    ∃ idle, (∀ name ∈ idle, isIdleName name = true) ∧
      ("/".intercalate p.names).splitOn "/" = idle ++ p.names := by
  by_cases hnames : p.names = []
  · refine ⟨[""], by simp [isIdleName], ?_⟩
    rw [hnames]
    exact Text.splitOn_eq "" '/'
  · exact ⟨[], by simp, Text.splitOn_intercalate h hnames⟩

/-- The parts of a written path are its names, after some that lead nowhere. -/
theorem IsNormal.splitOn_text (hp : p.IsNormal) :
    ∃ idle, (∀ name ∈ idle, isIdleName name = true) ∧ p.text.splitOn "/" = idle ++ p.names := by
  obtain ⟨idle, hidle, hnames⟩ := splitOn_intercalate_names fun name h => (hp.names name h).2
  by_cases hempty : p.root = "" ∧ p.names = []
  · refine ⟨["."], by simp [isIdleName], ?_⟩
    rw [text, if_pos hempty, hempty.2]
    exact Text.splitOn_eq "." '/'
  · rw [text, if_neg hempty]
    rcases hp.root with hroot | hroot | hroot
    · exact ⟨idle, hidle, by rw [hroot, String.empty_append, hnames]⟩
    · refine ⟨"" :: idle, by simpa [isIdleName] using hidle, ?_⟩
      rw [hroot, splitOn_slash_append, hnames, List.cons_append]
    · refine ⟨"" :: "" :: idle, by simpa [isIdleName] using hidle, ?_⟩
      have hslashes :
          "//" ++ "/".intercalate p.names = "/" ++ ("/" ++ "/".intercalate p.names) := by
        rw [← String.append_assoc]
        rfl
      rw [hroot, hslashes, splitOn_slash_append, splitOn_slash_append, hnames]
      rfl

theorem IsNormal.startsWith_text (hp : p.IsNormal) : p.text.startsWith "/" = p.isAbsolute := by
  rw [Bool.eq_iff_iff, String.startsWith_string_iff, isAbsolute, bne_iff_ne]
  change ['/'] <+: p.text.toList ↔ _
  rcases hp.root with hroot | hroot | hroot
  · refine iff_of_false ?_ (by simp [hroot])
    rw [text, hroot]
    cases hnames : p.names with
    | nil => decide
    | cons name names =>
      obtain ⟨hidle, hslash⟩ := hp.names name (by simp [hnames])
      obtain ⟨c, cs, hname⟩ : ∃ c cs, name.toList = c :: cs := by
        refine List.exists_cons_of_ne_nil fun h => ?_
        rw [String.toList_eq_nil_iff.mp h] at hidle
        cases hidle
      have hc : '/' ≠ c := by
        rintro rfl
        exact hslash (hname ▸ List.mem_cons_self)
      rw [if_neg (by simp), String.empty_append, String.toList_intercalate]
      cases names <;> simp [List.intercalate, hname, hc]
  · refine iff_of_true ?_ (by simp [hroot])
    rw [text, if_neg (by simp [hroot]), hroot, String.toList_append]
    exact ⟨_, rfl⟩
  · refine iff_of_true ?_ (by simp [hroot])
    rw [text, if_neg (by simp [hroot]), hroot, String.toList_append]
    exact ⟨_, rfl⟩

/-- Where a path starts. -/
def start (current : Place) (p : Path) : Place :=
  if p.isAbsolute then [] else current

/-- A written path leads where its names lead. -/
theorem IsNormal.placeOf_text (hp : p.IsNormal) (current : Place) :
    FileTree.placeOf current p.text = FileTree.follow (p.start current) p.names := by
  obtain ⟨idle, hidle, hparts⟩ := hp.splitOn_text
  rw [FileTree.placeOf, hparts, hp.startsWith_text, FileTree.follow_append,
    FileTree.follow_of_isIdleName _ hidle, start]

/-- A path with names is its last one in the directory of the others. -/
theorem names_eq (h : p.names ≠ []) : p.names = p.parent.names ++ [p.name] := by
  rw [parent, name, List.getLast?_eq_some_getLast h, Option.getD_some,
    List.dropLast_append_getLast]

/-- The directory of a written path. -/
def directory (current : Place) (p : Path) : Place :=
  FileTree.follow (p.start current) p.parent.names

/-- The last name of a written path leads somewhere. -/
theorem IsNormal.isIdleName_name (hp : p.IsNormal) (hnames : p.names ≠ []) :
    isIdleName p.name = false :=
  (hp.names p.name (by simp [names_eq hnames])).1

/-- The last name of a written path is followed from its directory. -/
theorem IsNormal.placeOf_eq_enter (hp : p.IsNormal) (hnames : p.names ≠ []) (current : Place) :
    FileTree.placeOf current p.text = FileTree.enter (p.directory current) p.name := by
  rw [hp.placeOf_text, names_eq hnames, FileTree.follow_append, directory]
  rfl

/-- A written path whose last name leads down leads one place down from its directory. -/
theorem IsNormal.placeOf_named (hp : p.IsNormal) (hnames : p.names ≠ []) (hup : p.name ≠ upName)
    (current : Place) : FileTree.placeOf current p.text = p.directory current ++ [p.name] := by
  rw [hp.placeOf_eq_enter hnames, FileTree.enter, hp.isIdleName_name hnames,
    if_neg Bool.false_ne_true, if_neg hup]

/-- A written path leads nowhere below its directory but to its own name. -/
theorem IsNormal.placeOf_ne (hp : p.IsNormal) (hnames : p.names ≠ []) {name : String}
    (hname : name ≠ p.name) (current rest : Place) :
    FileTree.placeOf current p.text ≠ p.directory current ++ name :: rest := by
  rw [hp.placeOf_eq_enter hnames, FileTree.enter, hp.isIdleName_name hnames,
    if_neg Bool.false_ne_true]
  split
  · intro h
    have hlength := congrArg List.length h
    simp only [List.length_dropLast, List.length_append, List.length_cons] at hlength
    omega
  · intro h
    exact hname (List.cons_eq_cons.mp (List.append_cancel_left h)).1.symm

theorem beside?_eq_some_iff :
    p.beside? ending = some q ↔
      p.names ≠ [] ∧ '/' ∉ ending.toList ∧ q = p.parent.child (p.name ++ ending) := by
  rw [beside?, ← and_assoc, ← not_or]
  split <;> simp_all [eq_comm]

/-- A name that leads somewhere leads down when it is made longer. -/
theorem leadsDown_append {name : String} (hname : isIdleName name = false) (h : ending ≠ "") :
    isIdleName (name ++ ending) = false ∧ name ++ ending ≠ upName := by
  rw [isIdleName, Bool.or_eq_false_iff, beq_eq_false_iff_ne, beq_eq_false_iff_ne] at hname ⊢
  obtain ⟨hempty, hpoint⟩ := hname
  have hchars {s t : String} : s = t ↔ s.toList = t.toList := String.toList_inj.symm
  simp only [Ne, hchars, String.toList_append] at hempty hpoint h ⊢
  cases hending : ending.toList with
  | nil => exact absurd hending h
  | cons d ds =>
    rcases hname : name.toList with _ | ⟨c, _ | ⟨c', cs⟩⟩
    · exact absurd hname hempty
    · -- a single character is no point
      simp_all [upName]
    · simp [upName]

/-- What stands beside a written path is written as well. -/
theorem IsNormal.beside (hp : p.IsNormal) (hending : ending ≠ "")
    (hq : p.beside? ending = some q) : q.IsNormal := by
  obtain ⟨hnames, hslash, rfl⟩ := beside?_eq_some_iff.mp hq
  refine ⟨hp.root, fun name hname => ?_⟩
  rcases List.mem_append.mp hname with hname | hname
  · exact hp.names name (List.dropLast_subset _ hname)
  · obtain rfl := List.mem_singleton.mp hname
    have hlast := (hp.names p.name (by simp [names_eq hnames])).2
    exact ⟨(leadsDown_append (hp.isIdleName_name hnames) hending).1, by simp [hlast, hslash]⟩

/-- What stands beside a written path is in the directory of the path. -/
theorem IsNormal.placeOf_beside (hp : p.IsNormal) (hending : ending ≠ "")
    (hq : p.beside? ending = some q) (current : Place) :
    FileTree.placeOf current q.text = p.directory current ++ [p.name ++ ending] := by
  have hnormal := hp.beside hending hq
  obtain ⟨hnames, -, rfl⟩ := beside?_eq_some_iff.mp hq
  have hname : (p.parent.child (p.name ++ ending)).name = p.name ++ ending := by
    simp [child, name]
  have hdirectory :
      (p.parent.child (p.name ++ ending)).directory current = p.directory current := by
    simp [child, directory, parent, start, isAbsolute]
  have hdown := (leadsDown_append (hp.isIdleName_name hnames) hending).2
  rw [← hname] at hdown
  rw [hnormal.placeOf_named (by simp [child]) hdown, hname, hdirectory]

end Path

end NumericControl
