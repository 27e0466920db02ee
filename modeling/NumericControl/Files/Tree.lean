import NumericControl.Files.Access

/-!
# A file tree held as a value

Files and directories by the names on the way from the top, with a current directory.  The tree
answers every operation the way a file system of the machine does, so a program that uses files
can be run and studied without one.

## Main definitions

* `FileTree` : the tree; `FileTree.walk` follows a path in it.
* The operations of a file system on trees.
-/

namespace NumericControl

/-- What stands at a place of a tree. -/
inductive TreeEntry where
  | file (content : ByteArray)
  | directory

/-- The names on the way from the top to a place. -/
abbrev Place := List String

/-- A file tree; the top is a directory of every tree. -/
structure FileTree where
  current : Place := []
  entries : List (Place × TreeEntry) := []

namespace FileTree

/-- What stands at a place. -/
def entry? (t : FileTree) (place : Place) : Option TreeEntry :=
  if place = [] then some .directory else t.entries.lookup place

/-- The tree with nothing at a place. -/
def erase (t : FileTree) (place : Place) : FileTree :=
  { t with entries := t.entries.filter fun e => e.1 != place }

/-- The tree with an entry at a place. -/
def put (t : FileTree) (place : Place) (entry : TreeEntry) : FileTree :=
  { t with entries := (t.erase place).entries ++ [(place, entry)] }

/-- The tree with a directory at a place and at all places above it, unless something is there. -/
def addDirectory (t : FileTree) (place : Place) : FileTree :=
  (List.range place.length).foldl (fun t n =>
    let above := place.take (n + 1)
    if (t.entry? above).isSome then t else t.put above .directory) t

/-- The tree with a file at a place, and with all directories above it. -/
def addFile (t : FileTree) (place : Place) (content : ByteArray) : FileTree :=
  (t.addDirectory place.dropLast).put place (.file content)

/-- The names in the directory at a place with what they name, in the order of the names. -/
def namesAt (t : FileTree) (place : Place) : List (String × TreeEntry) :=
  (t.entries.filterMap fun (other, entry) =>
    match other.getLast? with
    | some name => if other = place ++ [name] then some (name, entry) else none
    | none => none).mergeSort fun a b => decide (a.1 ≤ b.1)

/-- The files of a tree that another tree does not have with the same content. -/
def filesBeyond (t before : FileTree) : List (Place × ByteArray) :=
  t.entries.filterMap fun (place, entry) =>
    match entry, before.entry? place with
    | .file content, some (.file old) =>
      if old.data = content.data then none else some (place, content)
    | .file content, _ => some (place, content)
    | .directory, _ => none

/-- Why an entry cannot be entered, if it cannot. -/
def entryFault? : Option TreeEntry → Option FaultKind
  | some .directory => none
  | some (.file _) => some .notDirectory
  | none => some .missing

/-- How many bytes a name may have. -/
def nameLimit : Nat := 255

/-- How many bytes a path may have. -/
def pathLimit : Nat := 4095

/-- The place reached by names from a place; every place on the way has to be a directory. -/
def walk (t : FileTree) (place : Place) : List String → Except FaultKind Place
  | [] => .ok place
  | name :: names =>
    match entryFault? (t.entry? place) with
    | some fault => .error fault
    | none =>
      if isIdleName name then walk t place names
      else if name = upName then walk t place.dropLast names
      else if nameLimit < name.utf8ByteSize then .error .nameTooLong
      else walk t (place ++ [name]) names

/-- The place of a path, where something may stand or nothing. -/
def locate (t : FileTree) (path : String) : Except FaultKind Place :=
  match pathEncodingFault? path with
  | some fault => .error (.notEncodable fault)
  | none =>
    if path.contains (Char.ofNat 0) then .error .nullCharacter
    else if path = "" then .error .missing
    else if pathLimit < path.utf8ByteSize then .error .nameTooLong
    else t.walk (if path.startsWith "/" then [] else t.current) (path.splitOn "/")

/-- What stands at a place, if something does. -/
def kindAt? (t : FileTree) (place : Place) : Option EntryKind :=
  match t.entry? place with
  | some (.file _) => some .file
  | some .directory => some .directory
  | none => none

/-- What a path names, if it names something; of a name that is too long that cannot be told. -/
def kind? (t : FileTree) (path : String) : Except FaultKind (Option EntryKind) :=
  match t.locate path with
  | .ok place => .ok (t.kindAt? place)
  | .error .nameTooLong => .error .nameTooLong
  | .error _ => .ok none

/-- The content of the file at a place. -/
def contentAt (t : FileTree) (place : Place) : Except FaultKind ByteArray :=
  match t.entry? place with
  | some (.file content) => .ok content
  | some .directory => .error .isDirectory
  | none => .error .missing

/-- The content of a file. -/
def read (t : FileTree) (path : String) : Except FaultKind ByteArray := do
  t.contentAt (← t.locate path)

/-- The tree with a content for a file. -/
def write (t : FileTree) (path : String) (content : ByteArray) : Except FaultKind FileTree := do
  let place ← t.locate path
  match t.entry? place with
  | some .directory => throw .isDirectory
  | _ => return t.put place (.file content)

/-- The tree with a file, which is empty if there was none. -/
def ensureFile (t : FileTree) (path : String) : Except FaultKind FileTree := do
  let place ← t.locate path
  match t.entry? place with
  | some .directory => throw .isDirectory
  | some (.file _) => return t
  | none => return t.put place (.file .empty)

/-- The tree with one more directory. -/
def makeDirectory (t : FileTree) (path : String) : Except FaultKind FileTree := do
  let place ← t.locate path
  match t.entry? place with
  | some _ => throw .taken
  | none => return t.put place .directory

/-- The tree with a copy of a file. -/
def copy (t : FileTree) (source target : String) : Except FaultKind FileTree := do
  let content ← t.read source
  let place ← t.locate target
  match t.entry? place with
  | some .directory =>
    let inner := place ++ [lastName source]
    match t.entry? inner with
    | some .directory => throw .isDirectory
    | _ => return t.put inner (.file content)
  | _ => return t.put place (.file content)

/-- The tree with a file moved to the place of another one. -/
def replace (t : FileTree) (source target : String) : Except FaultKind FileTree := do
  let place ← t.locate source
  let content ← t.contentAt place
  if lastName target = upName then throw .busy
  let goal ← t.locate target
  match t.entry? goal with
  | some .directory => throw .isDirectory
  | _ => return (t.erase place).put goal (.file content)

/-- The tree without a file. -/
def remove (t : FileTree) (path : String) : Except FaultKind FileTree := do
  let place ← t.locate path
  let _ ← t.contentAt place
  return t.erase place

end FileTree

/-- Change the tree, unless that fails. -/
def updateTree (path : String) (target? : Option String)
    (change : FileTree → Except FaultKind FileTree) : StateM FileTree (Except FileFault Unit) :=
  fun t =>
    match change t with
    | .ok next => (.ok (), next)
    | .error kind => (.error ⟨kind, path, target?⟩, t)

instance : FileAccess (StateM FileTree) where
  kind? path := fun t => ((t.kind? path).mapError fun kind => ⟨kind, path, none⟩, t)
  read path := fun t => ((t.read path).mapError fun kind => ⟨kind, path, none⟩, t)
  write path content := updateTree path none (·.write path content)
  ensureFile path := updateTree path none (·.ensureFile path)
  makeDirectory path := updateTree path none (·.makeDirectory path)
  copy source target := updateTree source (some target) (·.copy source target)
  replace source target := updateTree source (some target) (·.replace source target)
  remove path := updateTree path none (·.remove path)
  currentDirectory := fun t => ("/" ++ "/".intercalate t.current, t)

end NumericControl
