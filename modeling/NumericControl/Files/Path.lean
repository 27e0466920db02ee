/-!
# Paths

A path is where it starts and the names on the way.  Empty names and names of a single point
lead nowhere and are left out when a path is read; a name of two points leads up and stays, because
what is above a directory is only known to the file system.

## Main definitions

* `Path` : a path; `Path.ofText` reads one and `Path.text` writes it.
* `Path.parent`, `Path.name`, `Path.child`, `Path.beside?` : paths near a path.
* `Path.collapse` : a path without the names of two points that can be resolved in it.
* `absolutePath`, `folderOf` : a path and its directory, seen from the current directory.
* `lastName` : what follows the last slash of a text.
-/

namespace NumericControl

/-- A path. -/
structure Path where
  /-- Empty for a path that starts at the current directory, otherwise one slash or two. -/
  root : String
  names : List String
deriving DecidableEq, Repr

/-- The name that leads up. -/
def upName : String := ".."

/-- Whether a name leads nowhere. -/
def isIdleName (name : String) : Bool :=
  name == "" || name == "."

namespace Path

/-- Where a text with so many slashes in front starts: two slashes are kept, more are one. -/
def rootOfSlashes : Nat → String
  | 0 => ""
  | 2 => "//"
  | _ => "/"

/-- The path that a text writes. -/
def ofText (s : String) : Path :=
  ⟨rootOfSlashes (s.toList.takeWhile (· == '/')).length,
    (s.splitOn "/").filter fun name => !isIdleName name⟩

/-- The text of a path; the current directory is written as a point. -/
def text (p : Path) : String :=
  if p.root = "" ∧ p.names = [] then "." else p.root ++ "/".intercalate p.names

/-- The last name, which is empty if there are no names. -/
def name (p : Path) : String :=
  p.names.getLast?.getD ""

/-- The path above; a path without names is above itself. -/
def parent (p : Path) : Path :=
  { p with names := p.names.dropLast }

/-- The path of a name below. -/
def child (p : Path) (name : String) : Path :=
  { p with names := p.names ++ [name] }

/-- The path in the same directory whose name is longer by an ending, if the path has a name and
the ending does not lead elsewhere. -/
def beside? (p : Path) (ending : String) : Option Path :=
  if p.names = [] ∨ '/' ∈ ending.toList then none else some (p.parent.child (p.name ++ ending))

/-- Whether a path starts at the top. -/
def isAbsolute (p : Path) : Bool :=
  p.root != ""

/-- A path that starts where another one ends, unless it starts at the top. -/
def under (base p : Path) : Path :=
  if p.isAbsolute then p else { base with names := base.names ++ p.names }

/-- Names, the last one first, followed by one more: a name that leads up takes the last one
away. -/
def step (absolute : Bool) (names : List String) (name : String) : List String :=
  if name ≠ upName then name :: names
  else
    match names with
    | [] => if absolute then [] else [name]
    | last :: rest => if last = upName then name :: names else rest

/-- The path without the names that can be resolved in it. -/
def collapse (p : Path) : Path :=
  { p with names := (p.names.foldl (step p.isAbsolute) []).reverse }

end Path

/-- What follows the last slash of a text. -/
def lastName (s : String) : String :=
  (s.splitOn "/").getLast?.getD ""

/-- A path seen from the given current directory, without the names that can be resolved in it. -/
def absolutePath (current path : String) : Path :=
  ((Path.ofText current).under (Path.ofText path)).collapse

/-- The text of a path seen from the given current directory. -/
def absoluteText (current path : String) : String :=
  (absolutePath current path).text

/-- The directory that holds a path, seen from the given current directory. -/
def folderOf (current path : String) : String :=
  (absolutePath current path).parent.text

end NumericControl
