import NumericControl.Files.Access
import NumericControl.Front
import NumericControl.Settings.Basic

/-!
# Recent files

The settings list the files used last, the latest one first, and the directory of the latest.
The list and its limit come from a document and may hold any value.

## Main definitions

* `RecentFault` : why the list is not changed or read.
* `Settings.addRecent` : the settings with a file in front of the list.
* `Settings.recent` : the listed files that are there.
-/

namespace NumericControl

/-- Why the list of recent files is not changed or read. -/
inductive RecentFault where
  /-- What should be a list has no items. -/
  | noItems
  /-- The limit is no whole number. -/
  | limitNotWhole
  /-- An item of the list is no path. -/
  | notAPath
  /-- An item of the list is a number that no stream can have. -/
  | noStream
deriving DecidableEq, Repr

/-- The items within a limit that is given as a value; without a value there is no limit. -/
def frontBy? (limit : Json) (items : List Json) : Option (List Json) :=
  match limit with
  | .null => some items
  | .bool b => some (front (if b then 1 else 0) items)
  | .int n => some (front n items)
  | _ => none

/-- A path in front of a list that holds it nowhere else. -/
def moveToFront (path : RawText) (items : List Json) : List Json :=
  .ofRaw path :: items.filter fun item => !item.eqv (.ofRaw path)

namespace Settings

/-- The limit of the list of recent files. -/
def recentLimit (s : Settings) : Json :=
  (s.item? "max_recent_files").getD (.int 10)

/-- The list of recent files as the settings hold it. -/
def recentItems (s : Settings) : Json :=
  (s.item? "recent_files").getD (.array [])

/-- The list of recent files with a path in front. -/
def recentWith (s : Settings) (path : RawText) : Except RecentFault (List Json) :=
  match s.recentItems.items? with
  | none => .error .noItems
  | some items =>
    match frontBy? s.recentLimit (moveToFront path items) with
    | none => .error .limitNotWhole
    | some items => .ok items

/-- The settings with a path in front of the list of recent files and its directory, seen from
the current one. -/
def addRecent (s : Settings) (current : String) (path : RawText) :
    Except RecentFault Settings := do
  let items ← s.recentWith path
  return (s.setItem "recent_files" (.array items)).setItem "last_gcode_dir"
    (.ofRaw (.ofStandIns (folderOf current path.withStandIns)))

section

variable {m : Type → Type} [Monad m] [FileAccess m]

/-- The numbers that streams may have. -/
def isStreamNumber (n : Int) : Bool :=
  decide (-2147483648 ≤ n ∧ n < 2147483648)

/-- Whether an item of the list is there.  Whole numbers stand for open streams, of which there
are three. -/
def itemExists (item : Json) : m (Except RecentFault Bool) := do
  match item with
  | .text path => return .ok (← pathExists path)
  | .int n =>
    if isStreamNumber n then return .ok (decide (0 ≤ n ∧ n < 3)) else return .error .noStream
  | .bool _ => return .ok true
  | .brokenText _ => return .ok false
  | _ => return .error .notAPath

/-- The items of a list that are there. -/
def existingItems : List Json → m (Except RecentFault (List Json))
  | [] => return .ok []
  | item :: items => do
    match ← itemExists item with
    | .error fault => return .error fault
    | .ok exists? =>
      return (← existingItems items).map fun rest => if exists? then item :: rest else rest

/-- The recent files that are there. -/
def recent (s : Settings) : m (Except RecentFault (List Json)) :=
  match s.recentItems.items? with
  | none => return .error .noItems
  | some items => existingItems items

end

end Settings

end NumericControl
