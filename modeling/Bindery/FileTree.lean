import Bindery.Fault
import Bindery.Path
import Bindery.Table

/-!
# File trees

A file tree holds every file and directory by its place: the names on the way from the root. Paths
are found in it step by step: each step has to lead out of a directory, and a double dot leads to
the directory above, so that a path through a missing directory leads nowhere.

Operations give a new tree or the fault that stops them. The statements at the end say what a write
does to the tree.
-/

namespace Bindery

/-- The names on the way from the root to a file or a directory. -/
abbrev Place := List String

/-- What is stored at a place. -/
inductive Stored where
  | file (content : ByteArray)
  | directory
deriving Inhabited

instance : DecidableEq Stored
  | .file a, .file b =>
      match ByteArray.instDecidableEq a b with
      | isTrue same => isTrue (same ▸ rfl)
      | isFalse differ => isFalse fun same => differ (Stored.file.inj same)
  | .directory, .directory => isTrue rfl
  | .file _, .directory => isFalse (by simp)
  | .directory, .file _ => isFalse (by simp)

/-- All files and directories but the root, and the place at which relative paths begin. -/
structure FileTree where
  entries : Table Place Stored
  start : Place
deriving DecidableEq, Inhabited

namespace FileTree

/-! ## Places -/

/-- What is stored at a place; the root is always a directory. -/
def at? (t : FileTree) (place : Place) : Option Stored :=
  if place.isEmpty then some .directory else t.entries.get? place

/-- Stores something at a place. -/
def store (t : FileTree) (place : Place) (stored : Stored) : FileTree :=
  { t with entries := t.entries.put place stored }

/-- The names that a directory holds. -/
def namesIn (t : FileTree) (place : Place) : List String :=
  t.entries.filterMap fun (other, _) =>
    match other.getLast? with
    | some name => if other.dropLast = place then some name else none
    | none => none

/-- The longest name, in bytes. -/
def longestName : Nat := 255

/-- The longest path, in bytes. -/
def longestPath : Nat := 4095

/-- Follows names from a place. All but the last have to be directories. -/
def follow (t : FileTree) (whole : Path) : Place → List String → Except Fault Place
  | place, [] => .ok place
  | place, name :: rest =>
      match t.at? place with
      | none => .error (.file (.missing whole.text))
      | some (.file _) => .error (.file .notDirectory)
      | some .directory =>
          if name = ".." then follow t whole place.dropLast rest
          else if longestName < name.utf8ByteSize then .error (.file .tooLong)
          else follow t whole (place ++ [name]) rest

/-- The place that a path leads to; nothing need be stored there. -/
def find (t : FileTree) (p : Path) : Except Fault Place :=
  if p.holdsNul then .error (.value .nulInPath)
  else if longestPath < p.text.utf8ByteSize then .error (.file .tooLong)
  else t.follow p (if p.isAbsolute then [] else t.start) p.segments

/-! ## Questions -/

/-- What is stored where a path leads. -/
def stored (t : FileTree) (p : Path) : Except Fault Stored := do
  match t.at? (← t.find p) with
  | some stored => .ok stored
  | none => .error (.file (.missing p.text))

/-- What is stored where a path leads, if the path can be asked about. A path that leads nowhere
stores nothing; a name that is too long is a fault. -/
def storedIfAny (t : FileTree) (p : Path) : Except Fault (Option Stored) :=
  match t.stored p with
  | .ok stored => .ok (some stored)
  | .error (.file (.missing _)) | .error (.file .notDirectory) | .error (.value .nulInPath) =>
      .ok none
  | .error fault => .error fault

def isFile (t : FileTree) (p : Path) : Except Fault Bool := do
  match ← t.storedIfAny p with
  | some (.file _) => return true
  | _ => return false

def isDirectory (t : FileTree) (p : Path) : Except Fault Bool := do
  match ← t.storedIfAny p with
  | some .directory => return true
  | _ => return false

def exists? (t : FileTree) (p : Path) : Except Fault Bool := do
  return (← t.storedIfAny p).isSome

/-! ## Reading and writing -/

/-- The bytes of a file. -/
def readBytes (t : FileTree) (p : Path) : Except Fault ByteArray := do
  match ← t.stored p with
  | .file content => .ok content
  | .directory => .error (.file .isDirectory)

/-- The text that bytes hold, with line feeds as its only line ends. -/
def textOf (content : ByteArray) : Except Fault String :=
  match String.fromUTF8? content with
  | some text => .ok (Text.withFeeds text)
  | none => .error .notText

/-- The text of a file. -/
def readText (t : FileTree) (p : Path) : Except Fault String := do textOf (← t.readBytes p)

/-- The place at which a path can be written. -/
def writable (t : FileTree) (p : Path) : Except Fault Place := do
  let place ← t.find p
  match t.at? place with
  | some .directory => .error (.file .isDirectory)
  | _ => .ok place

/-- Writes a file, over what it held before. -/
def write (t : FileTree) (p : Path) (content : ByteArray) : Except Fault FileTree := do
  return t.store (← t.writable p) (.file content)

/-- Adds bytes at the end of a file; a missing file is made. -/
def append (t : FileTree) (p : Path) (content : ByteArray) : Except Fault FileTree := do
  let place ← t.writable p
  let before := match t.at? place with
    | some (.file before) => before
    | _ => ByteArray.empty
  return t.store place (.file (before ++ content))

/-- Makes one directory. -/
def makeOne (t : FileTree) (p : Path) : Except Fault FileTree := do
  let place ← t.find p
  match t.at? place with
  | some _ => .error (.file .present)
  | none => .ok (t.store place .directory)

/-- Makes one directory unless it is there. -/
def makeOneOrKeep (t : FileTree) (p : Path) : Except Fault FileTree :=
  match t.makeOne p with
  | .error (.file fault) => do
      match fault with
      | .missing path => .error (.file (.missing path))
      | fault => if ← t.isDirectory p then .ok t else .error (.file fault)
  | result => result

/-- Do two paths lead to the same file or directory? -/
def isSame (t : FileTree) (p q : Path) : Bool :=
  match t.find p, t.find q with
  | .ok a, .ok b => a = b && (t.at? a).isSome
  | _, _ => false

/-- Copies a file over another one. -/
def copy (t : FileTree) (source target : Path) : Except Fault FileTree := do
  if t.isSame source target then .error (.file .sameFile)
  else t.write target (← t.readBytes source)

/-! ## What a write does -/

theorem at?_store_self (t : FileTree) {place : Place} (h : place ≠ []) (stored : Stored) :
    (t.store place stored).at? place = some stored := by
  simp [at?, store, h]

theorem at?_store_of_ne (t : FileTree) {place other : Place} (h : other ≠ place) (stored : Stored) :
    (t.store place stored).at? other = t.at? other := by
  simp [at?, store, Table.get?_put_of_ne h]

end FileTree

end Bindery
