import Bindery.FileTree
import Bindery.Text.Blank
import Bindery.Value.Literal
import Bindery.Yaml.Outline

/-!
# Settings

The settings of a project stand in a file of its root directory; without the file, or where a key is
missing, they have the usual values. A key counts if its value is a text or a number that is not
empty; each key sets one field, and keys that are not known are ignored. A number with more digits
than can be shown stops the reading.
-/

namespace Bindery

/-- What a project builds from what, and where. -/
structure Settings where
  root : Path
  input : Path
  directory : Path
  readme : Path
  moduleName : String
  examples : String
  templates : Option Path
  references : Table String String
deriving DecidableEq, Repr

namespace Settings

/-- The name of the file with the settings. -/
def fileName : String := ".apibook.yml"

/-- The name of the module that is documented unless another one is named. -/
def usualModule : String := "\"index.d\""

/-- The pattern of the example pages unless another one is given. -/
def usualExamples : String := "examples/**/*.md"

/-- The settings of a project without a file. -/
def usual (root : Path) : Settings where
  root := root
  input := root / "docs.json"
  directory := root / "docs"
  readme := root / "README.md"
  moduleName := usualModule
  examples := usualExamples
  templates := none
  references := []

/-! ## Values -/

/-- Is the value of the kinds that settings have? -/
def isTextOrNumber : Value → Bool
  | .string _ | .int _ | .float _ => true
  | _ => false

/-- The text of a setting: a text or a number that is not empty. -/
def word (v : Value) : Except Fault (Option String) :=
  if !isTextOrNumber v then .ok none
  else if !v.isShowable then .error (.value .longNumber)
  else .ok (if v.display.isEmpty then none else some v.display)

/-- The text under a key. -/
def under (key : String) (entries : List (Value × Value)) : Except Fault (Option String) :=
  word (Value.get key entries)

/-- The name and the target of an entry. -/
def pair? (entry : Value × Value) : Except Fault (Option (String × String)) := do
  let name ← word entry.1
  let target ← word entry.2
  return name.bind fun name => target.map fun target => (name, target)

/-- The names and targets of a mapping; of two names with one text the last counts. -/
def pairs (entries : List (Value × Value)) : Except Fault (Table String String) := do
  let found ← entries.mapM pair?
  return Table.ofList (found.filterMap id)

/-- The references that the settings add. -/
def referencesOf (entries : List (Value × Value)) : Except Fault (Table String String) :=
  match Value.get "references" entries with
  | .null => .ok []
  | .map found => pairs found
  | _ => .error (.settings .referencesNotMapping)

/-- The settings that the entries of a file make. -/
def ofEntries (root : Path) (entries : List (Value × Value)) : Except Fault Settings := do
  let input ← under "input" entries
  let directory ← under "book_dir" entries
  let readme ← under "readme" entries
  let moduleName ← under "module" entries
  let examples ← under "examples_glob" entries
  let templates ← under "templates_dir" entries
  let references ← referencesOf entries
  let start := usual root
  let place := fun (found : Option String) (usual : Path) => (found.map (root / ·)).getD usual
  return { start with
    input := place input start.input
    directory := place directory start.directory
    readme := place readme start.readme
    moduleName := moduleName.getD start.moduleName
    examples := examples.getD start.examples
    templates := templates.map (root / ·)
    references := references }

/-! ## Files -/

/-- The value that a file with settings holds; one without content holds no settings. -/
def valueOf (file text : String) : Except Fault Value :=
  if Text.isBlankText text then .ok (.map [])
  else match Yaml.load text with
    | .ok .null => .ok (.map [])
    | .ok v => .ok v
    | .error .malformed => .error (.settings (.unreadable file))
    | .error (.fault cause) => .error cause

/-- The settings that the text of a file makes. -/
def ofText (root : Path) (file text : String) : Except Fault Settings := do
  match ← valueOf file text with
  | .map entries => ofEntries root entries
  | _ => .error (.settings (.notMapping fileName))

/-- The file that a path names: the path itself, or in a directory the file with the settings. A
tilde at the start of a path names no home directory, but a file like any other. -/
def file (t : FileTree) (p : Path) : Except Fault Path := do
  let named := if ← t.isDirectory p then p / fileName else p
  if named.holdsNul then .error (.value .nulInPath)
  else return Path.resolve ⟨.root, t.start⟩ named

/-- The settings that a path leads to. -/
def load (t : FileTree) (p : Path) : Except Fault Settings := do
  let file ← file t p
  let root := file.parent
  if ← t.exists? file then ofText root file.name (← t.readText file) else return usual root

end Settings

end Bindery
