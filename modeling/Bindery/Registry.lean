import Bindery.Table
import Bindery.Target

/-!
# The reference registry

The registry binds names to link targets. Registering a name again replaces its entry and keeps its
place; an empty name or target is ignored.

The statements at the end say what a name resolves to after a registration.
-/

namespace Bindery

/-- What a reference leads to, with the title of the link where it has one. -/
structure Entry where
  target : String
  title : Option String
deriving DecidableEq, Repr, Inhabited

/-- Names bound to entries, in the order of their first registration. -/
structure Registry where
  entries : Table String Entry
deriving DecidableEq, Repr, Inhabited

namespace Registry

/-! ## Registration -/

def empty : Registry := ⟨[]⟩

/-- Binds a name whatever it leads to. -/
def bind (name : String) (entry : Entry) (r : Registry) : Registry := ⟨r.entries.put name entry⟩

/-- Registers a name that leads somewhere. -/
def register (name target : String) (title : Option String) (r : Registry) : Registry :=
  if name.isEmpty || target.isEmpty then r else r.bind name ⟨target, title⟩

/-- Registers names with their targets, one after another. -/
def registerAll (pairs : List (String × String)) (r : Registry) : Registry :=
  pairs.foldl (fun r (name, target) => r.register name target none) r

/-! ## Look-up -/

/-- The entry of a name. -/
def resolve (name : String) (r : Registry) : Option Entry := r.entries.get? name

def contains (name : String) (r : Registry) : Bool := (r.resolve name).isSome

/-- The names in order. -/
def names (r : Registry) : List String := r.entries.keys

/-- The entry of a name if it leads somewhere. -/
def lead (name : String) (r : Registry) : Option Entry :=
  (r.resolve name).filter fun entry => !entry.target.isEmpty

/-! ## The references of a document -/

/-- The first occurrence of each member. -/
def firsts : List String → List String
  | [] => []
  | name :: rest => name :: (firsts rest).filter (· ≠ name)

/-- The names that lead somewhere, each once, with their entries as seen from a directory. -/
def links (book directory : Path) (names : List String) (r : Registry) : List (String × Entry) :=
  (firsts names).filterMap fun name =>
    (r.lead name).map fun entry =>
      (name, { entry with target := Target.seenFrom book directory entry.target })

/-! ## What every book knows -/

/-- Where the types and the objects of the web are documented. -/
def web : String := "https://developer.mozilla.org/en-US/docs/Web"

/-- Where the language of the documented libraries is documented. -/
def script : String := web ++ "/JavaScript"

/-- The names that every book knows. -/
def builtins : List (String × String) :=
  [("void", script ++ "/Reference/Operators/void"),
    ("null", script ++ "/Reference/Global_Objects/null"),
    ("Array", script ++ "/Reference/Global_Objects/Array"),
    ("boolean", script ++ "/Data_structures#Boolean_type"),
    ("Buffer", "https://nodejs.org/api/buffer.html#buffer_class_buffer"),
    ("function", script ++ "/Reference/Global_Objects/Function"),
    ("number", script ++ "/Data_structures#Number_type"),
    ("Object", script ++ "/Reference/Global_Objects/Object"),
    ("Promise", script ++ "/Reference/Global_Objects/Promise"),
    ("string", script ++ "/Data_structures#String_type"),
    ("stream.Readable", "https://nodejs.org/api/stream.html#stream_class_stream_readable"),
    ("Error", "https://nodejs.org/api/errors.html#errors_class_error"),
    ("ChildProcess", "https://nodejs.org/api/child_process.html"),
    ("iterator", script ++ "/Reference/Iteration_protocols"),
    ("Element", web ++ "/API/element"),
    ("Map", script ++ "/Reference/Global_Objects/Map"),
    ("selector", web ++ "/CSS/CSS_Selectors"),
    ("UIEvent.detail", web ++ "/API/UIEvent/detail"),
    ("Serializable", script ++ "/Reference/Global_Objects/JSON/stringify#Description"),
    ("xpath", web ++ "/XPath"),
    ("UnixTime", "https://en.wikipedia.org/wiki/Unix_time"),
    ("Key", "Enumerations.md#key"),
    ("MouseButtons", "Enumerations.md#mousebuttons"),
    ("Device", "Enumerations.md#device")]

/-- The registry of a new book: what every book knows, then what the settings add. -/
def withBuiltins (extra : List (String × String)) : Registry :=
  (empty.registerAll builtins).registerAll extra

/-! ## Look-up after a registration -/

theorem resolve_bind_self (name : String) (entry : Entry) (r : Registry) :
    (r.bind name entry).resolve name = some entry := by
  simp [bind, resolve]

theorem resolve_bind_of_ne {name other : String} (h : other ≠ name) (entry : Entry) (r : Registry) :
    (r.bind name entry).resolve other = r.resolve other := by
  simp [bind, resolve, Table.get?_put_of_ne h]

theorem resolve_register (name target : String) (title : Option String) (r : Registry)
    (other : String) :
    (r.register name target title).resolve other =
      if name ≠ "" ∧ target ≠ "" ∧ other = name then some ⟨target, title⟩ else r.resolve other := by
  by_cases hn : name = "" <;> by_cases ht : target = "" <;> by_cases ho : other = name <;>
    simp_all [register, resolve_bind_self, resolve_bind_of_ne]

end Registry

end Bindery
