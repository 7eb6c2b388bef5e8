import Bindery.Fault
import Bindery.Kind

/-!
# Routes

Where the documents of an entity go inside the book. Modules and classes have a file of their own;
functions share one file, and all other entities that have a place share another.
-/

namespace Bindery.Route

def functionsFile : String := "api/Functions.md"

def interfacesFile : String := "api/Interfaces.md"

def enumerationsFile : String := "Enumerations.md"

def summaryFile : String := "SUMMARY.md"

/-- The file of an entity that has one for itself. -/
def ownFile (name : String) : String := "api/" ++ name ++ ".md"

/-- The place of an entity, if its kind has one. -/
def place? (kind : Kind) (name : String) : Option String :=
  match kind with
  | .module | .objectClass => some (ownFile name)
  | .function => some functionsFile
  | .interface | .typeAlias | .enumeration => some interfacesFile
  | _ => none

/-- The place of an entity. -/
def place (kind : Kind) (name : String) : Except Fault String :=
  match place? kind name with
  | some path => .ok path
  | none => .error (.unrouted kind.name name)

/-- Does a kind have a place in the book? -/
def isRouted (kind : Kind) : Bool := (place? kind "").isSome

theorem place_of_isRouted {kind : Kind} (h : isRouted kind) (name : String) :
    ∃ path, place kind name = .ok path := by
  cases kind <;> simp_all [isRouted, place?, place]

end Bindery.Route
