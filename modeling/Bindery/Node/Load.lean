import Bindery.FileTree
import Bindery.Node.Record

/-!
# Loading reflection records

A reflection record is a JSON text in a file.
-/

namespace Bindery.Node

/-- The value that a JSON text writes down. A number that is too long to be read is a fault of the
value and not of the text. -/
def readJson (text : String) : Except Fault Value :=
  match Json.read text with
  | .ok v => .ok v
  | .error e => .error (if e.cause = .longNumber then .value .longNumber else .json e)

/-- The node that a JSON text writes down. -/
def ofText (text : String) : Except Fault Node := do ofValue (← readJson text)

/-- The node that the bytes of a file write down. -/
def ofBytes (content : ByteArray) : Except Fault Node := do ofText (← FileTree.textOf content)

/-- The node that a file holds. -/
def load (files : FileTree) (p : Path) : Except Fault Node := do ofText (← files.readText p)

end Bindery.Node
