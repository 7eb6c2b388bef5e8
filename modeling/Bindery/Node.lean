import Bindery.Draft
import Bindery.Kind

/-!
# Reflection nodes and type expressions

A node describes one entity of a library; a type expression describes the type of a value. The two
are mutually recursive through inline type literals. Names and texts that a record may give as data
of any kind are kept as they were given.
-/

namespace Bindery

/-- The two parts of a comment. -/
structure Comment where
  short : Value
  long : Value
deriving Inhabited

mutual

/-- The type of a value. -/
inductive TypeExpr where
  | intrinsic (name : Value)
  | reference (name : Value) (arguments : List TypeExpr)
  | literal (value : Value)
  | array (element : TypeExpr)
  | union (members : List TypeExpr)
  /-- A type that is declared where it is used. -/
  | inline (declaration : Node)
  /-- A type of a form that has no rendering. -/
  | unknown (tag : String)

/-- One entity of a library. Which parts carry data depends on the kind. -/
inductive Node where
  | mk (name : String) (kindName : Value) (comment : Option Comment)
      (children signatures parameters : List Node) (type : Option TypeExpr) (optional : Bool)
      (defaultValue : Option String)

end

namespace Node

def name : Node → String
  | mk name .. => name

/-- The kind as the record names it. -/
def kindName : Node → Value
  | mk _ kindName .. => kindName

def comment : Node → Option Comment
  | mk _ _ comment .. => comment

def children : Node → List Node
  | mk _ _ _ children .. => children

def signatures : Node → List Node
  | mk _ _ _ _ signatures .. => signatures

def parameters : Node → List Node
  | mk _ _ _ _ _ parameters .. => parameters

def type : Node → Option TypeExpr
  | mk _ _ _ _ _ _ type .. => type

def isOptional : Node → Bool
  | mk _ _ _ _ _ _ _ optional _ => optional

def defaultValue : Node → Option String
  | mk _ _ _ _ _ _ _ _ defaultValue => defaultValue

def kind (n : Node) : Kind := Kind.ofValue n.kindName

/-- The children of a kind, in order. -/
def childrenOf (n : Node) (kind : Kind) : List Node :=
  n.children.filter fun child => child.kind = kind

/-- The call signatures, of which there has to be at least one. -/
def requireSignatures (n : Node) : Except Fault (List Node) :=
  if n.signatures.isEmpty then .error (.record (.noSignatures n.kindName n.name))
  else .ok n.signatures

/-- The first child of a name. -/
def findModule (root : Node) (name : String) : Except Fault Node :=
  match root.children.find? fun child => child.name == name with
  | some child => .ok child
  | none => .error (.record (.missingModule name))

/-- The parts of a comment that are not empty, with an empty line between them. -/
def commentText (n : Node) : Except Fault String :=
  match n.comment with
  | none => .ok ""
  | some comment => do
      let filled := [comment.short, comment.long].filter Value.isTruthy
      let parts ← filled.mapM (Value.textOr .wrongType)
      return "\n\n".intercalate parts

end Node

end Bindery
