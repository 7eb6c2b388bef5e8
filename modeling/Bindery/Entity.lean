import Bindery.Document.Writer
import Bindery.Text.CamelCase

/-!
# Entities

The drafts of the documents: a class-like entity with its methods, properties and members, a
function with its signatures, an alias with its heading. Which draft an entity gets depends on its
kind alone; kinds without a draft have no document.

The first defect that a draft meets stops it; what was written before stays written.
-/

namespace Bindery.Entity

/-! ## Parameters -/

/-- A parameter of a signature with its description. -/
structure Parameter where
  node : Node
  description : String

/-- Looks up the description of a parameter. -/
def describe (node : Node) : Draft Parameter := do
  return ⟨node, ← Draft.ofExcept node.commentText⟩

/-- The names with commas between them. -/
def nameList (nodes : List Node) : String := ", ".intercalate (nodes.map Node.name)

/-- The parameters in a heading: those that are required, then those that are optional in a bracket
of their own. -/
def parameterList (parameters : List Node) : String :=
  let required := nameList (parameters.filter fun node => !node.isOptional)
  let optional := nameList (parameters.filter Node.isOptional)
  required ++ (if optional.isEmpty then "" else "[, " ++ optional ++ "]")

/-- Writes the line of a parameter that has a name and a type. -/
def parameterLine (p : Parameter) : Draft Unit :=
  match p.node.type with
  | some type =>
      if p.node.name.isEmpty then return ()
      else Writer.parameter p.node.name type.text p.description p.node.isOptional
  | none => return ()

/-! ## Signatures -/

/-- A name between the marks of code. -/
def code (name : String) : String := "\x60" ++ name ++ "\x60"

/-- The name of a signature as a member of its owner. -/
def qualified (owner name : String) : String :=
  if owner.isEmpty then name else Text.camelCase owner ++ "." ++ name

/-- Writes the line of the result of a signature, if its type is known. -/
def result : Option TypeExpr → Draft Unit
  | some type => Writer.parameter "returns:" type.text "" false
  | none => return ()

/-- Writes a call signature; `owner` is empty for a function. -/
def signature (owner : String) (node : Node) : Draft Unit := do
  let parameters ← Draft.each describe node.parameters
  Writer.heading
    (code (qualified owner node.name ++ "(" ++ parameterList node.parameters ++ ")")) 4
  Draft.forEach parameterLine parameters
  result node.type
  Writer.line ""
  Writer.comment node.comment

/-! ## Members of a class -/

/-- Writes the signatures of a method. -/
def method (owner : String) (node : Node) : Draft Unit := do
  Draft.forEach (signature owner) (← Draft.ofExcept node.requireSignatures)

/-- Writes the line of a property, which has to have a type. -/
def property (owner : String) (node : Node) : Draft Unit :=
  match node.type with
  | none => Draft.fail (.record (.untypedProperty owner node.name))
  | some type => do
      let description ← Draft.ofExcept node.commentText
      Writer.parameter node.name type.text description node.isOptional

/-- The cells of an enumeration member. -/
def memberRow (node : Node) : Draft (List String) := do
  return [code node.name, node.defaultValue.getD "", ← Draft.ofExcept node.commentText]

/-- The header of the table of enumeration members. -/
def memberHeader : List String := ["Member", "Default Value", "Comment"]

/-- Writes the table of enumeration members, if there are any. -/
def memberTable : List Node → Draft Unit
  | [] => return ()
  | members => do Writer.table (memberHeader :: (← Draft.each memberRow members))

/-! ## Entities -/

/-- Writes a class-like entity. Its comment closes the section as well as opening it. -/
def classLike (node : Node) : Draft Unit := do
  Writer.openSection (code node.name)
  Writer.comment node.comment
  Draft.forEach (method node.name) (node.childrenOf .method)
  Draft.forEach (property node.name) (node.childrenOf .property)
  memberTable (node.childrenOf .enumerationMember)
  Writer.line ""
  Writer.comment node.comment

/-- Writes a function. -/
def function (node : Node) : Draft Unit := do
  Draft.forEach (signature "") (← Draft.ofExcept node.requireSignatures)

/-- Writes the heading of a type alias. -/
def typeAlias (node : Node) : Draft Unit := Writer.heading (code node.name) 1

/-- The draft of an entity of a kind. -/
def draft? : Kind → Option (Node → Draft Unit)
  | .module | .enumeration | .interface | .objectClass => some classLike
  | .function => some function
  | .typeAlias => some typeAlias
  | _ => none

/-- Does an entity of the kind have a document? -/
def isDocumented (kind : Kind) : Bool := (draft? kind).isSome

/-- The names under which the document of an entity is found, in the order of their registration. -/
def registeredNames (node : Node) : List String :=
  (if node.kind = .function then node.signatures.map Node.name else []) ++ [node.name]

end Bindery.Entity
