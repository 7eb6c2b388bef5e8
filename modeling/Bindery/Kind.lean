import Bindery.Value

/-!
# Kinds of nodes

The kinds that the compiler tells apart. A record names the kind of a node by a text; every text
that names none of the others stands for `other`.
-/

namespace Bindery

/-- The kind of a reflection node. -/
inductive Kind where
  | module
  | objectClass
  | interface
  | function
  | enumeration
  | enumerationMember
  | typeAlias
  | method
  | property
  | callSignature
  | variable
  | typeLiteral
  | parameter
  | other
deriving DecidableEq, Repr

namespace Kind

/-- Every kind, in the order in which they are listed. -/
def all : List Kind :=
  [.module, .objectClass, .interface, .function, .enumeration, .enumerationMember, .typeAlias,
    .method, .property, .callSignature, .variable, .typeLiteral, .parameter, .other]

/-- The text that names the kind in a record. -/
def name : Kind → String
  | .module => "Module"
  | .objectClass => "Class"
  | .interface => "Interface"
  | .function => "Function"
  | .enumeration => "Enumeration"
  | .enumerationMember => "Enumeration member"
  | .typeAlias => "Type alias"
  | .method => "Method"
  | .property => "Property"
  | .callSignature => "Call signature"
  | .variable => "Variable"
  | .typeLiteral => "Type literal"
  | .parameter => "Parameter"
  | .other => "*"

/-- The kind that a text names. -/
def ofName (name : String) : Kind := (all.find? fun kind => kind.name == name).getD other

/-- The kind that a piece of data names; only a text names one. -/
def ofValue : Value → Kind
  | .string s => ofName s
  | _ => other

theorem ofName_name (kind : Kind) : ofName kind.name = kind := by
  cases kind <;> decide

theorem mem_all (kind : Kind) : kind ∈ all := by
  cases kind <;> decide

end Kind

end Bindery
