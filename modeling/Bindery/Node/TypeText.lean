import Bindery.Json.Writer
import Bindery.Node

/-!
# The text of a type

A type is written on one line. A named type stands in brackets, so that its name becomes a reference
of the document; an inline type literal is written as a JSON object from its members to their types.

Names and literals are given as data of any kind. They stand for themselves where they are the whole
type, are displayed inside brackets, and must be texts where alternatives are joined.
-/

namespace Bindery

namespace TypeText

/-- The part of the build that reports types without a text. -/
def component : String := "formatter"

/-- Alternatives with bars between them. -/
def alternatives (texts : List Value) : Except Fault String :=
  return "|".intercalate (← texts.mapM (Value.textOr .wrongType))

/-- The text of a named type; a promise shows what it is a promise of. -/
def named (name : Value) (arguments : Draft (List Value)) : Draft Value :=
  match name with
  | .string "Promise" => do
      let inside ← Draft.ofExcept (alternatives (← arguments))
      return .string ("[Promise]<" ++ inside ++ ">")
  | name => return .string ("[" ++ name.display ++ "]")

/-- The members of a type literal; a repeated name keeps its first place and its last type. -/
def object (members : List (String × Value)) : Value :=
  .string (Json.write .compact (.map ((Table.ofList members).map fun (name, text) =>
    (.string name, text))))

/-- The empty text, after an error. -/
def refuse (message : String) : Draft Value := do
  Draft.log .error component message
  return .string ""

/-- The empty text of data that is no type. -/
def ofData (v : Value) : Draft Value := refuse ("Cannot format " ++ v.literal)

end TypeText

open TypeText

mutual

/-- The text of a type. -/
def TypeExpr.text : TypeExpr → Draft Value
  | .intrinsic name => return name
  | .literal value => return value
  | .array element => do
      let inner ← element.text
      return .string (inner.display ++ "[]")
  | .union members => do
      let texts ← TypeExpr.texts members
      return .string (← Draft.ofExcept (alternatives texts))
  | .reference name arguments => named name (TypeExpr.texts arguments)
  | .inline declaration => declaration.declarationText
  | .unknown tag => refuse ("Found unknown type: " ++ Text.quoted tag)

/-- The texts of types in order. -/
def TypeExpr.texts : List TypeExpr → Draft (List Value)
  | [] => return []
  | type :: rest => do
      let text ← type.text
      let more ← TypeExpr.texts rest
      return text :: more

/-- The text of a type that may be missing. -/
def TypeExpr.textOrEmpty : Option TypeExpr → Draft Value
  | none => return .string ""
  | some type => type.text

/-- The text of a declaration that stands in the place of a type. It has to be a type literal. -/
def Node.declarationText : Node → Draft Value
  | .mk name kindName _ children signatures _ _ _ _ =>
      match Kind.ofValue kindName with
      | .typeLiteral =>
          match children, signatures with
          | child :: more, _ => return TypeText.object (← Node.memberTexts (child :: more))
          | [], .mk _ _ _ _ _ _ type _ _ :: _ => TypeExpr.textOrEmpty type
          | [], [] =>
              refuse ("Type literal " ++ Text.quoted name ++ " has neither children nor signatures")
      | _ => refuse ("Inline declaration " ++ Text.quoted name ++ " is a " ++ kindName.literal ++
          ", not a type literal")

/-- The names of nodes with the texts of their types. -/
def Node.memberTexts : List Node → Draft (List (String × Value))
  | [] => return []
  | .mk name _ _ _ _ _ type _ _ :: rest => do
      let text ← TypeExpr.textOrEmpty type
      let more ← Node.memberTexts rest
      return (name, text) :: more

end

end Bindery
