import Bindery.Node

/-!
# Reading nodes from records

A reflection record is a mapping. Its parts are read in a fixed order, and the first part that is
malformed decides the fault. Keys that are not known are ignored.

The parts of a record are handed out with a proof that they are smaller than the record, which is
why reading ends.
-/

namespace Bindery

/-! ## Parts of a record -/

namespace Record

/-- A part of a record, null where it is absent. -/
def part (key : String) (entries : List (Value × Value)) :
    { v : Value // sizeOf v ≤ sizeOf entries } :=
  match h : Value.find? key entries with
  | some v => ⟨v, Nat.le_of_lt (Value.sizeOf_find?_lt h)⟩
  | none => ⟨.null, by cases entries <;> simp; omega⟩

/-- The items that a part of a record lists. A part that is absent, null or otherwise empty lists
none. A text or a mapping is walked over too, but its characters or keys are never records, so that
the first of them is refused. -/
def listed (refuse : Value → RecordFault) (key : String) (entries : List (Value × Value)) :
    Except Fault { l : List Value // sizeOf l ≤ sizeOf entries } :=
  match part key entries with
  | ⟨.list l, h⟩ => .ok ⟨l, by simp at h; omega⟩
  | ⟨v, _⟩ =>
      if v.isTruthy then
        match v.members? with
        | some (first :: _) => .error (.record (refuse first))
        | _ => .error .wrongType
      else .ok ⟨[], by cases entries <;> simp; omega⟩

/-- A part that a type needs. -/
def require (entries : List (Value × Value)) (key tag : String) :
    Except Fault { v : Value // sizeOf v ≤ sizeOf entries } :=
  match h : Value.find? key entries with
  | some v => .ok ⟨v, Nat.le_of_lt (Value.sizeOf_find?_lt h)⟩
  | none => .error (.record (.missingKey tag key))

/-- The keys by which a node without a name is told apart. -/
def shown (entries : List (Value × Value)) : List (Value × Value) :=
  ["id", "kindString"].filterMap fun key =>
    (Value.find? key entries).map fun v => (.string key, v)

/-- The name of a node, which has to be a text. -/
def name (entries : List (Value × Value)) : Except Fault String :=
  match Value.get "name" entries with
  | .string s => .ok s
  | _ => .error (.record (.unnamed (shown entries)))

/-- The comment of a node; only a mapping is one. -/
def comment (entries : List (Value × Value)) : Option Comment :=
  match Value.get "comment" entries with
  | .map parts =>
      some ⟨(Value.get "shortText" parts).orElse (.string ""),
        (Value.get "text" parts).orElse (.string "")⟩
  | _ => none

/-- Is the flag of an optional member set? It has to be the truth value itself. -/
def optional (entries : List (Value × Value)) : Except Fault Bool :=
  match (Value.get "flags" entries).orElse (.map []) with
  | .map flags => .ok (match Value.get "isOptional" flags with
      | .bool true => true
      | _ => false)
  | _ => .error .noTextOperation

/-- The text of a default value, where there is one. -/
def defaultValue (entries : List (Value × Value)) : Option String :=
  match Value.get "defaultValue" entries with
  | .null => none
  | v => some v.display

end Record

/-! ## Nodes and types -/

mutual

/-- Reads a node. -/
def Node.ofValue : (v : Value) → Except Fault Node
  | .map entries => do
      let name ← Record.name entries
      let ⟨children, _⟩ ← Record.listed .notNode "children" entries
      let children ← Node.ofValues children
      let ⟨signatures, _⟩ ← Record.listed .notNode "signatures" entries
      let signatures ← Node.ofValues signatures
      let ⟨parameters, _⟩ ← Record.listed .notNode "parameters" entries
      let parameters ← Node.ofValues parameters
      let type ← match Record.part "type" entries with
        | ⟨.null, _⟩ => .ok none
        | ⟨v, _⟩ => (TypeExpr.ofValue v).map some
      let optional ← Record.optional entries
      return .mk name ((Value.get "kindString" entries).orElse (.string ""))
        (Record.comment entries)
        children signatures parameters type optional (Record.defaultValue entries)
  | v => .error (.record (.notNode v))
termination_by v => sizeOf v
decreasing_by all_goals (simp_all; try omega)

/-- Reads nodes one after another. -/
def Node.ofValues : (l : List Value) → Except Fault (List Node)
  | [] => .ok []
  | v :: rest => do
      let node ← Node.ofValue v
      let nodes ← Node.ofValues rest
      return node :: nodes
termination_by l => sizeOf l
decreasing_by all_goals (simp_all; try omega)

/-- Reads a type by its tag. -/
def TypeExpr.ofValue : (v : Value) → Except Fault TypeExpr
  | .map entries =>
      match Value.get "type" entries with
      | .string "intrinsic" => do
          let ⟨name, _⟩ ← Record.require entries "name" "intrinsic"
          return .intrinsic name
      | .string "reference" => do
          let ⟨arguments, _⟩ ← Record.listed .notType "typeArguments" entries
          let arguments ← TypeExpr.ofValues arguments
          let ⟨name, _⟩ ← Record.require entries "name" "reference"
          return .reference name arguments
      | .string "stringLiteral" => do
          let ⟨value, _⟩ ← Record.require entries "value" "stringLiteral"
          return .literal value
      | .string "array" => do
          let ⟨element, _⟩ ← Record.require entries "elementType" "array"
          return .array (← TypeExpr.ofValue element)
      | .string "union" => do
          let ⟨members, _⟩ ← Record.listed .notType "types" entries
          return .union (← TypeExpr.ofValues members)
      | .string "reflection" => do
          let ⟨declaration, _⟩ ← Record.require entries "declaration" "reflection"
          return .inline (← Node.ofValue declaration)
      | tag => .ok (.unknown tag.display)
  | v => .error (.record (.notType v))
termination_by v => sizeOf v
decreasing_by all_goals (simp_all; try omega)

/-- Reads types one after another. -/
def TypeExpr.ofValues : (l : List Value) → Except Fault (List TypeExpr)
  | [] => .ok []
  | v :: rest => do
      let type ← TypeExpr.ofValue v
      let types ← TypeExpr.ofValues rest
      return type :: types
termination_by l => sizeOf l
decreasing_by all_goals (simp_all; try omega)

end

end Bindery
