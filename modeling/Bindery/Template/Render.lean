import Bindery.Template.Tree
import Bindery.Text.Upper
import Bindery.Value.Literal

/-!
# Rendering templates

Expressions are evaluated in a context of named data. A name that is not bound stands for nothing:
it prints as nothing, counts as false and has no items; only asking it for an attribute or an item
is a fault.

A template that is put in is rendered in the context of the place where it is put.
-/

namespace Bindery.Template

/-! ## Data -/

/-- What a template can work with. -/
inductive Datum where
  | undefined
  | plain (v : Value)
  /-- A thing with named attributes, and the text that stands for it. -/
  | record (shown : String) (attributes : List (String × Datum))
  | list (items : List Datum)

namespace Datum

def isTruthy : Datum → Bool
  | undefined => false
  | plain v => v.isTruthy
  | record _ _ => true
  | list items => !items.isEmpty

mutual

/-- The text that shows a datum with its structure. -/
def literal : Datum → String
  | undefined => "Undefined"
  | plain v => v.literal
  | record shown _ => shown
  | list items => "[" ++ Value.commaJoin (literals items) ++ "]"

def literals : List Datum → List String
  | [] => []
  | d :: rest => d.literal :: literals rest

end

/-- The text that a datum prints as. -/
def text : Datum → String
  | undefined => ""
  | plain v => v.display
  | d => d.literal

/-- What a loop over the datum meets. -/
def items? : Datum → Option (List Datum)
  | undefined => some []
  | plain v => v.members?.map fun members => members.map plain
  | record _ _ => none
  | list items => some items

/-- How many items or characters there are. -/
def length? : Datum → Option Nat
  | undefined => some 0
  | plain (.string s) => some s.length
  | plain v => v.members?.map List.length
  | record _ _ => none
  | list items => some items.length

/-- An attribute. -/
def member (name : String) : Datum → Except Fault Datum
  | undefined => .error (.template .undefinedName)
  | plain (.map entries) => .ok ((Value.find? name entries).elim undefined plain)
  | record _ attributes => .ok ((attributes.lookup name).getD undefined)
  | _ => .ok undefined

/-- The item at an index; a negative one counts from the end. -/
def itemAt (i : Int) (items : List Datum) : Datum :=
  let n := if i < 0 then i + items.length else i
  if n < 0 then undefined else (items[n.toNat]?).getD undefined

/-- An item: of a list or a text by its index, of a mapping by its key. What has neither is asked
for an attribute. -/
def item (d index : Datum) : Except Fault Datum :=
  match d, index with
  | undefined, _ => .error (.template .undefinedName)
  | plain (.map entries), plain k =>
      let entry := entries.find? fun (key, _) => key.sameKey k
      .ok ((entry.map fun (_, v) => plain v).getD undefined)
  | record _ _, plain (.string name) => d.member name
  | plain (.string _), plain (.int i) | plain (.list _), plain (.int i) | list _, plain (.int i) =>
      .ok (itemAt i (d.items?.getD []))
  | _, _ => .ok undefined

/-- Are two data equal? -/
def same : Datum → Datum → Bool
  | undefined, undefined => true
  | plain v, plain w => v.sameKey w || v.literal == w.literal
  | record a _, record b _ => a == b
  | list l, list m => literals l == literals m
  | _, _ => false

/-- Which of two data comes first: numbers by size, texts by their characters. -/
def order : Datum → Datum → Except Fault Ordering
  | undefined, _ | _, undefined => .error (.template .undefinedName)
  | plain (.string s), plain (.string t) => .ok (compare s t)
  | plain v, plain w =>
      match v.whole?, w.whole? with
      | some i, some j => .ok (compare i j)
      | _, _ => .error .wrongType
  | _, _ => .error .wrongType

/-- A number with a sign before it. -/
def signed (negative : Bool) : Datum → Except Fault Datum
  | undefined => .error (.template .undefinedName)
  | plain (.float x) => .ok (plain (.float (if negative then -x else x)))
  | plain v =>
      match v.whole? with
      | some i => .ok (plain (.int (if negative then -i else i)))
      | none => .error .wrongType
  | _ => .error .wrongType

end Datum

/-- Does a comparison hold? -/
def Comparison.holds (c : Comparison) (a b : Datum) : Except Fault Bool :=
  match c with
  | .equal => .ok (a.same b)
  | .different => .ok !(a.same b)
  | .less => do return (← a.order b) == .lt
  | .atMost => do return (← a.order b) != .gt
  | .greater => do return (← a.order b) == .gt
  | .atLeast => do return (← a.order b) != .lt

/-! ## Expressions -/

/-- The data that have names; an inner name hides an outer one. -/
abbrev Context := List (String × Datum)

/-- An attribute of an attribute, and so on. -/
def attributePath (names : List String) (d : Datum) : Except Fault Datum :=
  names.foldlM (fun d name => d.item (.plain (.string name))) d

/-- The texts of items with another text between them; of each item one attribute may be taken. -/
def joined (between path : Datum) (items : List Datum) : Except Fault String := do
  let items ← match path with
    | .plain .null => .ok items
    | path => items.mapM (attributePath (Text.splitAt '.' path.text))
  return between.text.intercalate (items.map Datum.text)

/-- The data for parameters with usual values: those that are given in order, then those that are
given by name. -/
def parameters (arguments : List Datum) (named : List (String × Datum)) :
    List (String × Datum) → Except Fault (List Datum)
  | [] => if arguments.isEmpty && named.isEmpty then .ok [] else .error .wrongType
  | (name, usual) :: rest =>
      match arguments, named.lookup name with
      | _ :: _, some _ => .error .wrongType
      | d :: arguments, none => do return d :: (← parameters arguments named rest)
      | [], found => do
          let named := named.filter fun pair => pair.1 != name
          return found.getD usual :: (← parameters [] named rest)

/-- What a filter makes of a datum. -/
def Filter.apply (f : Filter) (d : Datum) (arguments : List Datum) (named : List (String × Datum)) :
    Except Fault Datum :=
  match f with
  | .length => do
      let _ ← parameters arguments named []
      match d.length? with
      | some n => return .plain (.int n)
      | none => .error .wrongType
  | .upper => do
      let _ ← parameters arguments named []
      return .plain (.string (Text.upper d.text))
  | .join => do
      match ← parameters arguments named [("d", .plain (.string "")), ("attribute", .plain .null)],
        d.items? with
      | [between, path], some items => return .plain (.string (← joined between path items))
      | _, _ => .error .wrongType

mutual

/-- The datum that an expression stands for. -/
def Expr.eval (context : Context) : Expr → Except Fault Datum
  | .constant v => .ok (.plain v)
  | .name s => .ok ((context.lookup s).getD .undefined)
  | .member e s => do (← e.eval context).member s
  | .item e index => do
      let d ← e.eval context
      d.item (← index.eval context)
  | .filter f e arguments named => do
      let d ← e.eval context
      let arguments ← Expr.evalAll context arguments
      f.apply d arguments (← Expr.evalNamed context named)
  | .list items => do return .list (← Expr.evalAll context items)
  | .signed negative e => do (← e.eval context).signed negative
  | .not e => do return .plain (.bool !(← e.eval context).isTruthy)
  | .and a b => do
      let d ← a.eval context
      if d.isTruthy then b.eval context else return d
  | .or a b => do
      let d ← a.eval context
      if d.isTruthy then return d else b.eval context
  | .compare c a b => do
      let d ← a.eval context
      return .plain (.bool (← c.holds d (← b.eval context)))
  | .choose condition yes no => do
      if (← condition.eval context).isTruthy then yes.eval context
      else match no with
        | some e => e.eval context
        | none => return .undefined

/-- The data that expressions stand for, in order. -/
def Expr.evalAll (context : Context) : List Expr → Except Fault (List Datum)
  | [] => .ok []
  | e :: rest => do
      let d ← e.eval context
      return d :: (← Expr.evalAll context rest)

/-- The data that named expressions stand for, in order. -/
def Expr.evalNamed (context : Context) :
    List (String × Expr) → Except Fault (List (String × Datum))
  | [] => .ok []
  | (key, e) :: rest => do
      let d ← e.eval context
      return (key, d) :: (← Expr.evalNamed context rest)

end

/-! ## Parts -/

/-- What a loop knows of itself at an item. -/
def loopRecord (index length : Nat) : Datum :=
  let number := fun (n : Nat) => Datum.plain (.int n)
  let truth := fun (b : Bool) => Datum.plain (.bool b)
  .record ("<LoopContext " ++ toString (index + 1) ++ "/" ++ toString length ++ ">")
    [("index", number (index + 1)), ("index0", number index), ("first", truth (index = 0)),
      ("last", truth (index + 1 = length)), ("length", number length),
      ("revindex", number (length - index)), ("revindex0", number (length - index - 1))]

/-- The items that a condition holds of. -/
def fitting (context : Context) (target : String) (condition : Option Expr) (items : List Datum) :
    Except Fault (List Datum) :=
  match condition with
  | none => .ok items
  | some e => items.filterM fun d => do return (← e.eval ((target, d) :: context)).isTruthy

/-- Runs through items with their indices and puts the texts together. -/
def concatFrom (f : Nat → Datum → Except Fault String) : Nat → List Datum → Except Fault String
  | _, [] => .ok ""
  | i, d :: rest => do
      let first ← f i d
      return first ++ (← concatFrom f (i + 1) rest)

mutual

/-- The text of a part; `insert` renders a template by its name. -/
def Part.render (insert : Context → String → Except Fault String) (context : Context) :
    Part → Except Fault String
  | .text s => .ok s
  | .output e => do return (← e.eval context).text
  | .loop target items condition body otherwise => do
      match (← items.eval context).items? with
      | none => .error .wrongType
      | some found => do
          let found ← fitting context target condition found
          if found.isEmpty then Part.renderAll insert context otherwise
          else
            concatFrom (fun i d => Part.renderAll insert
              ((target, d) :: ("loop", loopRecord i found.length) :: context) body) 0 found
  | .branch condition yes no => do
      if (← condition.eval context).isTruthy then Part.renderAll insert context yes
      else Part.renderAll insert context no
  | .insert template ignoreMissing => do
      match ← template.eval context with
      | .plain (.string name) =>
          match insert context name with
          | .error (.template (.notFound missing)) =>
              if ignoreMissing then return "" else .error (.template (.notFound missing))
          | result => result
      | .undefined => .error (.template .undefinedName)
      | _ => .error .wrongType

/-- The texts of parts, put together. -/
def Part.renderAll (insert : Context → String → Except Fault String) (context : Context) :
    List Part → Except Fault String
  | [] => .ok ""
  | p :: rest => do
      let first ← p.render insert context
      return first ++ (← Part.renderAll insert context rest)

end

/-! ## Templates by name -/

/-- How deep templates may be put into one another. -/
def deepest : Nat := 200

/-- The text of a template by its name; `source` gives the text of a template. -/
def renderNamed (source : String → Except Fault String) :
    Nat → Context → String → Except Fault String
  | 0, _, _ => .error (.template .tooDeep)
  | fuel + 1, context, name => do
      let parts ← (ofSource (← source name)).mapError Fault.template
      Part.renderAll (renderNamed source fuel) context parts

/-- The text of a template by its name. -/
def render (source : String → Except Fault String) (context : Context) (name : String) :
    Except Fault String := renderNamed source deepest context name

end Bindery.Template
