import Bindery.Yaml.Build
import Bindery.Yaml.Graph

/-!
# Outlines

A document is built node by node. A node is met where it is first needed: a scalar has its word
then, and a collection waits until those that were met before it are filled. What a document is made
of is therefore known from its nodes alone, without the value of any word: the words in the order in
which they are met, and what stands in each collection. The first word without a value is what is
wrong with a document.

When a mapping is filled, the entries of the mappings under its merge keys are put before its own,
and its default keys become texts. Both change nodes that may be met again elsewhere.
-/

namespace Bindery.Yaml

/-! ## Nodes -/

namespace Graph

variable (g : Graph)

def type (n : Nat) : TypeTag := (g.nodes[n]?.map GraphNode.type).getD .unknown

def contentOf (n : Nat) : Content := (g.nodes[n]?.map GraphNode.content).getD (.sequence [])

/-- The entries of a mapping. -/
def entries (n : Nat) : List (Nat × Nat) :=
  match g.contentOf n with
  | .mapping entries => entries
  | _ => []

def isMapping (n : Nat) : Bool :=
  match g.contentOf n with
  | .mapping _ => true
  | _ => false

def setType (n : Nat) (type : TypeTag) : Graph :=
  { g with nodes := g.nodes.modify n fun node => { node with type := type } }

def setEntries (n : Nat) (entries : List (Nat × Nat)) : Graph :=
  { g with nodes := g.nodes.modify n fun node => { node with content := .mapping entries } }

/-! ## Merged entries -/

/-- The entries before the first merge key, the node under it, and the entries behind it. -/
def cutAtMerge : List (Nat × Nat) → Option (List (Nat × Nat) × Nat × List (Nat × Nat))
  | [] => none
  | (k, v) :: rest =>
      if g.type k = .merge then some ([], v, rest)
      else (cutAtMerge rest).map fun (before, node, after) => ((k, v) :: before, node, after)

/-- The mappings that a node under a merge key stands for: itself, or those in a list. -/
def mergedMappings (n : Nat) : Option (List Nat) :=
  match g.contentOf n with
  | .mapping _ => some [n]
  | .sequence items => if items.all g.isMapping then some items else none
  | .scalar _ => none

/-- Makes texts of default keys. -/
def withTextKeys (entries : List (Nat × Nat)) : Graph :=
  entries.foldl (fun g (k, _) => if g.type k = .default then g.setType k .text else g) g

/-- Replaces the merge keys of a mapping by the entries that they stand for, which are put before
the others; of several mappings in a list the last one comes first. Each merge key is taken away
before what is under it is looked at, so that a mapping may be merged into itself. -/
def merge : Nat → Nat → (merged : List (Nat × Nat)) → Graph → Option Graph
  | 0, _, _, _ => none
  | fuel + 1, n, merged, g =>
      let own := g.entries n
      match g.cutAtMerge own with
      | none => some ((g.withTextKeys own).setEntries n (merged ++ own))
      | some (before, v, after) => do
          let g := g.setEntries n (before ++ after)
          let mappings ← g.mergedMappings v
          let (more, g) ← mappings.foldlM (fun (more, g) m => do
            let g ← merge fuel m [] g
            return (g.entries m ++ more, g)) ([], g)
          merge fuel n (merged ++ more) g

/-- How many entries there are, which bounds the merge keys. -/
def entryCount : Nat := ((List.range g.nodes.length).flatMap g.entries).length

/-- The nodes with the merge keys of a mapping replaced. -/
def merged (n : Nat) : Option Graph := merge (g.entryCount + 1) n [] g

end Graph

/-! ## Words -/

/-- The type and the text of a node that is no collection, or what is wrong with it. -/
abbrev Word := Except Failure (TypeTag × String)

namespace Word

/-- What a word stands for. -/
def value (w : Word) : Except Failure Value := do
  let (type, text) ← w
  scalar type text

/-- What is wrong with a word. -/
def failure? (w : Word) : Option Failure :=
  match w.value with
  | .ok _ => none
  | .error failure => some failure

end Word

namespace Graph

variable (g : Graph)

/-- The text of a node that has to be a scalar; a mapping has the one under its first default key.
The nodes on the way are counted down. -/
def textOf : Nat → Nat → Except Failure String
  | 0, _ => .error (.fault .endless)
  | fuel + 1, n =>
      match g.contentOf n with
      | .scalar text => .ok text
      | .sequence _ => .error .malformed
      | .mapping entries =>
          match entries.find? fun entry => g.type entry.1 = .default with
          | some (_, v) => textOf fuel v
          | none => .error .malformed

/-- The word of a node. A date is not read from under a default key. -/
def word (n : Nat) : Word := do
  let type := g.type n
  if !isScalarType type then .error .malformed
  else
    let text ← g.textOf g.nodes.length n
    if type = .timestamp ∧ g.isMapping n then .error (.fault .wrongType) else return (type, text)

end Graph

/-- Is the type one of collections, which are no keys? -/
def isCollectionType : TypeTag → Bool
  | .sequence | .mapping | .set | .orderedMapping | .pairs => true
  | _ => false

/-! ## Outlines -/

/-- What stands in a collection: a word, or another collection by the number of its node. -/
inductive Part where
  | word (w : Word)
  | collection (n : Nat)

/-- What a collection is filled with. -/
inductive Shape where
  | list (items : List Part)
  | pairs (entries : List (Part × Part))
  | mapping (entries : List (Part × Part))
  | set (members : List Part)

/-- What is known of a document while it is built. -/
structure Outline where
  /-- The nodes as they are now. -/
  graph : Graph
  /-- The nodes that were met, with what they are. -/
  met : List (Nat × Part)
  /-- The words in the order in which they were met. -/
  words : List Word
  /-- The collections that are not filled yet. -/
  waiting : List Nat
  /-- The collections that are filled. -/
  filled : List (Nat × Shape)

namespace Outline

/-- Meets a node. -/
def meet (o : Outline) (n : Nat) : Part × Outline :=
  match o.met.lookup n with
  | some part => (part, o)
  | none =>
      if isCollectionType (o.graph.type n) then
        let part := Part.collection n
        (part, { o with met := (n, part) :: o.met, waiting := o.waiting ++ [n] })
      else
        let w := o.graph.word n
        (.word w, { o with met := (n, .word w) :: o.met, words := o.words ++ [w] })

/-- Notes that something else is wrong than a word. -/
def refuse (o : Outline) : Outline := { o with words := o.words ++ [.error .malformed] }

/-- Notes what a collection is filled with. -/
def put (o : Outline) (n : Nat) (shape : Shape) : Outline :=
  { o with filled := (n, shape) :: o.filled }

/-- Meets the items of a list. -/
def meetAll : List Nat → Outline → List Part × Outline
  | [], o => ([], o)
  | n :: rest, o =>
      let (part, o) := o.meet n
      let (more, o) := meetAll rest o
      (part :: more, o)

/-- Meets the entries of a mapping. A collection is no key. -/
def meetEntries : List (Nat × Nat) → Outline → List (Part × Part) × Outline
  | [], o => ([], o)
  | (k, v) :: rest, o =>
      let (key, o) := o.meet k
      let o := match key with
        | .word _ => o
        | .collection _ => o.refuse
      let (value, o) := o.meet v
      let (more, o) := meetEntries rest o
      ((key, value) :: more, o)

/-- Meets the entries of mappings that have one entry each. -/
def meetPairs : List Nat → Outline → List (Part × Part) × Outline
  | [], o => ([], o)
  | n :: rest, o =>
      match o.graph.contentOf n with
      | .mapping [(k, v)] =>
          let (first, o) := o.meet k
          let (second, o) := o.meet v
          let (more, o) := meetPairs rest o
          ((first, second) :: more, o)
      | _ => ([], o.refuse)

/-- Fills a collection. -/
def fill (n : Nat) (o : Outline) : Outline :=
  match o.graph.type n, o.graph.contentOf n with
  | .sequence, .sequence items =>
      let (parts, o) := o.meetAll items
      o.put n (.list parts)
  | .orderedMapping, .sequence items | .pairs, .sequence items =>
      let (entries, o) := o.meetPairs items
      o.put n (.pairs entries)
  | .mapping, .mapping _ =>
      match o.graph.merged n with
      | some g =>
          let (entries, o) := { o with graph := g }.meetEntries (g.entries n)
          o.put n (.mapping entries)
      | none => o.refuse
  | .set, .mapping _ =>
      match o.graph.merged n with
      | some g =>
          let (entries, o) := { o with graph := g }.meetEntries (g.entries n)
          o.put n (.set (entries.map Prod.fst))
      | none => o.refuse
  | _, _ => o.refuse

/-- Fills the collections that wait, in order. -/
def run : Nat → Outline → Outline
  | 0, o => o
  | fuel + 1, o =>
      match o.waiting with
      | [] => o
      | n :: rest => run fuel ({ o with waiting := rest }.fill n)

/-! ## Values -/

/-- The value of a filled collection, with the values of what is in it. -/
def shaped (inside : Part → Value) : Shape → Value
  | .list items => .list (items.map inside)
  | .pairs entries => .list (entries.map fun (a, b) => .pair (inside a) (inside b))
  | .mapping entries => Value.ofEntries (entries.map fun (k, v) => (inside k, inside v))
  | .set members => Value.ofMembers (members.map inside)

/-- A collection where it stands inside itself. -/
def again : Shape → Value
  | .mapping _ => .outer true
  | _ => .outer false

/-- The value of a part inside certain collections. -/
def valueIn (o : Outline) : Nat → (around : List Nat) → Part → Value
  | 0, _, _ => .null
  | fuel + 1, around, part =>
      match part with
      | .word w => w.value.toOption.getD .null
      | .collection n =>
          match o.filled.lookup n with
          | none => .null
          | some shape =>
              if around.contains n then again shape else shaped (o.valueIn fuel (n :: around)) shape

/-- The value of a part that is looked at by itself. What is in a collection does not stand inside
it then. -/
def value (o : Outline) : Part → Value
  | .word w => w.value.toOption.getD .null
  | .collection n =>
      match o.filled.lookup n with
      | none => .null
      | some shape => shaped (o.valueIn (o.filled.length + 1) []) shape

end Outline

/-- The outline of a document, and what its root is. -/
def Graph.outline (g : Graph) : Part × Outline :=
  let (root, o) := Outline.meet ⟨g, [], [], [], []⟩ g.root
  (root, o.run (g.nodes.length + 1))

/-- The value of a document, unless something is wrong with it. -/
def Graph.value (g : Graph) : Except Failure Value :=
  let (root, o) := g.outline
  match o.words.findSome? Word.failure? with
  | some failure => .error failure
  | none => .ok (o.value root)

/-! ## Texts -/

/-- The value of a text with one document; null if there is none. -/
def load (text : String) : Except Failure Value := do
  match ← Graph.ofLexed (lexemes text) with
  | none => return .null
  | some g => g.value

end Bindery.Yaml
