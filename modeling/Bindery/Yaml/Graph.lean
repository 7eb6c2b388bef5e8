import Bindery.Yaml.Lexeme
import Bindery.Yaml.TypeTag

/-!
# YAML graphs

A document is a graph of nodes, each with its type: scalars, sequences and mappings. Nodes are
numbered in the order in which they begin, and a collection gives what is in it by numbers. An alias
is the number of the node that was given its name before, which may be a collection around it.

The readers follow the grammar of lexemes: one function for a node and one for the entries of each
form of collection. They look no further ahead than they have to, since what they meet at the end of
the lexemes is the failure of asking for more. How deeply nodes may stand in one another has no
limit here.
-/

namespace Bindery.Yaml

/-- What a node holds. -/
inductive Content where
  | scalar (text : String)
  | sequence (items : List Nat)
  | mapping (entries : List (Nat × Nat))
deriving DecidableEq, Repr

/-- A node. -/
structure GraphNode where
  type : TypeTag
  content : Content
deriving DecidableEq, Repr

/-- The nodes of a document. -/
structure Graph where
  nodes : List GraphNode
  root : Nat
deriving DecidableEq, Repr

namespace Graph

/-! ## Reading -/

/-- The lexemes that are left, the nodes so far, those that have names, and the handles of tags. -/
structure Reading where
  rest : List Lexeme
  nodes : List GraphNode
  named : List (String × Nat)
  handles : List (String × String)

def Reading.on (r : Reading) (rest : List Lexeme) : Reading := { r with rest := rest }

/-- Adds a node, with its name if it has one. -/
def Reading.add (r : Reading) (anchor : Option String) (type : TypeTag) (content : Content) :
    Nat × Reading :=
  let n := r.nodes.length
  (n, { r with
    nodes := r.nodes ++ [⟨type, content⟩]
    named := match anchor with
      | some name => (name, n) :: r.named
      | none => r.named })

/-- Adds the node that stands where nothing is written. -/
def Reading.addEmpty (r : Reading) : Nat × Reading := r.add none .null (.scalar "")

/-- Gives a node its content. -/
def Reading.fill (r : Reading) (n : Nat) (content : Content) : Reading :=
  { r with nodes := r.nodes.modify n fun node => { node with content := content } }

/-- The handles that every document has. -/
def commonHandles : List (String × String) := [("!", "!"), ("!!", ownTags)]

/-- What stands before the content of a node. -/
structure Properties where
  anchor : Option String
  tag : Option (Option String × String)

/-- The tag with its handle replaced; a tag that is a mere exclamation mark is none. -/
def fullTag (handles : List (String × String)) :
    Option (Option String × String) → Except Failure (Option String)
  | none => .ok none
  | some (none, suffix) => .ok (some suffix)
  | some (some handle, suffix) =>
      match handles.lookup handle with
      | some value => .ok (some (value ++ suffix))
      | none => .error .malformed

/-- The type of a collection. -/
def collectionType (tag : Option String) (usual : TypeTag) : TypeTag :=
  match tag with
  | none | some "!" => usual
  | some tag => .ofTag tag

/-- The type of a scalar. -/
def scalarType (tag : Option String) (text : String) (plain : Bool) : TypeTag :=
  match tag with
  | none => if plain then .ofPlain text else .text
  | some "!" => .ofPlain text
  | some tag => .ofTag tag

/-- Does the entry of a block sequence end here? -/
def endsItem : List Lexeme → Bool
  | .blockEntry :: _ | .blockEnd :: _ => true
  | _ => false

/-- Does a key or a value of a block mapping end here? -/
def endsPart : List Lexeme → Bool
  | .key :: _ | .value :: _ | .blockEnd :: _ => true
  | _ => false

/-- Does an entry of a flow sequence end here? -/
def endsFlowItem : List Lexeme → Bool
  | .flowEntry :: _ | .flowSequenceEnd :: _ => true
  | _ => false

/-- Does an entry of a flow mapping end here? -/
def endsFlowPart : List Lexeme → Bool
  | .flowEntry :: _ | .flowMappingEnd :: _ => true
  | _ => false

/-- Does a value begin here? -/
def atValue : List Lexeme → Bool
  | .value :: _ => true
  | _ => false

section

-- What asking for more lexemes than there are comes to.
variable (ending : Failure)

/-- What is wrong where the lexemes do not go on as they have to. -/
def refusal (rest : List Lexeme) : Failure := if rest.isEmpty then ending else .malformed

/-- Reads an anchor and a tag in either order. Behind a tag an anchor is looked for. -/
def properties : List Lexeme → Except Failure (Properties × List Lexeme)
  | .anchor a :: .tag h s :: rest => .ok (⟨some a, some (h, s)⟩, rest)
  | .anchor a :: rest => .ok (⟨some a, none⟩, rest)
  | .tag h s :: .anchor a :: rest => .ok (⟨some a, some (h, s)⟩, rest)
  | [.tag _ _] => .error ending
  | .tag h s :: rest => .ok (⟨none, some (h, s)⟩, rest)
  | rest => .ok (⟨none, none⟩, rest)

/-- Does the separator before the next entry of a flow collection stand here? The first entry needs
none. -/
def passSeparator (first : Bool) (r : Reading) : Except Failure Reading :=
  if first then .ok r
  else match r.rest with
    | .flowEntry :: rest => .ok (r.on rest)
    | rest => .error (refusal ending rest)

mutual

/-- Reads a node. In block context it may be a block collection; as a part of a block mapping it may
be a sequence that is not indented. -/
def node (inBlock unindented : Bool) : Nat → Reading → Except Failure (Nat × Reading)
  | 0, _ => .error .malformed
  | fuel + 1, r =>
      match r.rest with
      | .alias name :: rest =>
          match r.named.lookup name with
          | some n => .ok (n, r.on rest)
          | none => .error .malformed
      | _ => do
          let (props, rest) ← properties ending r.rest
          let tag ← fullTag r.handles props.tag
          if props.anchor.any fun a => (r.named.lookup a).isSome then .error (refusal ending rest)
          else
            let list := fun (more : List Lexeme) =>
              (r.on more).add props.anchor (collectionType tag .sequence) (.sequence [])
            let map := fun (more : List Lexeme) =>
              (r.on more).add props.anchor (collectionType tag .mapping) (.mapping [])
            match rest with
            | .scalar text plain :: more =>
                return (r.on more).add props.anchor (scalarType tag text plain) (.scalar text)
            | .flowSequenceStart :: more => do
                let (n, r) := list more
                let (items, r) ← flowItems true fuel r
                return (n, r.fill n (.sequence items))
            | .flowMappingStart :: more => do
                let (n, r) := map more
                let (entries, r) ← flowEntries true fuel r
                return (n, r.fill n (.mapping entries))
            | other => do
                match other, inBlock, unindented with
                | .blockEntry :: _, _, true => do
                    let (n, r) := list other
                    let (items, r) ← unindentedItems fuel r
                    return (n, r.fill n (.sequence items))
                | .blockSequenceStart :: more, true, _ => do
                    let (n, r) := list more
                    let (items, r) ← blockItems fuel r
                    return (n, r.fill n (.sequence items))
                | .blockMappingStart :: more, true, _ => do
                    let (n, r) := map more
                    let (entries, r) ← blockEntries fuel r
                    return (n, r.fill n (.mapping entries))
                | _, _, _ =>
                    if other.isEmpty ∨ (props.anchor.isNone ∧ tag.isNone) then
                      .error (refusal ending other)
                    else
                      return (r.on other).add props.anchor (scalarType tag "" true) (.scalar "")

/-- Reads the entries of a block sequence. -/
def blockItems : Nat → Reading → Except Failure (List Nat × Reading)
  | 0, _ => .error .malformed
  | fuel + 1, r =>
      match r.rest with
      | .blockEntry :: rest => do
          let (n, r) ←
            if endsItem rest then .ok (r.on rest).addEmpty else node true false fuel (r.on rest)
          let (more, r) ← blockItems fuel r
          return (n :: more, r)
      | .blockEnd :: rest => .ok ([], r.on rest)
      | rest => .error (refusal ending rest)

/-- Reads the entries of a block sequence that is not indented. -/
def unindentedItems : Nat → Reading → Except Failure (List Nat × Reading)
  | 0, _ => .error .malformed
  | fuel + 1, r =>
      match r.rest with
      | .blockEntry :: rest => do
          let (n, r) ←
            if endsItem rest || endsPart rest then .ok (r.on rest).addEmpty
            else node true false fuel (r.on rest)
          let (more, r) ← unindentedItems fuel r
          return (n :: more, r)
      | _ => .ok ([], r)

/-- Reads the entries of a block mapping. -/
def blockEntries : Nat → Reading → Except Failure (List (Nat × Nat) × Reading)
  | 0, _ => .error .malformed
  | fuel + 1, r =>
      match r.rest with
      | .key :: rest => do
          let (k, r) ←
            if endsPart rest then .ok (r.on rest).addEmpty else node true true fuel (r.on rest)
          let (v, r) ←
            match r.rest with
            | .value :: rest =>
                if endsPart rest then .ok (r.on rest).addEmpty else node true true fuel (r.on rest)
            | _ => .ok r.addEmpty
          let (more, r) ← blockEntries fuel r
          return ((k, v) :: more, r)
      | .blockEnd :: rest => .ok ([], r.on rest)
      | rest => .error (refusal ending rest)

/-- Reads the entries of a flow sequence; an entry that is a key is a mapping of its own. -/
def flowItems (first : Bool) : Nat → Reading → Except Failure (List Nat × Reading)
  | 0, _ => .error .malformed
  | fuel + 1, r =>
      match r.rest with
      | .flowSequenceEnd :: rest => .ok ([], r.on rest)
      | _ => do
          let r ← passSeparator ending first r
          match r.rest with
          | .flowSequenceEnd :: rest => .ok ([], r.on rest)
          | .key :: rest => do
              let (n, r) := (r.on rest).add none .mapping (.mapping [])
              let (k, r) ←
                if endsFlowItem rest || atValue rest then .ok r.addEmpty
                else node false false fuel r
              let (v, r) ←
                match r.rest with
                | .value :: rest =>
                    if endsFlowItem rest then .ok (r.on rest).addEmpty
                    else node false false fuel (r.on rest)
                | _ => .ok r.addEmpty
              let (more, r) ← flowItems false fuel (r.fill n (.mapping [(k, v)]))
              return (n :: more, r)
          | _ => do
              let (n, r) ← node false false fuel r
              let (more, r) ← flowItems false fuel r
              return (n :: more, r)

/-- Reads the entries of a flow mapping; an entry that is no key has an empty value. -/
def flowEntries (first : Bool) : Nat → Reading → Except Failure (List (Nat × Nat) × Reading)
  | 0, _ => .error .malformed
  | fuel + 1, r =>
      match r.rest with
      | .flowMappingEnd :: rest => .ok ([], r.on rest)
      | _ => do
          let r ← passSeparator ending first r
          match r.rest with
          | .flowMappingEnd :: rest => .ok ([], r.on rest)
          | .key :: rest => do
              let (k, r) ←
                if endsFlowPart rest || atValue rest then .ok (r.on rest).addEmpty
                else node false false fuel (r.on rest)
              let (v, r) ←
                match r.rest with
                | .value :: rest =>
                    if endsFlowPart rest then .ok (r.on rest).addEmpty
                    else node false false fuel (r.on rest)
                | _ => .ok r.addEmpty
              let (more, r) ← flowEntries false fuel r
              return ((k, v) :: more, r)
          | _ => do
              let (k, r) ← node false false fuel r
              let (v, r) := r.addEmpty
              let (more, r) ← flowEntries false fuel r
              return ((k, v) :: more, r)

end

/-! ## Documents -/

/-- Reads the directives before a document: its handles, and whether its version was given. -/
def directives (versioned : Bool) (handles : List (String × String)) :
    List Lexeme → Except Failure (List (String × String) × List Lexeme)
  | .directive (.version major _) :: rest =>
      if versioned ∨ major ≠ 1 then .error .malformed else directives true handles rest
  | .directive (.tagHandle handle value) :: rest =>
      if (handles.lookup handle).isSome then .error .malformed
      else directives versioned (handles ++ [(handle, value)]) rest
  | .directive .other :: rest => directives versioned handles rest
  | rest => .ok (handles ++ commonHandles, rest)

/-- Nothing may stand behind the document. The directives of another one are read all the same. -/
def close : List Lexeme → Except Failure Unit
  | .documentEnd :: rest => close rest
  | [.streamEnd] => .ok ()
  | rest => do
      let (_, rest) ← directives false [] rest
      .error (refusal ending rest)

/-- The content of a document, with nothing behind it. -/
def content (ls : List Lexeme) (handles : List (String × String)) : Except Failure Graph := do
  let (n, r) ← node ending true false (4 * ls.length + 4) ⟨ls, [], [], handles⟩
  close ending r.rest
  return ⟨r.nodes, n⟩

/-- The only document of the lexemes; none if there is nothing at all. -/
def ofList (ls : List Lexeme) : Except Failure (Option Graph) :=
  match ls with
  | [.streamEnd] => .ok none
  | .directive _ :: _ | .documentStart :: _ => do
      let (handles, rest) ← directives false [] ls
      match rest with
      | .documentStart :: rest =>
          match rest with
          | .streamEnd :: _ | .documentEnd :: _ | .directive _ :: _ | .documentStart :: _ => do
              close ending rest
              return some ⟨[⟨.null, .scalar ""⟩], 0⟩
          | _ => return some (← content ending rest handles)
      | rest => .error (refusal ending rest)
  | _ => do return some (← content ending ls commonHandles)

end

/-- The only document of a text; none if there is nothing at all. -/
def ofLexed (l : Lexed) : Except Failure (Option Graph) := ofList l.ending l.found

end Graph

end Bindery.Yaml
