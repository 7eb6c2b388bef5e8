import Bindery.Yaml.Scalar

/-!
# Lexemes

A YAML text is a sequence of lexemes. Some of them stand for no character: the starts and ends of
the block collections, which indentation marks, and the mark of a key, which is only recognised at
the colon behind the key and is put before it afterwards.

A place where a key may begin is kept for each depth of flow collections until its line ends or too
much text has followed. In block context it is certain that a key has to begin where an entry of the
innermost collection begins.

Lexemes are read as they are needed. Where reading one fails, those before it stand all the same, up
to the first that a mark might still be put before; the failure counts if more than these are asked
for.
-/

namespace Bindery.Yaml

/-- What a line that begins with a percent sign says. -/
inductive Directive where
  | version (major minor : Nat)
  | tagHandle (handle value : String)
  | other
deriving DecidableEq

/-- A lexeme. -/
inductive Lexeme where
  | directive (d : Directive)
  | documentStart
  | documentEnd
  | streamEnd
  | blockSequenceStart
  | blockMappingStart
  | blockEnd
  | flowSequenceStart
  | flowSequenceEnd
  | flowMappingStart
  | flowMappingEnd
  | blockEntry
  | flowEntry
  | key
  | value
  | alias (name : String)
  | anchor (name : String)
  | tag (handle : Option String) (suffix : String)
  | scalar (text : String) (plain : Bool)
deriving DecidableEq

/-! ## Tags, names and directives -/

namespace Tag

/-- Bytes that are written with percent signs. -/
def escapes : Nat → Cursor → List UInt8 → Except Failure (List UInt8 × Cursor)
  | 0, c, bytes => .ok (bytes, c)
  | fuel + 1, c, bytes =>
      match c.rest with
      | '%' :: a :: b :: _ =>
          if Quoted.isHexDigit a ∧ Quoted.isHexDigit b then
            escapes fuel (c.skip 3) (bytes ++ [UInt8.ofNat (Decimal.natOfBase 16 [a, b])])
          else .error .malformed
      | '%' :: _ => .error .malformed
      | _ => .ok (bytes, c)

/-- The characters of a tag, with the escaped ones decoded. -/
def uriFrom : Nat → Cursor → String → Except Failure (String × Cursor)
  | 0, c, text => .ok (text, c)
  | fuel + 1, c, text =>
      match c.next with
      | some '%' => do
          let (bytes, c) ← escapes (c.rest.length + 1) c []
          match String.fromUTF8? ⟨bytes.toArray⟩ with
          | some decoded => uriFrom fuel c (text ++ decoded)
          | none => .error .malformed
      | some ch => if isTagChar ch then uriFrom fuel c.step (text.push ch) else .ok (text, c)
      | none => .ok (text, c)

/-- Reads the characters of a tag, of which there has to be at least one. -/
def uri (c : Cursor) : Except Failure (String × Cursor) := do
  let (text, after) ← uriFrom (c.rest.length + 1) c ""
  if after.offset = c.offset then .error .malformed else return (text, after)

/-- Reads a handle: an exclamation mark, or a name between two of them. -/
def handle (c : Cursor) : Except Failure (String × Cursor) :=
  match c.rest with
  | '!' :: ' ' :: _ => .ok ("!", c.step)
  | '!' :: rest =>
      let name := rest.takeWhile isNameChar
      match rest.drop name.length with
      | '!' :: _ => .ok (String.ofList ('!' :: name ++ ['!']), c.skip (name.length + 2))
      | _ => .error .malformed
  | _ => .error .malformed

/-- Reads a tag. -/
def read (c : Cursor) : Except Failure (Lexeme × Cursor) := do
  let (lexeme, c) ←
    match c.second with
    | some '<' => do
        let (suffix, c) ← uri (c.skip 2)
        if c.next = some '>' then .ok (Lexeme.tag none suffix, c.step) else .error Failure.malformed
    | second =>
        if isGap second then .ok (Lexeme.tag none "!", c.step)
        else if (c.rest.tail.takeWhile fun ch => !endsWord (some ch)).contains '!' then do
          let (handle, c) ← handle c
          let (suffix, c) ← uri c
          .ok (Lexeme.tag (some handle) suffix, c)
        else do
          let (suffix, c) ← uri c.step
          .ok (Lexeme.tag (some "!") suffix, c)
  if endsWord c.next then return (lexeme, c) else .error .malformed

end Tag

/-- Reads the name of an anchor behind its sign. -/
def anchorName (c : Cursor) : Except Failure (String × Cursor) :=
  let (name, c) := c.step.span isNameChar
  if name.isEmpty ∨ !(isGap c.next || c.next.any fun ch => "?:,]\x7d%@\x60".toList.contains ch) then
    .error .malformed
  else .ok (String.ofList name, c)

namespace Directive

/-- Reads a number, which has a limit to its digits. -/
def number (c : Cursor) : Except Failure (Nat × Cursor) :=
  let (digits, c) := c.span Char.isDigit
  if digits.isEmpty then .error .malformed
  else if Decimal.digitLimit < digits.length then .error (.fault (.value .longNumber))
  else .ok (Decimal.natOf digits, c)

/-- Reads what stands behind the percent sign. -/
def content (c : Cursor) : Except Failure (Directive × Cursor) := do
  let (name, c) := c.span isNameChar
  if name.isEmpty ∨ !endsWord c.next then .error .malformed
  else if name = "YAML".toList then
    let (major, c) ← number c.dropSpaces
    if c.next ≠ some '.' then .error .malformed
    else
      let (minor, c) ← number c.step
      if endsWord c.next then .ok (.version major minor, c) else .error .malformed
  else if name = "TAG".toList then
    let (handle, c) ← Tag.handle c.dropSpaces
    if c.next ≠ some ' ' then .error .malformed
    else
      let (value, c) ← Tag.uri c.dropSpaces
      if endsWord c.next then .ok (.tagHandle handle value, c) else .error .malformed
  else .ok (.other, c.dropLine)

/-- Reads a directive and the rest of its line. -/
def read (c : Cursor) : Except Failure (Lexeme × Cursor) := do
  let (d, c) ← content c.step
  let c := c.dropComment
  if endsLine c.next then return (.directive d, c.dropBreak) else .error .malformed

end Directive

/-! ## The state between lexemes -/

/-- A place where a key may begin. -/
structure KeyPlace where
  /-- How many lexemes stand before the place. -/
  index : Nat
  required : Bool
  offset : Nat
  line : Nat
  column : Nat

/-- What is known between two lexemes. -/
structure Progress where
  cursor : Cursor
  /-- The lexemes so far. -/
  found : Array Lexeme
  /-- How many flow collections are open. -/
  depth : Nat
  /-- The column of the innermost block collection, then those of the collections around it. -/
  indent : Int
  outer : List Int
  /-- May a key begin here? -/
  keyAllowed : Bool
  /-- The places where a key may begin, by depth. -/
  places : List (Nat × KeyPlace)

namespace Progress

/-- The state at the start of a text. -/
def start (cs : List Char) : Progress := ⟨Cursor.start cs, #[], 0, -1, [], true, []⟩

def inFlow (p : Progress) : Bool := p.depth != 0

/-- Adds a lexeme. -/
def put (p : Progress) (l : Lexeme) : Progress := { p with found := p.found.push l }

/-- Adds a lexeme and moves on. -/
def putAt (p : Progress) (l : Lexeme) (c : Cursor) : Progress :=
  { p with found := p.found.push l, cursor := c }

/-- Can a key no longer begin at the place? -/
def isStale (p : Progress) (place : KeyPlace) : Bool :=
  place.line != p.cursor.line || place.offset + 1024 < p.cursor.offset

/-- Forgets the places that a key can no longer begin at. -/
def dropStale (p : Progress) : Except Failure Progress :=
  if p.places.any fun place => p.isStale place.2 && place.2.required then .error .malformed
  else .ok { p with places := p.places.filter fun place => !p.isStale place.2 }

/-- The lexemes that no mark can be put before any more. -/
def settled (p : Progress) : List Lexeme :=
  let live := (p.places.map Prod.snd).filter fun place => !p.isStale place
  p.found.toList.take ((live.map KeyPlace.index).foldl min p.found.size)

/-- Forgets the place at this depth. -/
def dropPlace (p : Progress) : Except Failure Progress :=
  if p.places.any fun place => place.1 == p.depth && place.2.required then .error .malformed
  else .ok { p with places := p.places.filter fun place => place.1 != p.depth }

/-- Keeps this place if a key may begin here. -/
def keepPlace (p : Progress) : Except Failure Progress := do
  if p.keyAllowed then
    let required := !p.inFlow && p.indent == (p.cursor.column : Int)
    let p ← p.dropPlace
    let place := ⟨p.found.size, required, p.cursor.offset, p.cursor.line, p.cursor.column⟩
    return { p with places := (p.depth, place) :: p.places }
  else return p

/-- Ends block collections as long as they are indented further than a column. -/
def unwindTo (column : Int) : List Int → Progress → Progress
  | [], p => p
  | next :: outer, p =>
      if column < p.indent then
        unwindTo column outer { p.put .blockEnd with indent := next, outer := outer }
      else p

/-- Ends the block collections that are indented further than a column. -/
def unwind (column : Int) (p : Progress) : Progress :=
  if p.inFlow then p else unwindTo column p.outer p

/-- Opens a block collection at a column, unless the innermost one stands there. -/
def openBlock (column : Nat) (l : Lexeme) (p : Progress) : Progress :=
  if p.indent < (column : Int) then
    { p.put l with indent := column, outer := p.indent :: p.outer }
  else p

/-! ## One lexeme -/

/-- The cursor before the next lexeme; in block context a new line lets a key begin. -/
def toNext : Nat → Progress → Progress
  | 0, p => p
  | fuel + 1, p =>
      let c := p.cursor.dropComment
      match c.lineBreak? with
      | some (_, c) => toNext fuel { p with cursor := c, keyAllowed := p.keyAllowed || !p.inFlow }
      | none => { p with cursor := c }

/-- Before a mark that stands outside every document. -/
def leaveDocument (p : Progress) : Except Failure Progress := do
  return { ← (p.unwind (-1)).dropPlace with keyAllowed := false }

/-- A mark between documents. -/
def separator (l : Lexeme) (p : Progress) : Except Failure Progress := do
  let p ← p.leaveDocument
  return p.putAt l (p.cursor.skip 3)

def openFlow (l : Lexeme) (p : Progress) : Except Failure Progress := do
  let p ← p.keepPlace
  return { p.putAt l p.cursor.step with depth := p.depth + 1, keyAllowed := true }

/-- The end of a flow collection. One that was never opened is refused. -/
def closeFlow (l : Lexeme) (p : Progress) : Except Failure Progress := do
  let p ← p.dropPlace
  if p.depth = 0 then .error .malformed
  else return { p.putAt l p.cursor.step with depth := p.depth - 1, keyAllowed := false }

def flowEntry (p : Progress) : Except Failure Progress := do
  let p ← p.dropPlace
  return { p.putAt .flowEntry p.cursor.step with keyAllowed := true }

/-- Opens a block collection for an entry at this column. -/
def openEntry (l : Lexeme) (p : Progress) : Except Failure Progress :=
  if p.inFlow then .ok p
  else if p.keyAllowed then .ok (p.openBlock p.cursor.column l)
  else .error .malformed

def blockEntry (p : Progress) : Except Failure Progress := do
  let p ← p.openEntry .blockSequenceStart
  let p ← p.dropPlace
  return { p.putAt .blockEntry p.cursor.step with keyAllowed := true }

def explicitKey (p : Progress) : Except Failure Progress := do
  let p ← p.openEntry .blockMappingStart
  let p ← p.dropPlace
  return { p.putAt .key p.cursor.step with keyAllowed := !p.inFlow }

/-- The lexemes with others before the one of an index. -/
def insertAt (found : Array Lexeme) (index : Nat) (l : List Lexeme) : Array Lexeme :=
  (found.toList.take index ++ l ++ found.toList.drop index).toArray

/-- A colon. The place of its key, if there is one, gets the mark of a key, and in block context the
start of a mapping that begins there. -/
def valueMark (p : Progress) : Except Failure Progress := do
  match p.places.find? fun place => place.1 == p.depth with
  | some (_, place) =>
      let p := { p with places := p.places.filter fun other => other.1 != p.depth }
      let opens := !p.inFlow && p.indent < (place.column : Int)
      let marks := if opens then [.blockMappingStart, .key] else [.key]
      let p := { p with found := insertAt p.found place.index marks, keyAllowed := false }
      let p := if opens then { p with indent := place.column, outer := p.indent :: p.outer } else p
      return p.putAt .value p.cursor.step
  | none =>
      let p ← p.openEntry .blockMappingStart
      let p ← p.dropPlace
      return { p.putAt .value p.cursor.step with keyAllowed := !p.inFlow }

/-- A lexeme at which a key may begin. -/
def atPlace (read : Cursor → Except Failure (Lexeme × Cursor)) (p : Progress) :
    Except Failure Progress := do
  let p ← p.keepPlace
  let (l, c) ← read p.cursor
  return { p.putAt l c with keyAllowed := false }

def named (make : String → Lexeme) (c : Cursor) : Except Failure (Lexeme × Cursor) := do
  let (name, c) ← anchorName c
  return (make name, c)

def quoted (quote : Char) (c : Cursor) : Except Failure (Lexeme × Cursor) := do
  let (text, c) ← Quoted.read quote c
  return (.scalar text false, c)

def block (folded : Bool) (p : Progress) : Except Failure Progress := do
  let p ← p.dropPlace
  let (text, c) ← Block.read folded p.indent p.cursor
  return { p.putAt (.scalar text false) c with keyAllowed := true }

def plain (p : Progress) : Except Failure Progress := do
  let p ← p.keepPlace
  let (text, broken, c) := Plain.read p.inFlow p.indent p.cursor
  return { p.putAt (.scalar text true) c with keyAllowed := broken }

/-- May a plain scalar begin here? -/
def startsPlain (p : Progress) : Bool :=
  match p.cursor.next with
  | none => false
  | some ch =>
      !(isGap (some ch) || "-?:,[]\x7b\x7d#&*!|>'\"%@\x60".toList.contains ch) ||
        (!isGap p.cursor.second && (ch == '-' || (!p.inFlow && (ch == '?' || ch == ':'))))

/-- The next lexeme, chosen by the character it begins with. -/
def advance (p : Progress) (ch : Char) : Except Failure Progress :=
  let gap := isGap p.cursor.second
  let atMargin := p.cursor.column == 0
  if ch = '%' ∧ atMargin then do
    let p ← p.leaveDocument
    let (l, c) ← Directive.read p.cursor
    return p.putAt l c
  else if atMargin ∧ p.cursor.atMark '-' then p.separator .documentStart
  else if atMargin ∧ p.cursor.atMark '.' then p.separator .documentEnd
  else if ch = '[' then p.openFlow .flowSequenceStart
  else if ch = '\x7b' then p.openFlow .flowMappingStart
  else if ch = ']' then p.closeFlow .flowSequenceEnd
  else if ch = '\x7d' then p.closeFlow .flowMappingEnd
  else if ch = ',' then p.flowEntry
  else if ch = '-' ∧ gap then p.blockEntry
  else if ch = '?' ∧ (p.inFlow ∨ gap) then p.explicitKey
  else if ch = ':' ∧ (p.inFlow ∨ gap) then p.valueMark
  else if ch = '*' then p.atPlace (named .alias)
  else if ch = '&' then p.atPlace (named .anchor)
  else if ch = '!' then p.atPlace Tag.read
  else if ch = '|' ∧ !p.inFlow then p.block false
  else if ch = '>' ∧ !p.inFlow then p.block true
  else if ch = '\'' ∨ ch = '"' then p.atPlace (quoted ch)
  else if p.startsPlain then p.plain
  else .error .malformed

/-- The state behind the next lexeme, and whether the text goes on there. -/
def following (p : Progress) : Except Failure (Progress × Bool) := do
  let p ← (toNext (p.cursor.rest.length + 1) p).dropStale
  let p := p.unwind p.cursor.column
  match p.cursor.next with
  | none => return ((← p.leaveDocument).put .streamEnd, false)
  | some ch => return (← p.advance ch, true)

end Progress

/-- The lexemes that were found, and the failure of asking for more. -/
structure Lexed where
  found : List Lexeme
  ending : Failure

namespace Progress

/-- All lexemes from here on. Nothing follows the end of the text. -/
def run : Nat → Progress → Lexed
  | 0, p => ⟨p.settled, .malformed⟩
  | fuel + 1, p =>
      match p.following with
      | .ok (p, true) => run fuel p
      | .ok (p, false) => ⟨p.found.toList, .malformed⟩
      | .error failure => ⟨p.settled, failure⟩

end Progress

/-- The lexemes of a text. -/
def lexemes (text : String) : Lexed :=
  let cs := text.toList
  if cs.all isAllowed then
    let cs := if cs.head? = some '\ufeff' then cs.tail else cs
    (Progress.start cs).run (cs.length + 1)
  else ⟨[], .malformed⟩

end Bindery.Yaml
