import Bindery.Decimal.Read
import Bindery.Yaml.Cursor

/-!
# Scalar texts

A scalar stands between quotes, as a block below its indicator, or plain. Inside quotes and plain
text a line end is folded: a single one becomes a space, and of several the first one is dropped. A
literal block keeps its line ends and a folded one folds them between lines that are not indented
further.

The readers count down the characters that are left, which bounds their loops.
-/

namespace Bindery.Yaml

/-- A line end of folded text before the breaks that follow it. -/
def foldBreak (first : Char) (more : List Char) : List Char :=
  (if first ≠ '\n' then [first] else if more.isEmpty then [' '] else []) ++ more

/-! ## Plain text -/

namespace Plain

/-- The characters up to a gap, a colon before a gap or, in flow context, an indicator. -/
def word (flow : Bool) : List Char → List Char
  | [] => []
  | c :: rest =>
      if isGap (some c) then []
      else if c = ':' ∧ (isGap rest.head? ∨
          (flow ∧ (rest.head?.any fun d => ",[]\x7b\x7d".toList.contains d))) then []
      else if flow ∧ ",?[]\x7b\x7d".toList.contains c then []
      else c :: word flow rest

/-- The line ends and spaces between two lines; none if a mark between documents follows. -/
def breaks : Nat → Cursor → List Char → Option (List Char) × Cursor
  | 0, c, found => (some found, c)
  | fuel + 1, c, found =>
      if c.next = some ' ' then breaks fuel c.step found
      else match c.lineBreak? with
        | some (br, c) =>
            if c.atSeparator then (none, c) else breaks fuel c (found ++ [br])
        | none => (some found, c)

/-- What stands between two words: its text, whether it holds a line end, and the cursor behind it.
-/
def gap (c : Cursor) : List Char × Bool × Cursor :=
  let (spaces, c) := c.span (· = ' ')
  match c.lineBreak? with
  | none => (spaces, false, c)
  | some (br, c) =>
      if c.atSeparator then ([], true, c)
      else match breaks (c.rest.length + 1) c [] with
        | (none, c) => ([], true, c)
        | (some more, c) => (foldBreak br more, true, c)

/-- Reads words as long as they belong to the scalar; `between` stands before the next one. -/
def words (flow : Bool) (indent : Int) :
    Nat → Cursor → (text between : List Char) → (broken : Bool) →
    List Char × Bool × Cursor
  | 0, c, text, _, broken => (text, broken, c)
  | fuel + 1, c, text, between, broken =>
      let found := word flow c.rest
      if c.next = some '#' ∨ found.isEmpty then (text, broken, c)
      else
        let text := text ++ between ++ found
        let (between, broken, c) := gap (c.skip found.length)
        if between.isEmpty ∨ c.next = some '#' ∨ (!flow ∧ (c.column : Int) < indent) then
          (text, broken, c)
        else words flow indent fuel c text between broken

/-- Reads a plain scalar: its text, whether a line ended behind it, and the cursor behind it. -/
def read (flow : Bool) (indent : Int) (c : Cursor) : String × Bool × Cursor :=
  let (text, broken, c) := words flow (indent + 1) (c.rest.length + 1) c [] [] false
  (String.ofList text, broken, c)

end Plain

/-! ## Quoted text -/

namespace Quoted

/-- What a letter after a backslash stands for. -/
def escape? : Char → Option Char
  | '0' => some '\x00'
  | 'a' => some '\x07'
  | 'b' => some '\x08'
  | 't' => some '\t'
  | '\t' => some '\t'
  | 'n' => some '\n'
  | 'v' => some '\x0b'
  | 'f' => some '\x0c'
  | 'r' => some '\r'
  | 'e' => some '\x1b'
  | ' ' => some ' '
  | '"' => some '"'
  | '\\' => some '\\'
  | '/' => some '/'
  | 'N' => some '\x85'
  | '_' => some '\xa0'
  | 'L' => some '\u2028'
  | 'P' => some '\u2029'
  | _ => none

/-- How many digits follow a letter after a backslash. -/
def escapeWidth? : Char → Option Nat
  | 'x' => some 2
  | 'u' => some 4
  | 'U' => some 8
  | _ => none

def isHexDigit (c : Char) : Bool :=
  c.isDigit || ('a' ≤ c && c ≤ 'f') || ('A' ≤ c && c ≤ 'F')

/-- The character of a number, which has to fit into 31 bits. A half of a character reads as NUL. -/
def charOf (n : Nat) : Except Failure Char :=
  if 0x7FFFFFFF < n then .error (.fault (.value .tooLarge))
  else if 0x10FFFF < n then .error (.fault (.value .noCharacter))
  else .ok (Char.ofNat n)

/-- Blanks and line ends at the start of a line inside quotes. -/
def breaks : Nat → Cursor → List Char → Except Failure (List Char × Cursor)
  | 0, c, found => .ok (found, c)
  | fuel + 1, c, found =>
      if c.atSeparator then .error .malformed
      else
        let c := c.dropWhile fun ch => ch = ' ' || ch = '\t'
        match c.lineBreak? with
        | some (br, c) => breaks fuel c (found ++ [br])
        | none => .ok (found, c)

/-- Reads what stands between quotes, and the closing quote. -/
def body (quote : Char) : Nat → Cursor → String → Except Failure (String × Cursor)
  | 0, _, _ => .error .malformed
  | fuel + 1, c, text =>
      match c.rest with
      | [] => .error .malformed
      | ch :: rest =>
          if ch = quote then
            if quote = '\'' ∧ rest.head? = some '\'' then
              body quote fuel (c.skip 2) (text.push '\'')
            else .ok (text, c.step)
          else if ch = ' ' ∨ ch = '\t' ∨ isBreak ch then do
            let (blanks, c) := c.span fun ch => ch = ' ' || ch = '\t'
            match c.lineBreak? with
            | some (br, c) =>
                let (more, c) ← breaks (c.rest.length + 1) c []
                body quote fuel c (text ++ String.ofList (foldBreak br more))
            | none => body quote fuel c (text ++ String.ofList blanks)
          else if quote = '"' ∧ ch = '\\' then
            match rest with
            | [] => .error .malformed
            | letter :: digits =>
                match escape? letter, escapeWidth? letter with
                | some meant, _ => body quote fuel (c.skip 2) (text.push meant)
                | none, some width =>
                    let code := digits.take width
                    if code.length = width ∧ code.all isHexDigit then do
                      let meant ← charOf (Decimal.natOfBase 16 code)
                      body quote fuel (c.skip (2 + width)) (text.push meant)
                    else .error .malformed
                | none, none =>
                    match c.step.lineBreak? with
                    | some (_, c) => do
                        let (more, c) ← breaks (c.rest.length + 1) c []
                        body quote fuel c (text ++ String.ofList more)
                    | none => .error .malformed
          else body quote fuel c.step (text.push ch)

/-- Reads a quoted scalar that begins with the next character. -/
def read (quote : Char) (c : Cursor) : Except Failure (String × Cursor) :=
  body quote (c.rest.length + 1) c.step ""

end Quoted

/-! ## Blocks -/

namespace Block

/-- What happens to the line ends behind the last line of a block. -/
inductive Chomping where
  | clip
  | strip
  | keep
deriving DecidableEq

def chomping? : Option Char → Option Chomping
  | some '+' => some .keep
  | some '-' => some .strip
  | _ => none

def digit? (c : Option Char) : Option Nat :=
  match c with
  | some d => if d.isDigit then some (d.toNat - '0'.toNat) else none
  | none => none

/-- The indicators behind the sign of a block: the chomping and the indentation, in either order. -/
def indicators (c : Cursor) : Except Failure (Chomping × Option Nat × Cursor) :=
  let (chomping, increment, c) :=
    match chomping? c.next with
    | some chomping =>
        match digit? c.step.next with
        | some n => (chomping, some n, c.skip 2)
        | none => (chomping, none, c.step)
    | none =>
        match digit? c.next with
        | some n =>
            match chomping? c.step.next with
            | some chomping => (chomping, some n, c.skip 2)
            | none => (.clip, some n, c.step)
        | none => (.clip, none, c)
  if increment = some 0 ∨ !endsWord c.next then .error .malformed else .ok (chomping, increment, c)

/-- Empty lines before a block whose indentation is not given: their line ends and the widest column
reached. -/
def leading : Nat → Cursor → List Char → Nat → List Char × Nat × Cursor
  | 0, c, found, widest => (found, widest, c)
  | fuel + 1, c, found, widest =>
      if c.next = some ' ' then
        let c := c.step
        leading fuel c found (max widest c.column)
      else match c.lineBreak? with
        | some (br, c) => leading fuel c (found ++ [br]) widest
        | none => (found, widest, c)

/-- Spaces up to a column. -/
def indentTo (indent : Int) : Nat → Cursor → Cursor
  | 0, c => c
  | fuel + 1, c =>
      if (c.column : Int) < indent ∧ c.next = some ' ' then indentTo indent fuel c.step else c

/-- Empty lines inside or behind a block. -/
def breaks (indent : Int) : Nat → Cursor → List Char → List Char × Cursor
  | 0, c, found => (found, c)
  | fuel + 1, c, found =>
      let c := indentTo indent (c.rest.length + 1) c
      match c.lineBreak? with
      | some (br, c) => breaks indent fuel c (found ++ [br])
      | none => (found, c)

/-- The text of a block's lines, the end of its last line and the line ends behind that. -/
def lines (folded : Bool) (indent : Int) : Nat → Cursor → (text before : List Char) →
    List Char × List Char × List Char × Cursor
  | 0, c, text, before => (text, [], before, c)
  | fuel + 1, c, text, before =>
      let indented := c.next = some ' ' || c.next = some '\t'
      let (line, c) := c.span fun ch => !isBreak ch
      let text := text ++ before ++ line
      let (ending, c) := match c.lineBreak? with
        | some (br, c) => ([br], c)
        | none => ([], c)
      let (more, c) := breaks indent (c.rest.length + 1) c []
      if (c.column : Int) = indent ∧ c.next.isSome then
        let nextIndented := c.next = some ' ' || c.next = some '\t'
        let joint :=
          if folded ∧ ending = ['\n'] ∧ !indented ∧ !nextIndented then
            (if more.isEmpty then [' '] else [])
          else ending
        lines folded indent fuel c (text ++ joint) more
      else (text, ending, more, c)

/-- Reads a block scalar below the indentation of its parent; the next character is its sign. -/
def read (folded : Bool) (parent : Int) (c : Cursor) : Except Failure (String × Cursor) := do
  let (chomping, increment, c) ← indicators c.step
  let c := c.dropComment
  if !endsLine c.next then .error .malformed
  else
    let c := c.dropBreak
    let least := max 1 (parent + 1)
    let (before, indent, c) :=
      match increment with
      | none =>
          let (before, widest, c) := leading (c.rest.length + 1) c [] 0
          (before, max least (widest : Int), c)
      | some n =>
          let indent := least + (n : Int) - 1
          let (before, c) := breaks indent (c.rest.length + 1) c []
          (before, indent, c)
    let (text, ending, more, c) :=
      if (c.column : Int) = indent ∧ c.next.isSome then
        lines folded indent (c.rest.length + 1) c [] before
      else ([], [], before, c)
    let tail := match chomping with
      | .strip => []
      | .clip => ending
      | .keep => ending ++ more
    return (String.ofList (text ++ tail), c)

end Block

end Bindery.Yaml
