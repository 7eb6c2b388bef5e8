import Bindery.Fault

/-!
# Cursors

A cursor stands before the characters of a YAML text that are left and knows its offset, its line
and its column. YAML lines end with a carriage return, a line feed, both, the next-line character or
one of the two separators; all but the separators read as a line feed.
-/

namespace Bindery.Yaml

/-- Why a YAML text cannot be loaded. -/
inductive Failure where
  /-- The text is no YAML, or what it says cannot be built. -/
  | malformed
  /-- A scalar whose type is certain has a text that does not fit the type. -/
  | fault (cause : Fault)

/-! ## Character classes -/

/-- Does the character end a line? -/
def isBreak (c : Char) : Bool :=
  c == '\r' || c == '\n' || c == '\x85' || c == '\u2028' || c == '\u2029'

/-- Is the next character, if any, a line end? -/
def endsLine : Option Char → Bool
  | none => true
  | some c => isBreak c

/-- Is the next character, if any, a space or a line end? -/
def endsWord : Option Char → Bool
  | none => true
  | some c => c == ' ' || isBreak c

/-- Is the next character, if any, a space, a tab or a line end? -/
def isGap : Option Char → Bool
  | none => true
  | some c => c == ' ' || c == '\t' || isBreak c

/-- May the character stand in the name of an anchor? -/
def isNameChar (c : Char) : Bool := c.isAlphanum || c == '-' || c == '_'

/-- May the character stand in a tag? -/
def isTagChar (c : Char) : Bool := c.isAlphanum || "-;/?:@&=+$,_.!~*'()[]%".toList.contains c

/-- May the character stand in a YAML text at all? -/
def isAllowed (c : Char) : Bool :=
  c == '\t' || c == '\n' || c == '\r' || c == '\x85' || (32 ≤ c.val && c.val ≤ 126) ||
    (0xA0 ≤ c.val && c.val ≤ 0xD7FF) || (0xE000 ≤ c.val && c.val ≤ 0xFFFD) || 0x10000 ≤ c.val

/-! ## Cursors -/

/-- A place in a text. -/
structure Cursor where
  rest : List Char
  offset : Nat
  line : Nat
  column : Nat

namespace Cursor

/-- The start of a text. -/
def start (cs : List Char) : Cursor := ⟨cs, 0, 0, 0⟩

/-- The next character. -/
def next (c : Cursor) : Option Char := c.rest.head?

/-- The character after the next one. -/
def second (c : Cursor) : Option Char := c.rest.tail.head?

/-- The cursor behind the next character. A byte-order mark has no width. -/
def step (c : Cursor) : Cursor :=
  match c.rest with
  | [] => c
  | ch :: rest =>
      if isBreak ch && !(ch == '\r' && rest.head? == some '\n') then
        ⟨rest, c.offset + 1, c.line + 1, 0⟩
      else ⟨rest, c.offset + 1, c.line, if ch = '\ufeff' then c.column else c.column + 1⟩

/-- The cursor behind a number of characters. -/
def skip (c : Cursor) : Nat → Cursor
  | 0 => c
  | n + 1 => c.step.skip n

/-- The characters as long as they belong to a class, and the cursor behind them. -/
def span (c : Cursor) (p : Char → Bool) : List Char × Cursor :=
  let taken := c.rest.takeWhile p
  (taken, c.skip taken.length)

/-- The cursor behind the characters of a class. -/
def dropWhile (c : Cursor) (p : Char → Bool) : Cursor := (c.span p).2

/-- The cursor behind spaces. -/
def dropSpaces (c : Cursor) : Cursor := c.dropWhile (· = ' ')

/-- The cursor before the end of the line. -/
def dropLine (c : Cursor) : Cursor := c.dropWhile fun ch => !isBreak ch

/-- The cursor behind spaces and the comment that may follow them. -/
def dropComment (c : Cursor) : Cursor :=
  let c := c.dropSpaces
  if c.next = some '#' then c.dropLine else c

/-- What a line end reads as, and the cursor behind it. -/
def lineBreak? (c : Cursor) : Option (Char × Cursor) :=
  match c.rest with
  | '\r' :: '\n' :: _ => some ('\n', c.skip 2)
  | ch :: _ =>
      if ch = '\u2028' ∨ ch = '\u2029' then some (ch, c.step)
      else if isBreak ch then some ('\n', c.step)
      else none
  | [] => none

/-- The cursor behind a line end, if one follows. -/
def dropBreak (c : Cursor) : Cursor :=
  match c.lineBreak? with
  | some (_, c) => c
  | none => c

/-- Does a mark of three characters follow, with a gap behind it? -/
def atMark (c : Cursor) (mark : Char) : Bool :=
  c.rest.take 3 == [mark, mark, mark] && isGap (c.rest.drop 3).head?

/-- Does a mark between documents follow? -/
def atSeparator (c : Cursor) : Bool := c.atMark '-' || c.atMark '.'

end Cursor

end Bindery.Yaml
