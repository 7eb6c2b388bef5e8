import Bindery.Decimal.Read
import Bindery.Value

/-!
# Reading JSON

The reader has one function for each symbol of the grammar. It takes the characters that are left
and gives a value with the characters after it, or a failure. A failure knows how many characters
were left where it arose; its line and column are counted in the whole text afterwards.

Besides the standard's forms, `NaN`, `Infinity` and `-Infinity` are numbers. A key that is repeated
keeps its first place and takes its last value.
-/

namespace Bindery.Json

/-! ## Failures -/

/-- What the reader missed or met. -/
inductive Cause where
  | expectedValue
  | expectedName
  | expectedColon
  | expectedComma
  | unterminated
  | control
  | badEscape
  | badUnicodeEscape
  | extraData
  | byteOrderMark
  /-- A whole number with more digits than a reader accepts. -/
  | longNumber
deriving DecidableEq, Repr

def Cause.message : Cause → String
  | expectedValue => "Expecting value"
  | expectedName => "Expecting property name enclosed in double quotes"
  | expectedColon => "Expecting ':' delimiter"
  | expectedComma => "Expecting ',' delimiter"
  | unterminated => "Unterminated string starting at"
  | control => "Invalid control character at"
  | badEscape => "Invalid \\escape"
  | badUnicodeEscape => "Invalid \\uXXXX escape"
  | extraData => "Extra data"
  | byteOrderMark => "Unexpected UTF-8 BOM (decode using utf-8-sig)"
  | longNumber => "Exceeds the limit for integer string conversion"

/-- A failure, placed by the number of characters from it to the end of the text. -/
structure Failure where
  cause : Cause
  left : Nat
deriving DecidableEq, Repr

/-- A failure, placed in its text. Lines and columns count from one, the offset from zero. -/
structure Error where
  cause : Cause
  line : Nat
  column : Nat
  offset : Nat
deriving DecidableEq, Repr

/-- The cause and the place in words. -/
def Error.message (e : Error) : String :=
  e.cause.message ++ ": line " ++ toString e.line ++ " column " ++ toString e.column ++
    " (char " ++ toString e.offset ++ ")"

/-- Places a failure in the text it arose in. -/
def Failure.place (f : Failure) (cs : List Char) : Error :=
  let offset := cs.length - f.left
  let before := cs.take offset
  let column := (before.reverse.takeWhile (· ≠ '\n')).length + 1
  ⟨f.cause, before.count '\n' + 1, column, offset⟩

/-- A step of the reader gives what it read and the characters that are left. -/
abbrev Step (α : Type) := Except Failure (α × List Char)

/-- Fails before the characters that are left. -/
def failAt {α : Type} (cause : Cause) (left : List Char) : Except Failure α :=
  .error ⟨cause, left.length⟩

/-! ## Space and texts -/

/-- The four characters that may stand between symbols. -/
def isSpace (c : Char) : Bool := c == ' ' || c == '\t' || c == '\n' || c == '\r'

/-- The characters without the space before the next symbol. -/
def skip (cs : List Char) : List Char := cs.dropWhile isSpace

/-- The value of a hexadecimal digit. -/
def hexDigit? (c : Char) : Option Nat :=
  if '0' ≤ c ∧ c ≤ '9' then some (c.toNat - '0'.toNat)
  else if 'a' ≤ c ∧ c ≤ 'f' then some (c.toNat - 'a'.toNat + 10)
  else if 'A' ≤ c ∧ c ≤ 'F' then some (c.toNat - 'A'.toNat + 10)
  else none

/-- The number that four hexadecimal digits stand for. -/
def unit? (a b c d : Char) : Option Nat := do
  let a ← hexDigit? a
  let b ← hexDigit? b
  let c ← hexDigit? c
  let d ← hexDigit? d
  return ((a * 16 + b) * 16 + c) * 16 + d

/-- The character that a letter after a backslash stands for. -/
def letterEscape? : Char → Option Char
  | '"' => some '"'
  | '\\' => some '\\'
  | '/' => some '/'
  | 'b' => some '\x08'
  | 'f' => some '\x0c'
  | 'n' => some '\n'
  | 'r' => some '\r'
  | 't' => some '\t'
  | _ => none

/-- Joins the two halves of a character beyond the first plane. A half that stands alone is no
character, and reads as NUL. -/
def ofUnits : List Nat → List Char
  | [] => []
  | high :: low :: rest =>
      if 0xD800 ≤ high ∧ high < 0xDC00 ∧ 0xDC00 ≤ low ∧ low < 0xE000 then
        Char.ofNat (0x10000 + (high - 0xD800) * 0x400 + (low - 0xDC00)) :: ofUnits rest
      else Char.ofNat high :: ofUnits (low :: rest)
  | [n] => [Char.ofNat n]

/-- Reads a text behind its opening quote, from which `opened` characters were left. -/
def textBody (opened : Nat) (units : List Nat) : List Char → Step String
  | [] => .error ⟨.unterminated, opened⟩
  | '"' :: rest => .ok (String.ofList (ofUnits units.reverse), rest)
  | '\\' :: 'u' :: a :: b :: c :: d :: next :: rest =>
      match unit? a b c d with
      | some n => textBody opened (n :: units) (next :: rest)
      | none => failAt .badUnicodeEscape ('u' :: a :: b :: c :: d :: next :: rest)
  | '\\' :: 'u' :: rest => failAt .badUnicodeEscape ('u' :: rest)
  | '\\' :: e :: rest =>
      match letterEscape? e with
      | some c => textBody opened (c.toNat :: units) rest
      | none => failAt .badEscape ('\\' :: e :: rest)
  | ['\\'] => .error ⟨.unterminated, opened⟩
  | c :: rest =>
      if c.toNat < 32 then failAt .control (c :: rest)
      else textBody opened (c.toNat :: units) rest

/-! ## Numbers -/

/-- The digits at the front. -/
def digits (cs : List Char) : List Char := cs.takeWhile Decimal.isDigit

/-- What is left after the digits at the front. -/
def afterDigits (cs : List Char) : List Char := cs.dropWhile Decimal.isDigit

/-- The digits of a fraction: a point counts only with a digit behind it. -/
def fraction : List Char → List Char × List Char
  | '.' :: rest =>
      if (digits rest).isEmpty then ([], '.' :: rest) else (digits rest, afterDigits rest)
  | cs => ([], cs)

/-- The exponent: its letter counts only with a digit behind it or behind its sign. -/
def exponent (cs : List Char) : Option Int × List Char :=
  let signed : List Char → Option (Bool × List Char)
    | 'e' :: '-' :: rest | 'E' :: '-' :: rest => some (true, rest)
    | 'e' :: '+' :: rest | 'E' :: '+' :: rest => some (false, rest)
    | 'e' :: rest | 'E' :: rest => some (false, rest)
    | _ => none
  match signed cs with
  | some (negative, rest) =>
      if (digits rest).isEmpty then (none, cs)
      else
        let n : Int := Decimal.natOf (digits rest)
        (some (if negative then -n else n), afterDigits rest)
  | none => (none, cs)

/-- Reads a number behind its sign; `start` is where it began. -/
def unsigned (negative : Bool) (start cs : List Char) : Step Value :=
  let whole := match cs with
    | '0' :: _ => ['0']
    | _ => digits cs
  if whole.isEmpty then failAt .expectedValue start
  else
    let rest := cs.drop whole.length
    let (places, afterPlaces) := fraction rest
    let (power, left) := exponent afterPlaces
    if places.isEmpty && power.isNone then
      if Decimal.digitLimit < whole.length then failAt .longNumber start
      else
        let n : Int := Decimal.natOf whole
        .ok (.int (if negative then -n else n), left)
    else
      let x := Decimal.read whole places (power.getD 0)
      .ok (.float (if negative then -x else x), left)

/-- Reads a number. -/
def number : List Char → Step Value
  | '-' :: rest => unsigned true ('-' :: rest) rest
  | cs => unsigned false cs cs

/-! ## Values -/

mutual

/-- Reads a value; the first character is its own. -/
def value : Nat → List Char → Except Failure (Value × List Char)
  | 0, cs => failAt .expectedValue cs
  | fuel + 1, cs =>
      match cs with
      | [] => failAt .expectedValue []
      | '"' :: rest => do
          let (s, left) ← textBody cs.length [] rest
          return (.string s, left)
      | '\x7b' :: rest =>
          match skip rest with
          | '\x7d' :: left => .ok (.map [], left)
          | inner => entries fuel [] inner
      | '[' :: rest =>
          match skip rest with
          | ']' :: left => .ok (.list [], left)
          | inner => items fuel [] inner
      | 'n' :: 'u' :: 'l' :: 'l' :: left => .ok (.null, left)
      | 't' :: 'r' :: 'u' :: 'e' :: left => .ok (.bool true, left)
      | 'f' :: 'a' :: 'l' :: 's' :: 'e' :: left => .ok (.bool false, left)
      | 'N' :: 'a' :: 'N' :: left => .ok (.float (0.0 / 0.0), left)
      | 'I' :: 'n' :: 'f' :: 'i' :: 'n' :: 'i' :: 't' :: 'y' :: left =>
          .ok (.float (1.0 / 0.0), left)
      | '-' :: 'I' :: 'n' :: 'f' :: 'i' :: 'n' :: 'i' :: 't' :: 'y' :: left =>
          .ok (.float (-1.0 / 0.0), left)
      | _ => number cs

/-- Reads the items of a list that has at least one; `before` are those already read, last first. -/
def items : Nat → List Value → List Char → Except Failure (Value × List Char)
  | 0, _, cs => failAt .expectedValue cs
  | fuel + 1, before, cs => do
      let (v, left) ← value fuel cs
      match skip left with
      | ']' :: rest => return (.list (v :: before).reverse, rest)
      | ',' :: rest => items fuel (v :: before) (skip rest)
      | other => failAt .expectedComma other

/-- Reads the entries of a mapping that has at least one; `before` are those already read, last
first. -/
def entries : Nat → List (Value × Value) → List Char → Except Failure (Value × List Char)
  | 0, _, cs => failAt .expectedValue cs
  | fuel + 1, before, cs =>
      match cs with
      | '"' :: afterQuote => do
          let (name, left) ← textBody cs.length [] afterQuote
          match skip left with
          | ':' :: rest => do
              let (v, left) ← value fuel (skip rest)
              let read := (.string name, v) :: before
              match skip left with
              | '\x7d' :: rest => return (Value.ofEntries read.reverse, rest)
              | ',' :: rest => entries fuel read (skip rest)
              | other => failAt .expectedComma other
          | other => failAt .expectedColon other
      | _ => failAt .expectedName cs

end

/-- Reads one value with nothing but space around it. -/
def document (cs : List Char) : Except Failure Value :=
  if cs.head? = some '\ufeff' then failAt .byteOrderMark cs
  else do
    let (v, left) ← value (2 * cs.length + 2) (skip cs)
    match skip left with
    | [] => return v
    | extra => failAt .extraData extra

/-- The value that a text writes down. -/
def read (text : String) : Except Error Value :=
  (document text.toList).mapError fun failure => failure.place text.toList

end Bindery.Json
