import Bindery.Decimal.Read
import Bindery.Fault
import Bindery.Text.Blank
import Bindery.Text.Lines
import Bindery.Text.Word

/-!
# Lexemes of templates

A template is text with tags in it: outputs, blocks, comments and raw stretches. A hyphen inside a
tag takes away the white space on its side. Before a block or a comment that begins its line the
indentation is taken away, unless a plus sign keeps it, and the line end right behind such a tag is
dropped.

One line end at the end of a template does not count.
-/

namespace Bindery.Template

/-- A lexeme. -/
inductive Lexeme where
  | text (s : String)
  | openOutput
  | closeOutput
  | openBlock
  | closeBlock
  | name (s : String)
  /-- A number or a text. -/
  | constant (v : Value)
  | sign (s : String)

abbrev Result (α : Type) := Except TemplateFault α

/-! ## Space around tags -/

/-- What a sign inside a tag does to the space on its side. -/
inductive Trim where
  | usual
  | strip
  | keep
deriving DecidableEq

/-- The sign at the start of a tag, and what follows it. -/
def trimSign : List Char → Trim × List Char
  | '-' :: rest => (.strip, rest)
  | '+' :: rest => (.keep, rest)
  | cs => (.usual, cs)

/-- The characters without white space at the end. -/
def dropBlankEnd (cs : List Char) : List Char := (cs.reverse.dropWhile Text.isBlank).reverse

/-- The characters without the last line if that is white space and begins a line. -/
def dropIndent (atLineStart : Bool) (cs : List Char) : List Char :=
  let last := cs.reverse.takeWhile (· ≠ '\n')
  let front := cs.take (cs.length - last.length)
  if last.all Text.isBlank && (!front.isEmpty || atLineStart) then front else cs

/-- The text before a tag. -/
def before (atLineStart isOutput : Bool) (trim : Trim) (cs : List Char) : List Char :=
  match trim with
  | .strip => dropBlankEnd cs
  | .keep => cs
  | .usual => if isOutput then cs else dropIndent atLineStart cs

/-- The lexeme of a text that is not empty. -/
def textOf (cs : List Char) : List Lexeme := if cs.isEmpty then [] else [.text (String.ofList cs)]

/-- White space that is dropped: whether it ends with a line end, and what follows it. -/
def dropSpace (cs : List Char) : Bool × List Char :=
  ((cs.takeWhile Text.isBlank).getLast? = some '\n', cs.dropWhile Text.isBlank)

/-- The end of a block or a comment, with what is dropped behind it: whether that ends with a line
end, and what follows. -/
def blockEnd? (close : Char) : List Char → Option (Bool × List Char)
  | '-' :: a :: '\x7d' :: rest => if a = close then some (dropSpace rest) else none
  | '+' :: a :: '\x7d' :: rest => if a = close then some (false, rest) else none
  | a :: '\x7d' :: rest =>
      if a = close then
        match rest with
        | '\n' :: rest => some (true, rest)
        | rest => some (false, rest)
      else none
  | _ => none

/-- The end of an output, with what is dropped behind it. -/
def outputEnd? : List Char → Option (Bool × List Char)
  | '-' :: '\x7d' :: '\x7d' :: rest => some (dropSpace rest)
  | '\x7d' :: '\x7d' :: rest => some (false, rest)
  | _ => none

/-! ## Raw stretches and comments -/

/-- A word at the start, and what follows it. -/
def word? (word : String) (cs : List Char) : Option (List Char) :=
  if word.toList.isPrefixOf cs then some (cs.drop word.length) else none

/-- The rest of a tag that opens a raw stretch, behind its percent sign. A line end behind the tag
stays. -/
def rawStart? (cs : List Char) : Option (Trim × Bool × List Char) := do
  let (trim, rest) := trimSign cs
  let rest ← word? "raw" (rest.dropWhile Text.isBlank)
  match rest.dropWhile Text.isBlank with
  | '-' :: '%' :: '\x7d' :: rest => let (broken, rest) := dropSpace rest; some (trim, broken, rest)
  | '%' :: '\x7d' :: rest => some (trim, false, rest)
  | _ => none

/-- A tag that ends a raw stretch. -/
def rawEnd? : List Char → Option (Trim × Bool × List Char)
  | '\x7b' :: '%' :: cs => do
      let (trim, rest) := trimSign cs
      let rest ← word? "endraw" (rest.dropWhile Text.isBlank)
      let (broken, rest) ← blockEnd? '%' (rest.dropWhile Text.isBlank)
      some (trim, broken, rest)
  | _ => none

/-- The text of a raw stretch, and its end. -/
def rawBody : List Char → List Char → Option (List Char × Trim × Bool × List Char)
  | found, [] => (rawEnd? []).map fun stop => (found.reverse, stop)
  | found, c :: rest =>
      match rawEnd? (c :: rest) with
      | some stop => some (found.reverse, stop)
      | none => rawBody (c :: found) rest

/-- What follows a comment. -/
def commentEnd : List Char → Option (Bool × List Char)
  | [] => none
  | c :: rest =>
      match blockEnd? '#' (c :: rest) with
      | some stop => some stop
      | none => commentEnd rest

/-! ## Inside tags -/

/-- Digits with single underscores between them, and what follows. -/
def digits : List Char → List Char × List Char
  | [] => ([], [])
  | c :: rest =>
      if c.isDigit then
        let (more, left) := digits rest
        (c :: more, left)
      else match c, rest with
        | '_', d :: _ => if d.isDigit then digits rest else ([], c :: rest)
        | _, _ => ([], c :: rest)

/-- An exponent, and what follows. -/
def exponent? : List Char → Option (Int × List Char)
  | e :: rest =>
      if e = 'e' ∨ e = 'E' then
        let (negative, rest) := match rest with
          | '-' :: more => (true, more)
          | '+' :: more => (false, more)
          | more => (false, more)
        match rest with
        | d :: _ =>
            if d.isDigit then
              let (found, rest) := digits rest
              let n : Int := Decimal.natOf found
              some (if negative then -n else n, rest)
            else none
        | [] => none
      else none
  | [] => none

/-- A number, and what follows. -/
def number (cs : List Char) : Value × List Char :=
  let (whole, rest) := digits cs
  let fraction? := match rest with
    | '.' :: d :: _ => if d.isDigit then some (digits rest.tail) else none
    | _ => none
  match fraction? with
  | some (fraction, rest) =>
      match exponent? rest with
      | some (e, rest) => (.float (Decimal.read whole fraction e), rest)
      | none => (.float (Decimal.read whole fraction 0), rest)
  | none =>
      match exponent? rest with
      | some (e, rest) => (.float (Decimal.read whole [] e), rest)
      | none =>
          if whole.head? = some '0' ∧ !whole.all (· = '0') then
            (.int 0, cs.dropWhile fun c => c = '0')
          else (.int (Decimal.natOf whole), rest)

/-- The digits of a numbered character. -/
def numbered (width : Nat) (cs : List Char) : Option (Char × List Char) :=
  let code := cs.take width
  let n := Decimal.natOfBase 16 code
  let isHex := fun (c : Char) => c.isDigit || ('a' ≤ c && c ≤ 'f') || ('A' ≤ c && c ≤ 'F')
  if code.length = width ∧ code.all isHex ∧ n < 0x110000 then some (Char.ofNat n, cs.drop width)
  else none

/-- The characters that a backslash and what follows it stand for. -/
def escaped : List Char → Option (List Char × List Char)
  | 'n' :: rest => some (['\n'], rest)
  | 't' :: rest => some (['\t'], rest)
  | 'r' :: rest => some (['\r'], rest)
  | 'a' :: rest => some (['\x07'], rest)
  | 'b' :: rest => some (['\x08'], rest)
  | 'f' :: rest => some (['\x0c'], rest)
  | 'v' :: rest => some (['\x0b'], rest)
  | '\n' :: rest => some ([], rest)
  | 'x' :: rest => (numbered 2 rest).map fun (c, rest) => ([c], rest)
  | 'u' :: rest => (numbered 4 rest).map fun (c, rest) => ([c], rest)
  | 'U' :: rest => (numbered 8 rest).map fun (c, rest) => ([c], rest)
  | c :: rest =>
      if c = '\\' ∨ c = '\'' ∨ c = '"' then some ([c], rest)
      else if '0' ≤ c ∧ c ≤ '7' then
        let code := ((c :: rest).take 3).takeWhile fun d => '0' ≤ d && d ≤ '7'
        some ([Char.ofNat (Decimal.natOfBase 8 code)], (c :: rest).drop code.length)
      else some (['\\', c], rest)
  | [] => none

/-- The text between quotes, and what follows the closing one. -/
def quotedText (quote : Char) : Nat → List Char → List Char → Option (String × List Char)
  | 0, _, _ => none
  | _, _, [] => none
  | fuel + 1, found, c :: rest =>
      if c = quote then some (String.ofList found.reverse, rest)
      else if c = '\\' then do
        let (meant, rest) ← escaped rest
        quotedText quote fuel (meant.reverse ++ found) rest
      else quotedText quote fuel (c :: found) rest

/-- Signs of two characters. -/
def longSigns : List String := ["//", "**", "==", "!=", ">=", "<="]

/-- Signs of one character. -/
def shortSigns : List Char := "+-/*%~[]()\x7b\x7d><=.:|,;".toList

/-- The closing bracket that an opening one needs. -/
def closing? : Char → Option Char
  | '(' => some ')'
  | '[' => some ']'
  | '\x7b' => some '\x7d'
  | _ => none

/-- The brackets that are open behind a sign. -/
def balance (c : Char) (opened : List Char) : Result (List Char) :=
  match closing? c with
  | some close => .ok (close :: opened)
  | none =>
      if c = ')' ∨ c = ']' ∨ c = '\x7d' then
        match opened with
        | close :: opened => if close = c then .ok opened else .error .badForm
        | [] => .error .badForm
      else .ok opened

/-- One lexeme inside a tag: the lexeme, the brackets that are open behind it, and what follows. -/
def inner (opened : List Char) (c : Char) (rest : List Char) :
    Result (Lexeme × List Char × List Char) :=
  if c.isDigit then
    let (v, rest) := number (c :: rest)
    .ok (.constant v, opened, rest)
  else if Text.isWord c then
    let name := String.ofList (c :: rest.takeWhile Text.isWord)
    .ok (.name name, opened, rest.dropWhile Text.isWord)
  else if c = '\'' ∨ c = '"' then
    match quotedText c (rest.length + 1) [] rest with
    | some (s, rest) => .ok (.constant (.string s), opened, rest)
    | none => .error .badForm
  else
    match longSigns.find? fun s => s.toList.isPrefixOf (c :: rest) with
    | some s => .ok (.sign s, opened, rest.drop 1)
    | none =>
        if shortSigns.contains c then do
          return (.sign (String.singleton c), ← balance c opened, rest)
        else .error .badForm

/-! ## Whole templates -/

/-- A tag in a text. -/
inductive Opening where
  | output
  | block
  | comment
  | raw (broken : Bool)

/-- The first tag of a text: what stands before it, its kind, its sign and what follows. -/
def firstTag : List Char → List Char → Option (List Char × Opening × Trim × List Char)
  | _, [] => none
  | found, c :: rest =>
      match c, rest with
      | '\x7b', '\x7b' :: more =>
          let (trim, more) := trimSign more
          some (found.reverse, .output, trim, more)
      | '\x7b', '#' :: more =>
          let (trim, more) := trimSign more
          some (found.reverse, .comment, trim, more)
      | '\x7b', '%' :: more =>
          match rawStart? more with
          | some (trim, broken, more) => some (found.reverse, .raw broken, trim, more)
          | none =>
              let (trim, more) := trimSign more
              some (found.reverse, .block, trim, more)
      | _, _ => firstTag (c :: found) rest

mutual

/-- The lexemes of a text; `fuel` bounds the characters that are left. -/
def outside : Nat → (atLineStart : Bool) → List Char → Result (List Lexeme)
  | 0, _, _ => .ok []
  | fuel + 1, atLineStart, cs =>
      match firstTag [] cs with
      | none => .ok (textOf cs)
      | some (front, opening, trim, rest) =>
          let isOutput := match opening with
            | .output => true
            | _ => false
          let front := textOf (before atLineStart isOutput trim front)
          match opening with
          | .output => do return front ++ .openOutput :: (← inside true [] fuel rest)
          | .block => do return front ++ .openBlock :: (← inside false [] fuel rest)
          | .comment =>
              match commentEnd rest with
              | some (broken, rest) => do return front ++ (← outside fuel broken rest)
              | none => if rest.isEmpty then .ok front else .error .badForm
          | .raw broken =>
              match rawBody [] rest with
              | some (text, trim, brokenAfter, rest) => do
                  return front ++ textOf (before broken false trim text) ++
                    (← outside fuel brokenAfter rest)
              | none => if rest.isEmpty then .ok front else .error .badForm

/-- The lexemes of a tag and of what follows it; `opened` are the brackets that are open. -/
def inside (isOutput : Bool) (opened : List Char) : Nat → List Char → Result (List Lexeme)
  | 0, _ => .ok []
  | fuel + 1, cs =>
      let stop :=
        if opened.isEmpty then (if isOutput then outputEnd? cs else blockEnd? '%' cs) else none
      match stop, cs with
      | some (broken, rest), _ => do
          return (if isOutput then .closeOutput else .closeBlock) :: (← outside fuel broken rest)
      | none, [] => .ok []
      | none, c :: rest =>
          if Text.isBlank c then inside isOutput opened fuel rest
          else do
            let (lexeme, opened, rest) ← inner opened c rest
            return lexeme :: (← inside isOutput opened fuel rest)

end

/-- The text without one line end at its end. -/
def dropFinalFeed (cs : List Char) : List Char :=
  if cs.getLast? = some '\n' then cs.dropLast else cs

/-- The lexemes of a template. -/
def lexemes (source : String) : Result (List Lexeme) :=
  let cs := dropFinalFeed (Text.feeds source.toList)
  outside (cs.length + 1) true cs

end Bindery.Template
