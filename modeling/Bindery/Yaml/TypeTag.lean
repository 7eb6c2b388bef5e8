import Bindery.Yaml.Cursor

/-!
# Type tags

Every YAML node has a type. A tag names it; without one a collection is a plain sequence or mapping,
a quoted scalar is a text, and a plain scalar is of the first type whose forms its text has.
-/

namespace Bindery.Yaml

/-- The types that values can be built of, and those with a meaning inside mappings. -/
inductive TypeTag where
  | null
  | truth
  | int
  | float
  | timestamp
  | binary
  | text
  | sequence
  | mapping
  | set
  | orderedMapping
  | pairs
  /-- The key whose mappings are merged into the mapping around it. -/
  | merge
  /-- The key whose value a mapping has as a scalar. -/
  | default
  | unknown
deriving DecidableEq, Repr

/-- What the tags of YAML itself begin with. -/
def ownTags : String := "tag:yaml.org,2002:"

namespace TypeTag

/-- The type that a tag names. -/
def ofTag (tag : String) : TypeTag :=
  let known :=
    [("null", null), ("bool", truth), ("int", int), ("float", float), ("timestamp", timestamp),
      ("binary", binary), ("str", text), ("seq", sequence), ("map", mapping), ("set", set),
      ("omap", orderedMapping), ("pairs", pairs), ("merge", merge), ("value", default)]
  ((known.find? fun pair => ownTags ++ pair.1 == tag).map Prod.snd).getD unknown

/-! ## Forms of numbers -/

/-- The characters without a sign at the start. -/
def unsigned : List Char → List Char
  | '+' :: rest => rest
  | '-' :: rest => rest
  | cs => cs

def isDigitOrLine (c : Char) : Bool := c.isDigit || c == '_'

/-- Nothing, or the exponent of a float: its sign is required. -/
def isExponent : List Char → Bool
  | [] => true
  | e :: sign :: digits =>
      (e == 'e' || e == 'E') && (sign == '+' || sign == '-') && !digits.isEmpty &&
        digits.all Char.isDigit
  | _ => false

/-- Parts of a number in base sixty; `last` tells what may follow the parts. -/
def isSixties (last : List Char → Bool) : Nat → List Char → Bool
  | 0, _ => false
  | fuel + 1, cs =>
      match cs with
      | ':' :: a :: b :: rest =>
          if '0' ≤ a ∧ a ≤ '5' ∧ b.isDigit then last rest || isSixties last fuel rest
          else a.isDigit && (last (b :: rest) || isSixties last fuel (b :: rest))
      | [':', a] => a.isDigit && last []
      | _ => false

/-- Does a text have a form of a whole number? -/
def isInt (cs : List Char) : Bool :=
  match unsigned cs with
  | ['0'] => true
  | '0' :: 'b' :: rest => !rest.isEmpty && rest.all fun c => c == '0' || c == '1' || c == '_'
  | '0' :: 'x' :: rest =>
      !rest.isEmpty && rest.all fun c =>
        c.isDigit || ('a' ≤ c && c ≤ 'f') || ('A' ≤ c && c ≤ 'F') || c == '_'
  | '0' :: rest => rest.all fun c => ('0' ≤ c && c ≤ '7') || c == '_'
  | c :: rest =>
      c.isDigit &&
        (let more := rest.dropWhile isDigitOrLine
         more.isEmpty || isSixties List.isEmpty more.length more)
  | [] => false

/-- A point, digits and an exponent. -/
def isFraction (exponent : Bool) : List Char → Bool
  | '.' :: rest =>
      let more := rest.dropWhile isDigitOrLine
      more.isEmpty || (exponent && isExponent more)
  | _ => false

/-- Does a text have a form of a float? -/
def isFloat (cs : List Char) : Bool :=
  let body := unsigned cs
  let word := String.ofList body
  if word = ".inf" ∨ word = ".Inf" ∨ word = ".INF" then true
  else match body with
    | '.' :: _ =>
        let word := String.ofList cs
        word = ".nan" || word = ".NaN" || word = ".NAN" ||
          (match cs with
            | '.' :: d :: _ => d.isDigit && isFraction true cs
            | _ => false)
    | d :: rest =>
        d.isDigit &&
          (let more := rest.dropWhile isDigitOrLine
           isFraction true more || isSixties (isFraction false) more.length more)
    | [] => false

/-! ## Forms of moments -/

/-- The parts of a moment as they are written; `zone` is present where a zone is, with its sign,
hours and minutes unless it is universal time. -/
structure Stamp where
  year : List Char
  month : List Char
  day : List Char
  time : Option (List Char × List Char × List Char)
  fraction : List Char
  zone : Option (Option (Char × List Char × List Char))

/-- Up to two digits, of which there has to be one. -/
def oneOrTwo : List Char → Option (List Char × List Char)
  | a :: b :: rest =>
      if a.isDigit then (if b.isDigit then some ([a, b], rest) else some ([a], b :: rest)) else none
  | [a] => if a.isDigit then some ([a], []) else none
  | [] => none

/-- Exactly two digits. -/
def two : List Char → Option (List Char × List Char)
  | a :: b :: rest => if a.isDigit ∧ b.isDigit then some ([a, b], rest) else none
  | _ => none

/-- A certain character. -/
def literally (c : Char) : List Char → Option (List Char)
  | d :: rest => if d = c then some rest else none
  | [] => none

def isBlankOrTab (c : Char) : Bool := c == ' ' || c == '\t'

/-- A zone, which ends the text. -/
def zone? (cs : List Char) : Option (Option (Char × List Char × List Char)) :=
  match cs with
  | ['Z'] => some none
  | sign :: rest =>
      if sign = '+' ∨ sign = '-' then do
        let (hours, rest) ← oneOrTwo rest
        match rest with
        | [] => some (some (sign, hours, []))
        | ':' :: rest => do
            let (minutes, rest) ← two rest
            if rest.isEmpty then some (some (sign, hours, minutes)) else none
        | _ => none
      else none
  | [] => none

/-- The parts of a date, with a time behind it where there is one. -/
def stamp? (cs : List Char) : Option Stamp := do
  let (century, rest) ← two cs
  let (year, rest) ← two rest
  let (month, rest) ← oneOrTwo (← literally '-' rest)
  let (day, rest) ← oneOrTwo (← literally '-' rest)
  let date : Stamp := ⟨century ++ year, month, day, none, [], none⟩
  if rest.isEmpty then return date
  else
    let rest ← match rest with
      | c :: more =>
          if c = 'T' ∨ c = 't' then some more
          else if isBlankOrTab c then some (more.dropWhile isBlankOrTab) else none
      | [] => none
    let (hour, rest) ← oneOrTwo rest
    let (minute, rest) ← two (← literally ':' rest)
    let (second, rest) ← two (← literally ':' rest)
    let (fraction, rest) := match rest with
      | '.' :: more => (more.takeWhile Char.isDigit, more.dropWhile Char.isDigit)
      | rest => ([], rest)
    let moment := { date with time := some (hour, minute, second), fraction := fraction }
    if rest.isEmpty then return moment
    else return { moment with zone := some (← zone? (rest.dropWhile isBlankOrTab)) }

/-- Does a text have a form of a date or a moment? A date alone has two digits for month and day. -/
def isTimestamp (cs : List Char) : Bool :=
  match stamp? cs with
  | none => false
  | some stamp => stamp.time.isSome || (stamp.month.length == 2 && stamp.day.length == 2)

/-! ## Plain scalars -/

/-- The characters without a line feed at the end, which no form minds. -/
def withoutFeed (cs : List Char) : List Char := if cs.getLast? = some '\n' then cs.dropLast else cs

def truthWords : List String :=
  ["yes", "Yes", "YES", "no", "No", "NO", "true", "True", "TRUE", "false", "False", "FALSE", "on",
    "On", "ON", "off", "Off", "OFF"]

def nullWords : List String := ["~", "null", "Null", "NULL"]

/-- The type of a plain scalar. -/
def ofPlain (written : String) : TypeTag :=
  let cs := withoutFeed written.toList
  let word := String.ofList cs
  if truthWords.contains word then truth
  else if isFloat cs then float
  else if isInt cs then int
  else if word = "<<" then merge
  else if written.isEmpty || nullWords.contains word then null
  else if isTimestamp cs then timestamp
  else if word = "=" then default
  else if ["!", "&", "*"].contains word then unknown
  else text

end TypeTag

end Bindery.Yaml
