import Bindery.Text.Base64
import Bindery.Text.Blank
import Bindery.Text.Digit
import Bindery.Text.Lines
import Bindery.Value
import Bindery.Yaml.Scalar
import Bindery.Yaml.TypeTag

/-!
# Building values

A scalar is built from its text by the rules of its type. A text that has the form of a type need
not have a value of it.
-/

namespace Bindery.Yaml

/-! ## Numbers -/

namespace Number

/-- The characters without underscores. -/
def withoutLines (cs : List Char) : List Char := cs.filter (· ≠ '_')

def badNumber : Failure := .fault (.value .badNumber)

def isSpace (c : Char) : Bool := c == ' ' || ('\t' ≤ c && c ≤ '\r')

/-- The characters of a number: digits of every script are written as decimal digits, and white
space of every script as a space. There is none at either end. -/
def plain (cs : List Char) : List Char :=
  let cs := cs.map fun c =>
    if c.toNat < 127 then c
    else if Text.isBlank c then ' '
    else (Text.decimal? c).getD c
  ((cs.dropWhile isSpace).reverse.dropWhile isSpace).reverse

/-- The digits in a base behind the mark of the base that may stand before them. -/
def dropMark (base : Nat) (cs : List Char) : List Char :=
  match cs with
  | '0' :: c :: rest =>
      let letter := c.toLower
      if (base = 2 ∧ letter = 'b') ∨ (base = 8 ∧ letter = 'o') ∨ (base = 16 ∧ letter = 'x') then
        rest
      else cs
  | _ => cs

/-- Is the character a digit in a base up to sixteen? -/
def isDigitIn (base : Nat) (c : Char) : Bool := Quoted.isHexDigit c && Decimal.digitValue c < base

/-- A whole number in a base, with white space around it and a sign before it. -/
def whole (base : Nat) (cs : List Char) : Except Failure Int :=
  let cs := plain cs
  let digits := dropMark base (TypeTag.unsigned cs)
  if digits.isEmpty ∨ !digits.all (isDigitIn base) ∨
      (base = 10 ∧ Decimal.digitLimit < digits.length) then
    .error badNumber
  else
    let n : Int := Decimal.natOfBase base digits
    .ok (if cs.head? = some '-' then -n else n)

/-- The sign at the start, and the characters behind it. -/
def signed (cs : List Char) : Bool × List Char := (cs.head? = some '-', TypeTag.unsigned cs)

/-- The parts in base sixty, put together. -/
def ofSixties (parts : List Int) : Int := parts.foldl (fun n part => n * 60 + part) 0

/-- The magnitude that the characters behind a sign stand for. -/
def magnitude (cs : List Char) : Except Failure Int :=
  match cs with
  | [] => .error (.fault .noFirst)
  | ['0'] => .ok 0
  | '0' :: 'b' :: digits => whole 2 digits
  | '0' :: 'x' :: digits => whole 16 digits
  | '0' :: _ => whole 8 cs
  | _ =>
      if cs.contains ':' then ((Text.cut ':' cs).mapM (whole 10)).map ofSixties else whole 10 cs

/-- The whole number that a text stands for. -/
def int (text : String) : Except Failure Int :=
  let (negative, cs) := signed (withoutLines text.toList)
  (magnitude cs).map fun n => if negative then -n else n

/-- The digits behind a point, if there is one, and what follows them. -/
def fraction : List Char → List Char × List Char
  | '.' :: more => (more.takeWhile Char.isDigit, more.dropWhile Char.isDigit)
  | rest => ([], rest)

/-- Digits with a fraction and an exponent, or a word for what is no number. -/
def decimal (cs : List Char) : Except Failure Float :=
  let cs := plain cs
  let body := TypeTag.unsigned cs
  let negative := cs.head? = some '-'
  let signed := fun (x : Float) => if negative then -x else x
  let word := String.ofList (body.map Char.toLower)
  if word = "inf" ∨ word = "infinity" then .ok (signed (1.0 / 0.0))
  else if word = "nan" then .ok (0.0 / 0.0)
  else
    let digits := body.takeWhile Char.isDigit
    let (fraction, rest) := fraction (body.dropWhile Char.isDigit)
    if digits.isEmpty ∧ fraction.isEmpty then .error badNumber
    else match rest with
      | [] => .ok (signed (Decimal.read digits fraction 0))
      | e :: rest =>
          let exponent := TypeTag.unsigned rest
          if e.toLower = 'e' ∧ !exponent.isEmpty ∧ exponent.all Char.isDigit then
            let n : Int := Decimal.natOf exponent
            .ok (signed (Decimal.read digits fraction (if rest.head? = some '-' then -n else n)))
          else .error badNumber

/-- The least power of two above every float. -/
def floatBound : Nat := Nat.pow 2 1024

/-- The parts in base sixty from the last to the first, put together. No unit may be larger than
every float. -/
def sixtiesFrom (unit : Nat) (sum : Float) : List Float → Except Failure Float
  | [] => .ok sum
  | part :: parts =>
      if floatBound ≤ unit then .error (.fault (.value .tooLarge))
      else sixtiesFrom (unit * 60) (sum + part * Float.ofNat unit) parts

/-- The float that a text stands for. -/
def float (text : String) : Except Failure Float := do
  let written := (withoutLines text.toList).map Char.toLower
  let (negative, cs) := signed written
  let signed := fun (x : Float) => if negative then -x else x
  if written.isEmpty then .error (.fault .noFirst)
  else if cs = ".inf".toList then return signed (1.0 / 0.0)
  else if cs = ".nan".toList then return 0.0 / 0.0
  else if cs.contains ':' then
    let parts ← (Text.cut ':' cs).mapM decimal
    return signed (← sixtiesFrom 1 0.0 parts.reverse)
  else return signed (← decimal cs)

end Number

/-! ## Dates -/

namespace Stamp

/-- The distance from universal time. -/
def offset : Option (Char × List Char × List Char) → Int
  | none => 0
  | some (sign, hours, minutes) =>
      let distance : Int := (Decimal.natOf hours * 60 + Decimal.natOf minutes : Nat)
      if sign = '-' then -distance else distance

/-- Millionths of a second; further digits are dropped. -/
def microseconds (fraction : List Char) : Nat :=
  Decimal.natOf ((fraction ++ List.replicate 6 '0').take 6)

/-- The date or the moment that a text stands for. -/
def value (text : String) : Except Failure Value :=
  match TypeTag.stamp? (TypeTag.withoutFeed text.toList) with
  | none => .error (.fault .badDate)
  | some stamp =>
      let date : Date :=
        ⟨Decimal.natOf stamp.year, Decimal.natOf stamp.month, Decimal.natOf stamp.day⟩
      match stamp.time with
      | none =>
          if date.isValid then .ok (.date date) else .error (.fault (.value .impossibleDate))
      | some (hour, minute, second) =>
          let moment : Moment :=
            ⟨date, Decimal.natOf hour, Decimal.natOf minute, Decimal.natOf second,
            microseconds stamp.fraction, stamp.zone.map offset⟩
          if moment.isValid then .ok (.moment moment) else .error (.fault (.value .impossibleDate))

end Stamp

/-! ## Scalars -/

/-- The text of bytes in base 64. -/
def binary (text : String) : Except Failure Value :=
  if text.toList.all fun c => c.toNat < 128 then
    match Text.Base64.decode text with
    | some bytes => .ok (.bytes bytes)
    | none => .error .malformed
  else .error .malformed

/-- The truth value that a text stands for. -/
def truth (text : String) : Except Failure Value :=
  let word := String.ofList (text.toList.map Char.toLower)
  if ["yes", "true", "on"].contains word then .ok (.bool true)
  else if ["no", "false", "off"].contains word then .ok (.bool false)
  else .error (.fault .badTruth)

/-- The value of a scalar type that a text stands for. -/
def scalar : TypeTag → String → Except Failure Value
  | .null, _ => .ok .null
  | .truth, text => truth text
  | .int, text => (Number.int text).map .int
  | .float, text => (Number.float text).map .float
  | .timestamp, text => Stamp.value text
  | .binary, text => binary text
  | .text, text => .ok (.string text)
  | _, _ => .error .malformed

/-- Is the type one of scalars? -/
def isScalarType : TypeTag → Bool
  | .null | .truth | .int | .float | .timestamp | .binary | .text => true
  | _ => false

end Bindery.Yaml
