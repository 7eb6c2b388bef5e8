import Bindery.Decimal.Read
import Bindery.Text.Quoted
import Bindery.Value

/-!
# Literal and display text of values

The literal text of a value shows its structure and quotes its texts; the display text of a text is
the text itself and that of any other value its literal text. Messages use the first, documents the
second.
-/

namespace Bindery

/-- Floats show the fewest digits that read back: positionally from `0.0001` below `10 ^ 16`, with
an exponent of at least two digits elsewhere. -/
def Value.floatStyle : Decimal.Style where
  positionalFrom := -4
  positionalBelow := 16
  exponentDigits := 2
  infinite := "inf"
  nan := "nan"

namespace Value

/-- The text of a float. -/
def floatText (x : Float) : String := floatStyle.write (Decimal.Double.ofFloat x)

/-- The parts with a comma and a space between them. -/
def commaJoin (parts : List String) : String := ", ".intercalate parts

/-- The distance of an offset, which is never shown as negative seconds. -/
def offsetLiteral (minutes : Int) : String :=
  if minutes = 0 then "datetime.timezone.utc"
  else
    let seconds := minutes * 60
    let distance :=
      if seconds < 0 then "days=-1, seconds=" ++ toString (seconds + 86400)
      else "seconds=" ++ toString seconds
    "datetime.timezone(datetime.timedelta(" ++ distance ++ "))"

def dateLiteral (d : Date) : String :=
  "datetime.date(" ++ commaJoin [toString d.year, toString d.month, toString d.day] ++ ")"

/-- The parts of a moment; seconds and microseconds are left out where they are zero. -/
def momentLiteral (m : Moment) : String :=
  let small :=
    if m.microsecond ≠ 0 then [toString m.second, toString m.microsecond]
    else if m.second ≠ 0 then [toString m.second] else []
  let zone := match m.offset with
    | none => []
    | some minutes => ["tzinfo=" ++ offsetLiteral minutes]
  "datetime.datetime(" ++ commaJoin ([toString m.date.year, toString m.date.month,
    toString m.date.day, toString m.hour, toString m.minute] ++ small ++ zone) ++ ")"

mutual

/-- The text that shows a value with its structure. -/
def literal : Value → String
  | null => "None"
  | bool b => if b then "True" else "False"
  | int i => toString i
  | float x => floatText x
  | string s => Text.quoted s
  | list items => "[" ++ commaJoin (literals items) ++ "]"
  | map entries => "\x7b" ++ commaJoin (entryLiterals entries) ++ "\x7d"
  | set members =>
      if members.isEmpty then "set()" else "\x7b" ++ commaJoin (literals members) ++ "\x7d"
  | pair first second => "(" ++ commaJoin [literal first, literal second] ++ ")"
  | date d => dateLiteral d
  | moment m => momentLiteral m
  | bytes content => Text.quotedBytes content
  | outer isMapping => if isMapping then "\x7b...\x7d" else "[...]"

/-- The literal texts of the items of a list. -/
def literals : List Value → List String
  | [] => []
  | v :: rest => literal v :: literals rest

/-- The literal texts of the entries of a mapping. -/
def entryLiterals : List (Value × Value) → List String
  | [] => []
  | (k, v) :: rest => (literal k ++ ": " ++ literal v) :: entryLiterals rest

end

mutual

/-- Does every whole number in the value have few enough digits to be shown? -/
def isShowable : Value → Bool
  | int i => i.natAbs < Nat.pow 10 Decimal.digitLimit
  | list items => areShowable items
  | map entries => entriesAreShowable entries
  | set members => areShowable members
  | pair first second => first.isShowable && second.isShowable
  | _ => true

def areShowable : List Value → Bool
  | [] => true
  | v :: rest => v.isShowable && areShowable rest

def entriesAreShowable : List (Value × Value) → Bool
  | [] => true
  | (k, v) :: rest => k.isShowable && v.isShowable && entriesAreShowable rest

end

/-- The text by which a value stands in a document. -/
def display : Value → String
  | string s => s
  | date d => d.text
  | moment m => m.text
  | v => v.literal

@[simp] theorem display_string (s : String) : (string s).display = s := rfl

end Value

end Bindery
