import Bindery.Value.Literal

/-!
# Writing JSON

Values are written on one line. A layout fixes the gaps after commas and colons, whether characters
beyond ASCII are escaped, and whether the keys of a mapping are sorted.
-/

namespace Bindery.Json

/-- How JSON is laid out on its line. -/
structure Layout where
  itemGap : String
  keyGap : String
  asciiOnly : Bool
  sortKeys : Bool

/-- No gaps, every character but the controls as it is, keys in their own order. -/
def Layout.compact : Layout := ⟨"", "", false, false⟩

/-- Gaps after commas and colons, ASCII only, keys sorted. -/
def Layout.plain : Layout := ⟨" ", " ", true, true⟩

/-! ## Texts -/

/-- A four-digit escape of a number below `2 ^ 16`. -/
def unitEscape (n : Nat) : List Char := '\\' :: 'u' :: Text.hex 4 n

/-- The escape of a character by its number; beyond the first plane it takes two. -/
def numberEscape (n : Nat) : List Char :=
  if n < 0x10000 then unitEscape n
  else unitEscape (0xD800 + (n - 0x10000) / 0x400) ++ unitEscape (0xDC00 + (n - 0x10000) % 0x400)

/-- A character inside a JSON text. -/
def escape (asciiOnly : Bool) (c : Char) : List Char :=
  if c = '"' ∨ c = '\\' then ['\\', c]
  else if c = '\n' then ['\\', 'n']
  else if c = '\r' then ['\\', 'r']
  else if c = '\t' then ['\\', 't']
  else if c = '\x08' then ['\\', 'b']
  else if c = '\x0c' then ['\\', 'f']
  else if c.toNat < 32 ∨ (asciiOnly ∧ 126 < c.toNat) then numberEscape c.toNat
  else [c]

/-- A text between double quotes. -/
def quote (asciiOnly : Bool) (s : String) : String :=
  String.ofList ('"' :: (s.toList.flatMap (escape asciiOnly) ++ ['"']))

/-! ## Values -/

/-- Floats are written like their literal text; the three that are no numbers have names. -/
def floatText (x : Float) : String :=
  { Value.floatStyle with infinite := "Infinity", nan := "NaN" }.write (Decimal.Double.ofFloat x)

/-- Sorts written entries by their keys. -/
def sortEntries (entries : List (String × String)) : List (String × String) :=
  entries.mergeSort fun a b => !(b.1 < a.1)

/-- One written entry. -/
def Layout.entry (layout : Layout) (entry : String × String) : String :=
  quote layout.asciiOnly entry.1 ++ ":" ++ layout.keyGap ++ entry.2

/-- The parts with commas between them. -/
def Layout.join (layout : Layout) (parts : List String) : String :=
  ("," ++ layout.itemGap).intercalate parts

mutual

/-- Writes a value. What JSON has no form for is written as its display text. -/
def write (layout : Layout) : Value → String
  | .null => "null"
  | .bool b => if b then "true" else "false"
  | .int i => toString i
  | .float x => floatText x
  | .string s => quote layout.asciiOnly s
  | .list items => "[" ++ layout.join (writeItems layout items) ++ "]"
  | .map entries =>
      let written := writeEntries layout entries
      let ordered := if layout.sortKeys then sortEntries written else written
      "\x7b" ++ layout.join (ordered.map layout.entry) ++ "\x7d"
  | v => quote layout.asciiOnly v.display

/-- Writes the items of a list. -/
def writeItems (layout : Layout) : List Value → List String
  | [] => []
  | v :: rest => write layout v :: writeItems layout rest

/-- Writes the values of a mapping beside the texts of their keys. -/
def writeEntries (layout : Layout) : List (Value × Value) → List (String × String)
  | [] => []
  | (k, v) :: rest => (k.display, write layout v) :: writeEntries layout rest

end

end Bindery.Json
