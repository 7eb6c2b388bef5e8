/-!
# Blank characters

The blank characters are the white space of every script: the line breaks, the tabs, the four
information separators and the spaces. The byte-order mark and the zero-width space are not blank.
-/

namespace Bindery.Text

/-- Is the character white space? -/
def isBlank (c : Char) : Bool :=
  (9 ≤ c.val && c.val ≤ 13) || (28 ≤ c.val && c.val ≤ 32) || c.val == 0x85 || c.val == 0xA0 ||
    c.val == 0x1680 || (0x2000 ≤ c.val && c.val ≤ 0x200A) || c.val == 0x2028 ||
    c.val == 0x2029 || c.val == 0x202F || c.val == 0x205F || c.val == 0x3000

/-- The characters without the blank ones at the start. -/
def dropBlank (cs : List Char) : List Char := cs.dropWhile isBlank

/-- The characters without the blank ones at either end. -/
def trim (cs : List Char) : List Char := (dropBlank (dropBlank cs).reverse).reverse

/-- The text without blank characters at either end. -/
def strip (s : String) : String := String.ofList (trim s.toList)

/-- Does the text hold nothing but white space? -/
def isBlankText (s : String) : Bool := s.toList.all isBlank

end Bindery.Text
