import Bindery.Decimal.Shortest

/-!
# Reading decimals

Digits are read as whole numbers, and a decimal with an exponent as the double nearest to it. An
exponent far outside the range of doubles is answered without computing the power.
-/

namespace Bindery.Decimal

/-- Is the character one of the ten digits? -/
def isDigit (c : Char) : Bool := '0' ≤ c && c ≤ '9'

/-- The most digits that a whole number is read from or shown with. -/
def digitLimit : Nat := 4300

/-- The number that digits stand for in base ten. -/
def natOf (digits : List Char) : Nat :=
  digits.foldl (fun n c => 10 * n + (c.toNat - '0'.toNat)) 0

/-- The value of a digit in a base up to sixteen. -/
def digitValue (c : Char) : Nat :=
  if c ≤ '9' then c.toNat - '0'.toNat
  else if c ≤ 'F' then c.toNat - 'A'.toNat + 10 else c.toNat - 'a'.toNat + 10

/-- The number that digits stand for in a base up to sixteen. -/
def natOfBase (base : Nat) (digits : List Char) : Nat :=
  digits.foldl (fun n c => base * n + digitValue c) 0

/-- The double nearest to `m · 10 ^ e`. -/
def toFloat (m : Nat) (e : Int) : Float :=
  let top := e + (Shortest.digitCount m : Int)
  if m = 0 ∨ top < -330 then 0.0
  else if 310 < top then 1.0 / 0.0
  else Float.ofScientific m (e < 0) e.natAbs

/-- The double nearest to a decimal given by its whole digits, its fraction and its exponent. -/
def read (whole fraction : List Char) (exponent : Int) : Float :=
  toFloat (natOf (whole ++ fraction)) (exponent - (fraction.length : Int))

end Bindery.Decimal
