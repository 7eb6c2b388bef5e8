/-!
# Exact view of a double

A finite double is a sign, a whole number `m` and a power of two: the value is `m · 2 ^ q`. All
questions about the digits of a double are answered in whole numbers from this view.
-/

namespace Bindery.Decimal

/-- What a double stands for. -/
inductive Double
  | finite (negative : Bool) (m : Nat) (q : Int)
  | infinite (negative : Bool)
  | nan
deriving DecidableEq

namespace Double

/-- The least exponent of a double. -/
def leastExponent : Int := -1074

/-- The least whole part of a double that is written with all its digits. -/
def leastFull : Nat := Nat.pow 2 52

/-- Reads the sign, the exponent and the fraction off the bits. -/
def ofBits (bits : UInt64) : Double :=
  let n := bits.toNat
  let negative := n >>> 63 == 1
  let exponent : Nat := (n >>> 52) % 2048
  let fraction := n % leastFull
  if exponent == 2047 then
    if fraction == 0 then .infinite negative else .nan
  else if exponent == 0 then .finite negative fraction leastExponent
  else .finite negative (leastFull + fraction) ((exponent : Int) - 1075)

/-- The exact view of a float. -/
def ofFloat (x : Float) : Double := ofBits x.toBits

/-- The whole number that the double equals, if it is one. -/
def toInt? : Double → Option Int
  | .finite negative m q =>
      let size : Option Nat :=
        if 0 ≤ q then some (m * Nat.pow 2 q.toNat)
        else
          let d := Nat.pow 2 (-q).toNat
          if m % d == 0 then some (m / d) else none
      size.map fun n => if negative then -(n : Int) else n
  | _ => none

end Double

end Bindery.Decimal
