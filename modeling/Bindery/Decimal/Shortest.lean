import Bindery.Decimal.Double

/-!
# The fewest decimal digits that read back

A decimal reads back as a double when it lies in the interval of the reals that round to the double.
On the grid of decimals with a given number of digits only the two neighbours of the exact value can
be the nearest ones in that interval. The shortest decimal is found on the coarsest grid that has a
neighbour in the interval; of two, the nearer one is taken, and of two equally near ones the even
one.

Everything is exact: a bound of the interval is a whole multiple of a quarter of the last place.
-/

namespace Bindery.Decimal

/-- The decimal `digits · 10 ^ exponent`. -/
structure Scaled where
  digits : Nat
  exponent : Int
deriving DecidableEq, Repr

namespace Shortest

/-- The interval of the reals that round to a double, in quarters of its last place `2 ^ unit`. -/
structure Interval where
  low : Nat
  middle : Nat
  high : Nat
  unit : Int
  closed : Bool

/-- The interval of `m · 2 ^ q`. Below a power of two the doubles lie twice as dense. -/
def Interval.of (m : Nat) (q : Int) : Interval where
  low := if m = Double.leastFull ∧ Double.leastExponent < q then 4 * m - 1 else 4 * m - 2
  middle := 4 * m
  high := 4 * m + 2
  unit := q - 2
  closed := m % 2 = 0

/-- Scales `n · base ^ e` to a numerator and a denominator. -/
def fraction (n : Nat) (base : Nat) (e : Int) : Nat × Nat :=
  if 0 ≤ e then (n * Nat.pow base e.toNat, 1) else (n, Nat.pow base (-e).toNat)

/-- The whole part of `(n · 2 ^ e) / 10 ^ k`. -/
def gridFloor (n : Nat) (e k : Int) : Nat :=
  let (a, b) := fraction n 2 e
  let (c, d) := fraction 1 10 k
  (a * d) / (b * c)

/-- Compares the decimal `a · 10 ^ k` with `n · 2 ^ e`. -/
def order (a : Nat) (k : Int) (n : Nat) (e : Int) : Ordering :=
  let (x, y) := fraction a 10 k
  let (u, v) := fraction n 2 e
  Ord.compare (x * v) (u * y)

/-- Does the decimal `a · 10 ^ k` lie in the interval? -/
def Interval.holds (i : Interval) (a : Nat) (k : Int) : Bool :=
  match order a k i.low i.unit, order a k i.high i.unit with
  | .gt, .lt => true
  | .eq, _ | _, .eq => i.closed
  | _, _ => false

/-- Of the neighbours `a` and `a + 1` of the exact value, the nearer one, and the even one of a tie.
-/
def nearer (i : Interval) (a : Nat) (k : Int) : Nat :=
  let (x, y) := fraction (2 * a + 1) 10 k
  let (u, v) := fraction (2 * i.middle) 2 i.unit
  match Ord.compare (u * y) (x * v) with
  | .lt => a
  | .gt => a + 1
  | .eq => if a % 2 = 0 then a else a + 1

/-- The decimal of a grid that reads back, if it has one. -/
def onGrid? (i : Interval) (k : Int) : Option Scaled :=
  let a := gridFloor i.middle i.unit k
  match i.holds a k, i.holds (a + 1) k with
  | true, true => some ⟨nearer i a k, k⟩
  | true, false => some ⟨a, k⟩
  | false, true => some ⟨a + 1, k⟩
  | false, false => none

/-- The number of digits of a whole number; zero has none. -/
def digitCount (n : Nat) : Nat := if n = 0 then 0 else (Nat.toDigits 10 n).length

/-- The exponent of the first digit of `n · 2 ^ e`. -/
def magnitude (n : Nat) (e : Int) : Int :=
  let whole := gridFloor n e 0
  if whole = 0 then
    let reached (k : Nat) : Bool := gridFloor n e (-(k : Int)) ≠ 0
    Int.negOfNat (((List.range 340).find? reached).getD 340)
  else (digitCount whole : Int) - 1

/-- Drops the zeros at the end of the digits. -/
def strip : Nat → Scaled → Scaled
  | 0, s => s
  | fuel + 1, s =>
      if s.digits ≠ 0 ∧ s.digits % 10 = 0 then strip fuel ⟨s.digits / 10, s.exponent + 1⟩ else s

end Shortest

open Shortest in
/-- The shortest decimal that reads back as `m · 2 ^ q`. -/
def shortest (m : Nat) (q : Int) : Scaled :=
  if m = 0 then ⟨0, 0⟩
  else
    let i := Interval.of m q
    let top := magnitude i.middle i.unit
    let found := (List.range 17).findSome? fun (n : Nat) => onGrid? i (top - (n : Int))
    strip 20 (found.getD ⟨gridFloor i.middle i.unit (top - 17), top - 17⟩)

/-! ## Written form -/

/-- How a float is written: the exponents that are written positionally and the exponent form. -/
structure Style where
  /-- The least exponent of the first digit that is written positionally. -/
  positionalFrom : Int
  /-- The exponent of the first digit from which the exponent form is used. -/
  positionalBelow : Int
  /-- The least number of digits of an exponent. -/
  exponentDigits : Nat
  infinite : String
  nan : String

/-- The decimal digits of a whole number. -/
def digitsOf (n : Nat) : List Char := Nat.toDigits 10 n

/-- Fills a text with zeros at the left. -/
def zeroPad (width : Nat) (cs : List Char) : List Char :=
  List.replicate (width - cs.length) '0' ++ cs

/-- Writes the digits with a point, and a zero after the point where no digit follows it. -/
def positional (digits : List Char) (top : Int) : List Char :=
  if top < 0 then '0' :: '.' :: (List.replicate (-top - 1).toNat '0' ++ digits)
  else
    let whole := top.toNat + 1
    let padded := digits ++ List.replicate (whole - digits.length) '0'
    let fraction := padded.drop whole
    padded.take whole ++ '.' :: (if fraction.isEmpty then ['0'] else fraction)

/-- Writes one digit, the point and the others where there are any, and the exponent. -/
def scientific (style : Style) (digits : List Char) (top : Int) : List Char :=
  let rest := digits.drop 1
  digits.take 1 ++ (if rest.isEmpty then [] else '.' :: rest) ++
    'e' :: (if top < 0 then '-' else '+') :: zeroPad style.exponentDigits (digitsOf top.natAbs)

/-- The text of a double in a style. -/
def Style.write (style : Style) : Double → String
  | .nan => style.nan
  | .infinite negative => if negative then "-" ++ style.infinite else style.infinite
  | .finite negative m q =>
      let s := shortest m q
      let digits := digitsOf s.digits
      let top := s.exponent + (digits.length : Int) - 1
      let body :=
        if style.positionalFrom ≤ top && top < style.positionalBelow then positional digits top
        else scientific style digits top
      String.ofList (if negative then '-' :: body else body)

end Bindery.Decimal
