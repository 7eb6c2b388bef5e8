/-!
# Sets of characters given by ranges

A class of characters is written down as the inclusive ranges of its code points, in increasing
order. Membership walks the ranges and stops at the first one that begins too late.
-/

namespace Bindery.Text

/-- Inclusive ranges of code points, in increasing order. -/
abbrev CodeRanges := List (Nat × Nat)

namespace CodeRanges

/-- Is the code point in one of the ranges? -/
def holds (n : Nat) : CodeRanges → Bool
  | [] => false
  | (low, high) :: rest => if n < low then false else n ≤ high || holds n rest

end CodeRanges

end Bindery.Text
