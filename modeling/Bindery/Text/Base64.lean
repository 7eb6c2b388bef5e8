/-!
# Base 64

Bytes written with sixty-four characters, six bits each. A reader passes over every other character;
a group of four that is not complete has to be filled up with equality signs, and nothing is read
behind them.
-/

namespace Bindery.Text.Base64

/-- The six bits of a character. -/
def digit? (c : Char) : Option Nat :=
  if c.isUpper then some (c.toNat - 'A'.toNat)
  else if c.isLower then some (c.toNat - 'a'.toNat + 26)
  else if c.isDigit then some (c.toNat - '0'.toNat + 52)
  else if c = '+' then some 62
  else if c = '/' then some 63
  else none

/-- Reads on: `group` are the digits of the open group, `filled` counts the equality signs in it,
and `done` are the bytes so far, last first. -/
def decodeFrom (group : List Nat) (filled : Nat) (done : List UInt8) :
    List Char → Option (List UInt8)
  | [] => if group.isEmpty then some done.reverse else none
  | c :: rest =>
      if c = '=' then
        if 2 ≤ group.length ∧ 4 ≤ group.length + filled + 1 then some done.reverse
        else decodeFrom group (if 2 ≤ group.length then filled + 1 else filled) done rest
      else match digit? c, group with
        | none, _ => decodeFrom group filled done rest
        | some d, [] => decodeFrom [d] 0 done rest
        | some d, [a] => decodeFrom [a, d] 0 (UInt8.ofNat (a * 4 + d / 16) :: done) rest
        | some d, [a, b] =>
            decodeFrom [a, b, d] 0 (UInt8.ofNat (b % 16 * 16 + d / 4) :: done) rest
        | some d, _ :: _ :: c :: _ => decodeFrom [] 0 (UInt8.ofNat (c % 4 * 64 + d) :: done) rest

/-- The bytes that a text stands for. -/
def decode (s : String) : Option (List UInt8) := decodeFrom [] 0 [] s.toList

end Bindery.Text.Base64
