/-!
# Camel case

A text is cut into words of ASCII letters or digits; everything else stands between words. The first
word is written small and every later one with a capital.

A run of capitals before a small letter gives its last capital to the word of that letter, except
that two capitals stay together.
-/

namespace Bindery.Text

namespace CamelCase

/-- How many of the characters make the word at their start; none if no word begins there. -/
def wordLength (cs : List Char) : Nat :=
  let capitals := (cs.takeWhile Char.isUpper).length
  let smalls := ((cs.drop capitals).takeWhile Char.isLower).length
  match capitals, smalls with
  | 0, 0 => (cs.takeWhile Char.isDigit).length
  | 0, smalls => smalls
  | capitals, 0 => capitals
  | 1, smalls => smalls + 1
  | 2, _ => 2
  | capitals, _ => capitals - 1

/-- The words of the characters in order. -/
def words : List Char → List (List Char)
  | [] => []
  | c :: rest =>
      match wordLength (c :: rest) with
      | 0 => words rest
      | n + 1 => (c :: rest.take n) :: words (rest.drop n)
termination_by cs => cs.length
decreasing_by
  · simp
  · simp only [List.length_drop, List.length_cons]; omega

def small (word : List Char) : List Char := word.map Char.toLower

/-- The word with a capital and small letters behind it. -/
def capitalised : List Char → List Char
  | [] => []
  | c :: rest => c.toUpper :: small rest

/-- The first word small, the later ones with capitals. -/
def join : List (List Char) → List Char
  | [] => []
  | word :: more => small word ++ (more.map capitalised).flatten

end CamelCase

/-- The text in camel case. -/
def camelCase (s : String) : String := String.ofList (CamelCase.join (CamelCase.words s.toList))

end Bindery.Text
