import Bindery.Path

/-!
# Link targets

A target that begins with a scheme is an address and stands in every document as it is. Every other
target names a file, with an optional fragment after the first hash, and is written as a link from
the directory of the document.
-/

namespace Bindery.Target

/-- May the character stand in a scheme? -/
def isSchemeChar (c : Char) : Bool := c.isAlphanum || c == '+' || c == '.' || c == '-'

/-- Does the target begin with a scheme? -/
def isAddress (target : String) : Bool :=
  match target.toList with
  | [] => false
  | c :: rest => c.isAlpha && (rest.dropWhile isSchemeChar).head? == some ':'

/-- The file part of a target. -/
def file (target : String) : String := String.ofList (target.toList.takeWhile (· ≠ '#'))

/-- The hash of a target with everything after it. -/
def fragment (target : String) : String := String.ofList (target.toList.dropWhile (· ≠ '#'))

/-- The target as it is written in a document of a directory. Files are named from the book. -/
def seenFrom (book directory : Path) (target : String) : String :=
  if isAddress target then target
  else (Path.linkFrom directory (book / file target)).text ++ fragment target

theorem file_append_fragment (target : String) : file target ++ fragment target = target := by
  simp [file, fragment, ← String.ofList_append]

end Bindery.Target
