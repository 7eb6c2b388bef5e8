import Bindery.FrontMatter
import Bindery.Glob
import Bindery.Value.Literal

/-!
# Example pages

The example pages of a book are the files that a pattern matches and whose front matter has a title.
They are listed in the order of their path segments; files without a title are reported.
-/

namespace Bindery

/-- An example page that the summary lists. -/
structure Example where
  title : String
  path : String
deriving DecidableEq, Repr

namespace Example

/-- The path of a page as seen from the directory of the book. -/
def pathFrom (directory p : Path) : String :=
  (Path.mk .relative (p.segments.drop directory.segments.length)).text

/-- The example that a matched path is, if it is one. -/
def ofPath? (t : FileTree) (directory p : Path) : Draft (Option Example) := do
  if ← Draft.ofExcept (t.isFile p) then
    let attributes ← FrontMatter.read p.text (← Draft.ofExcept (t.readText p))
    let title := Value.get "title" attributes
    if title.isTruthy then
      if title.isShowable then return some ⟨title.display, pathFrom directory p⟩
      else Draft.fail (.value .longNumber)
    else
      Draft.log .debug FrontMatter.component ("Skipping example without a title: " ++ p.text)
      return none
  else return none

/-- The examples of a book. -/
def discover (t : FileTree) (directory : Path) (pattern : String) : Draft (List Example) := do
  let paths ← Draft.ofExcept (Glob.paths t directory pattern)
  return (← Draft.each (ofPath? t directory) paths).filterMap id

end Example

end Bindery
