import Bindery.Book
import Bindery.Entity
import Bindery.Node.Load
import Bindery.Pages
import Bindery.Report
import Bindery.Session
import Bindery.Settings

/-!
# The compiler

The compiler walks over the children of one module of a reflection record. A child whose kind has a
draft becomes a page; every other child is skipped and counted. The pages are then put into a book,
to which the generated pages are added, and the book is written below its directory.

The walk only gives pages and a report. Nothing of a book exists before all its pages do, and
nothing is written before the whole book is rendered.
-/

namespace Bindery

/-! ## The walk -/

/-- What became of a child. -/
inductive Visit where
  | page (p : Page)
  | skipped (kind : Value) (name : String)

namespace Visit

def page? : Visit → Option Page
  | page p => some p
  | skipped _ _ => none

/-- The page of an entity with a draft. -/
def pageOf (draft : Node → Draft Unit) (node : Node) : Draft Page := do
  let path ← Draft.ofExcept (Route.place node.kind node.name)
  let (lines, _) ← (draft node).capture
  return ⟨node.kind, node.name, Entity.registeredNames node, (Document.blank path).extend lines⟩

/-- Visits one child. -/
def ofNode (node : Node) (report : Report) : Draft (Visit × Report) :=
  match Entity.draft? node.kind with
  | some draft => do
      let p ← pageOf draft node
      let report ← report.document node.kindName (.string node.name) (.string p.document.path)
      return (.page p, report)
  | none => do
      let report ← report.skip node.kindName (.string node.name)
      return (.skipped node.kindName node.name, report)

/-- Visits children in order. -/
def walk : List Node → Report → Draft (List Visit × Report)
  | [], report => return ([], report)
  | node :: rest, report => do
      let (visit, report) ← ofNode node report
      let (visits, report) ← walk rest report
      return (visit :: visits, report)

/-- The pages among visits. -/
def pages (visits : List Visit) : List Page := visits.filterMap page?

end Visit

/-! ## Books -/

/-- What a compilation needs to know beside the record. -/
structure Compiler where
  /-- The directory of the book, from the root. -/
  directory : Path
  moduleName : String
  /-- The pattern of the example pages. -/
  examples : String
  references : Table String String
  /-- The directory of the project's own templates. -/
  templates : Option Path

namespace Compiler

/-- The part of the build that compiles. -/
def component : String := Report.component

/-- The compiler whose directory is seen from a working directory. -/
def seenFrom (workingDirectory : Path) (c : Compiler) : Compiler :=
  { c with directory := workingDirectory.join c.directory }

/-- The compiler for a project, seen from a working directory. -/
def ofSettings (workingDirectory : Path) (s : Settings) : Compiler :=
  seenFrom workingDirectory ⟨s.directory, s.moduleName, s.examples, s.references, s.templates⟩

/-- The book that a compiler begins with. -/
def blankBook (c : Compiler) : Book := Book.blank c.directory (Registry.withBuiltins c.references)

/-- The generated pages of a book: the summary, and the introduction to the enumerations. -/
def generated (c : Compiler) (t : FileTree) (b : Book) : Draft (Document × Document) := do
  let examples ← Example.discover t c.directory c.examples
  let context :=
    Pages.summaryContext (.string Pages.quickStart) examples (b.contentList.map Value.string)
  let summary ← Draft.ofExcept (Pages.summary t c.templates context)
  let enumerations ← Draft.ofExcept (Pages.enumerations t c.templates)
  return (summary, enumerations)

/-- The book of a record, with the files that its example pages and templates are found among. -/
def compile (c : Compiler) (t : FileTree) (root : Node) : Draft Book := do
  let module ← Draft.ofExcept (root.findModule c.moduleName)
  let (visits, report) ← Visit.walk module.children Report.empty
  let book := c.blankBook.addPages (Visit.pages visits)
  let (summary, enumerations) ← c.generated t book
  report.finish
  return { book.addFirst .enumeration enumerations with summary := some summary }

/-- The book of a record. -/
def process (c : Compiler) (root : Node) : Run Book := do
  Run.ofDraft (c.compile (← Run.files) root)

end Compiler

/-! ## Writing -/

namespace Book

/-- Writes one file and the directories above it. -/
def writeFile (place : Path) (text : String) : Run Path := do
  Run.makeDirectory place.parent
  Run.change fun t => t.write place text.toUTF8
  return place

/-- Writes files in order. -/
def writeFiles : Table Path String → Run (List Path)
  | [] => return []
  | (place, text) :: rest => do
      let first ← writeFile place text
      return first :: (← writeFiles rest)

/-- Writes the contents of a book and gives the places of its files. -/
def write (b : Book) : Run (List Path) := writeFiles b.finalize.files

end Book

namespace Compiler

/-- Copies the introduction of the project into the book, or reports that it is missing. -/
def copyReadme (c : Compiler) (readme : Path) : Run Unit := do
  if ← Run.ofExcept ((← Run.files).isFile readme) then
    Run.change fun t => t.copy readme (c.directory / "README.md")
  else
    Run.log .warning component
      ("README not found at " ++ readme.text ++ "; Quick Start link will be dangling")

/-- Builds the whole book from the record in a file, and gives the places of its files. -/
def run (c : Compiler) (input : Path) (readme : Option Path) : Run (List Path) := do
  Run.log .info component ("Compiling " ++ input.text ++ " into " ++ c.directory.text)
  Run.makeDirectory c.directory
  if let some place := readme then
    c.copyReadme place
  let root ← Run.ofExcept (Node.load (← Run.files) input)
  let book ← c.process root
  let written ← book.write
  Run.log .info component ("Wrote " ++ toString written.length ++ " files to " ++ c.directory.text)
  return written

end Compiler

end Bindery
