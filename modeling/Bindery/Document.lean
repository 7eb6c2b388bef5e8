import Bindery.Draft
import Bindery.Registry

/-!
# Documents

A document is a path inside the book and the lines written so far. Its text and the references that
it needs are views of the lines. Lines are only ever added at the end.

The footer of a document defines each reference that the registry can resolve; a document that is
not linked gets none.
-/

namespace Bindery

/-- The lines of one document. Several documents may share a path. -/
structure Document where
  path : String
  body : List Line
  /-- Does the document get definitions of its references? -/
  linked : Bool
deriving DecidableEq, Repr, Inhabited

namespace Document

/-- A document without lines. -/
def blank (path : String) : Document := ⟨path, [], true⟩

/-! ## Views -/

/-- The texts of the lines. -/
def lines (d : Document) : List String := d.body.map Line.text

/-- The reference tokens in order of appearance. -/
def references (d : Document) : List String := d.body.flatMap Line.references

/-- The text of the document. -/
def text (d : Document) : String := Text.joinLines d.lines

/-! ## Growth -/

/-- Adds lines at the end. -/
def extend (d : Document) (more : List Line) : Document := { d with body := d.body ++ more }

@[simp] theorem lines_extend (d : Document) (more : List Line) :
    (d.extend more).lines = d.lines ++ more.map Line.text := by simp [extend, lines]

@[simp] theorem references_extend (d : Document) (more : List Line) :
    (d.extend more).references = d.references ++ more.flatMap Line.references := by
  simp [extend, references]

@[simp] theorem path_extend (d : Document) (more : List Line) : (d.extend more).path = d.path := rfl

/-! ## Footer -/

/-- The line that defines a reference. -/
def definition (name : String) (entry : Entry) : String :=
  let title := match entry.title with
    | some title => if title.isEmpty then "" else " \"" ++ title ++ "\""
    | none => ""
  "[" ++ name ++ "]: " ++ entry.target ++ title

/-- The place of the document in a book. -/
def place (book : Path) (d : Document) : Path := book / d.path

/-- The definitions that the document needs, as far as the registry has them. -/
def definitions (registry : Registry) (book : Path) (d : Document) : List (String × Entry) :=
  registry.links book (d.place book).parent d.references

/-- The lines that close the document: an empty one, then the definitions. -/
def footer (registry : Registry) (book : Path) (d : Document) : List Line :=
  .verbatim "" :: (d.definitions registry book).map fun (name, entry) =>
    .verbatim (definition name entry)

/-- The document with its footer. -/
def link (registry : Registry) (book : Path) (d : Document) : Document :=
  if d.linked then d.extend (d.footer registry book) else d

theorem references_link (registry : Registry) (book : Path) (d : Document) :
    (d.link registry book).references = d.references := by
  unfold link
  split
  · simp [footer, Line.references, List.flatMap_map]
  · rfl

end Document

end Bindery
