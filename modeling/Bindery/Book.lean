import Bindery.Document
import Bindery.Kind

/-!
# Books

A book holds the documents of one compilation, grouped by the kind of their entities, with the
registry of the names that they may refer to. The groups stand in the order in which their kinds
first came; the summary comes last.

Finalizing a book adds the footers, once. The contents of a book join the documents that share a
path.
-/

namespace Bindery

/-- The documents of one compilation. -/
structure Book where
  directory : Path
  registry : Registry
  documents : Table Kind (List Document)
  /-- The links of the table of contents, grouped by the names of the entities. -/
  contentLinks : Table String (List String)
  summary : Option Document
  finalized : Bool

/-- The document of one entity with the names under which it is found. -/
structure Page where
  kind : Kind
  name : String
  names : List String
  document : Document

namespace Book

/-- A book without documents. -/
def blank (directory : Path) (registry : Registry) : Book :=
  ⟨directory, registry, [], [], none, false⟩

/-! ## Growth -/

/-- Adds a document at the end of the group of its kind. -/
def add (kind : Kind) (d : Document) (b : Book) : Book :=
  { b with documents := b.documents.push kind d }

/-- Adds a document at the start of the group of its kind. -/
def addFirst (kind : Kind) (d : Document) (b : Book) : Book :=
  { b with documents := b.documents.alter kind fun group => d :: group.getD [] }

/-- Registers a name. -/
def register (name target : String) (title : Option String) (b : Book) : Book :=
  { b with registry := b.registry.register name target title }

/-- The entry of a page in the table of contents. -/
def contentLink (p : Page) : String := "[" ++ p.name ++ "](" ++ p.document.path ++ ")"

/-- Adds the document of an entity, registers its names and lists it. -/
def addPage (b : Book) (p : Page) : Book :=
  let target := (p.document.place b.directory).text
  { b with
    documents := b.documents.push p.kind p.document
    registry := b.registry.registerAll (p.names.map fun name => (name, target))
    contentLinks := b.contentLinks.push p.name (contentLink p) }

/-- Adds pages one after another. -/
def addPages (pages : List Page) (b : Book) : Book := pages.foldl addPage b

/-- The links of the table of contents in order. -/
def contentList (b : Book) : List String := (b.contentLinks.map Prod.snd).flatten

/-! ## Reading -/

/-- The documents by group, then the summary. -/
def allDocuments (b : Book) : List Document :=
  (b.documents.map Prod.snd).flatten ++ b.summary.toList

/-- Adds the footers to every document, unless that was done before. -/
def finalize (b : Book) : Book :=
  if b.finalized then b
  else
    { b with
      documents := b.documents.map fun (kind, group) =>
        (kind, group.map (Document.link b.registry b.directory))
      summary := b.summary.map (Document.link b.registry b.directory)
      finalized := true }

/-- The texts of the files by their places; documents of one place are joined in order. -/
def files (b : Book) : Table Path String :=
  (Table.group (b.allDocuments.map fun d =>
    (d.place b.directory, d.text))).map fun (place, texts) =>
    (place, Text.joinLines texts)

/-- The finalized book with the texts of its files. -/
def contents (b : Book) : Book × Table Path String := (b.finalize, b.finalize.files)

theorem finalize_finalized (b : Book) : b.finalize.finalized := by
  unfold finalize
  split <;> simp_all

theorem finalize_finalize (b : Book) : b.finalize.finalize = b.finalize := by
  rw [finalize, if_pos (finalize_finalized b)]

end Book

end Bindery
