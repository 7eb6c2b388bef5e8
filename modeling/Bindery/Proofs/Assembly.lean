import Bindery.Proofs.Compilation
import Bindery.Proofs.Grouping

/-!
# How a book is put together

Two groupings are composed: the pages of a walk are grouped by kind, and the finalized documents by
file. Both keep the order in which their members came, so that the documents of a book and the texts
of its files are read off the documented children of the module.
-/

namespace Bindery

/-! ## Pages put into a book -/

namespace Book

/-- The place of the document of a page, as text. -/
def pageTarget (directory : Path) (p : Page) : String := (p.document.place directory).text

/-- The names of pages with what they lead to, in the order of their registration. -/
def registrations (directory : Path) (pages : List Page) : List (String × String) :=
  pages.flatMap fun p => p.names.map fun name => (name, pageTarget directory p)

variable (pages : List Page) (b : Book)

theorem directory_addPages : (addPages pages b).directory = b.directory := by
  induction pages generalizing b with
  | nil => rfl
  | cons p rest ih => exact (ih (b.addPage p)).trans rfl

theorem finalized_addPages : (addPages pages b).finalized = b.finalized := by
  induction pages generalizing b with
  | nil => rfl
  | cons p rest ih => exact (ih (b.addPage p)).trans rfl

theorem documents_addPages :
    (addPages pages b).documents =
      pages.foldl (fun t p => t.push p.kind p.document) b.documents := by
  induction pages generalizing b with
  | nil => rfl
  | cons p rest ih => exact (ih (b.addPage p)).trans rfl

theorem registry_addPages :
    (addPages pages b).registry = b.registry.registerAll (registrations b.directory pages) := by
  induction pages generalizing b with
  | nil => rfl
  | cons p rest ih =>
      have step := ih (b.addPage p)
      rw [registrations, List.flatMap_cons, Registry.registerAll, List.foldl_append]
      exact step

/-! ## Documents and files -/

/-- The documents that stand in a file, in order. -/
def documentsAt (b : Book) (place : Path) : List Document :=
  b.allDocuments.filter fun d => d.place b.directory == place

/-- The files of a book by its documents. -/
theorem files_eq :
    b.files = (b.allDocuments.map (Document.place b.directory)).eraseDups.map fun place =>
      (place, Text.joinLines ((b.documentsAt place).map Document.text)) := by
  rw [files, Table.group_eq, List.map_map, List.map_map]
  refine List.map_congr_left fun place _ => ?_
  rw [Function.comp_apply, Table.members, List.filter_map, List.map_map]
  rfl

theorem allDocuments_finalize {b : Book} (fresh : b.finalized = false) :
    b.finalize.allDocuments = b.allDocuments.map (Document.link b.registry b.directory) := by
  rw [finalize, fresh, if_neg (by decide), allDocuments, allDocuments, List.map_append,
    List.map_flatten]
  dsimp only
  have linked : ∀ documents : Table Kind (List Document),
      (documents.map fun group =>
        (group.1, group.2.map (Document.link b.registry b.directory))).map Prod.snd =
      (documents.map Prod.snd).map (List.map (Document.link b.registry b.directory)) := by
    intro documents
    rw [List.map_map, List.map_map]
    rfl
  rw [← linked]
  cases b.summary <;> rfl

theorem directory_finalize : b.finalize.directory = b.directory := by
  unfold finalize
  split <;> rfl

end Book

/-! ## The book of a module -/

namespace Compiler

/-- The document of an entity before its footer. -/
def documentOf (node : Node) : Document := (Entity.page node).document

/-- The kinds of a book in the order of its groups: each where its first entity came, enumerations
last where there are none. -/
def groupOrder (module : Node) : List Kind :=
  ((entities module).map Node.kind ++ [Kind.enumeration]).eraseDups

/-- The documents of a group: the index in front of the enumerations, then the entities. -/
def groupOf (module : Node) (index : Document) (kind : Kind) : List Document :=
  (if kind = .enumeration then [index] else []) ++
    ((entities module).filter fun node => node.kind = kind).map documentOf

variable (c : Compiler) (module : Node) (summary index : Document)

theorem documents_pagesBook :
    (c.pagesBook module).documents =
      Table.group ((entities module).map fun node => (node.kind, documentOf node)) := by
  rw [pagesBook, Book.documents_addPages, List.foldl_map, Table.group, List.foldl_map]
  rfl

theorem directory_bookOf : (c.bookOf module summary index).directory = c.directory :=
  Book.directory_addPages _ _

theorem finalized_bookOf : (c.bookOf module summary index).finalized = false :=
  Book.finalized_addPages _ _

theorem documents_bookOf :
    (c.bookOf module summary index).documents =
      (groupOrder module).map fun kind => (kind, groupOf module index kind) := by
  have documents : (c.bookOf module summary index).documents =
      (c.pagesBook module).documents.alter .enumeration fun group => index :: group.getD [] := rfl
  rw [documents, documents_pagesBook, Table.alter_group _ _ (index :: ·), List.map_map]
  show ((groupOrder module).map fun kind => _) = _
  refine List.map_congr_left fun kind _ => ?_
  have members : Table.members kind
        ((entities module).map fun node => (node.kind, documentOf node)) =
      ((entities module).filter fun node => node.kind = kind).map documentOf := by
    rw [Table.members, List.filter_map, List.map_map]
    rfl
  -- The index is put in front of one group, which is opened for it if there is none.
  by_cases enumerated : kind = .enumeration
  · subst enumerated
    rw [groupOf, if_pos rfl, members]
    rfl
  · rw [groupOf, if_neg enumerated, members]
    simp [enumerated]

theorem allDocuments_bookOf :
    (c.bookOf module summary index).allDocuments =
      (groupOrder module).flatMap (groupOf module index) ++ [summary] := by
  rw [Book.allDocuments, documents_bookOf, List.map_map]
  rfl

/-- The documents with the kinds of their groups, the index in front. -/
def kindedDocuments (module : Node) (index : Document) : List (Kind × Document) :=
  (.enumeration, index) :: (entities module).map fun node => (node.kind, documentOf node)

theorem groupOf_eq_filter (kind : Kind) :
    groupOf module index kind =
      ((kindedDocuments module index).filter fun pair => pair.1 = kind).map Prod.snd := by
  rw [kindedDocuments, List.filter_cons, List.filter_map, groupOf]
  by_cases enumerated : kind = .enumeration
  · simp [enumerated, Function.comp_def]
  · simp [enumerated, Ne.symm enumerated, Function.comp_def]

/-- The index, the summary and the document of each entity stand in the book once. -/
theorem perm_allDocuments_bookOf :
    (c.bookOf module summary index).allDocuments.Perm
      ((entities module).map documentOf ++ [index, summary]) := by
  -- With the index as one more document of its kind, the groups gather all documents by kind.
  have covered : ∀ pair ∈ kindedDocuments module index, pair.1 ∈ groupOrder module := by
    intro pair present
    show pair.1 ∈ ((entities module).map Node.kind ++ [Kind.enumeration]).eraseDups
    rw [List.mem_eraseDups, List.mem_append]
    rcases List.mem_cons.mp present with rfl | entity
    · exact .inr (List.mem_singleton_self _)
    · obtain ⟨node, known, rfl⟩ := List.mem_map.mp entity
      exact .inl (List.mem_map_of_mem known)
  have gathered := (Table.perm_flatMap_filter (Table.nodup_eraseDups _) Prod.fst _ covered).map
    Prod.snd
  have groups : (groupOrder module).flatMap (groupOf module index) =
      ((groupOrder module).flatMap fun kind =>
        (kindedDocuments module index).filter fun pair => pair.1 = kind).map Prod.snd := by
    rw [List.map_flatMap]
    exact List.flatMap_congr fun kind _ => groupOf_eq_filter module index kind
  have documents : (kindedDocuments module index).map Prod.snd =
      index :: (entities module).map documentOf := by
    rw [kindedDocuments, List.map_cons, List.map_map]
    rfl
  rw [documents] at gathered
  rw [allDocuments_bookOf, groups]
  refine (gathered.append_right [summary]).trans ?_
  rw [List.cons_append]
  exact List.perm_middle.symm

/-! ## Files -/

theorem place_documentOf {node : Node} (entity : node ∈ entities module) :
    Route.place node.kind node.name = .ok (documentOf node).path := by
  have documented : Route.isRouted node.kind := by
    rw [Entity.isRouted_eq_isDocumented]
    exact (List.mem_filter.mp entity).2
  obtain ⟨path, placed⟩ := Route.place_of_isRouted documented node.name
  have found : Route.place? node.kind node.name = some path := by
    rw [Route.place] at placed
    split at placed
    · next other found => rw [found, Except.ok.inj placed]
    · cases placed
  rw [placed, documentOf, Entity.page, found, Option.getD_some]

/-- Every document stands in the file of its place and in no other one. -/
theorem existsUnique_file (b : Book) {d : Document} (present : d ∈ b.allDocuments) :
    ∃! file, file ∈ b.files ∧ d ∈ b.documentsAt file.1 := by
  have here : d ∈ b.documentsAt (d.place b.directory) :=
    List.mem_filter.mpr ⟨present, beq_self_eq_true _⟩
  rw [Book.files_eq]
  refine ⟨_, ⟨List.mem_map.mpr ⟨d.place b.directory, ?_, rfl⟩, here⟩, ?_⟩
  · rw [List.mem_eraseDups]
    exact List.mem_map_of_mem present
  · rintro file ⟨listed, held⟩
    obtain ⟨place, -, rfl⟩ := List.mem_map.mp listed
    have same : d.place b.directory = place := eq_of_beq (List.mem_filter.mp held).2
    rw [same]

/-- The book of an accepted record holds the document of each documented child of the module once:
grouped by kind in the order of the walk, the index in front of the enumerations, the summary at
the end. A file is the join of the finalized documents whose place it is, in that order. -/
theorem documents_stand_in_walk_order {c : Compiler} {s : Session} {root : Node} {b : Book}
    (processed : ((c.process root).on s).2 = .ok b) :
    ∃ module summary index,
      root.findModule c.moduleName = .ok module ∧
      (c.generated s.files (c.pagesBook module)).outcome = .ok (summary, index) ∧
      (∀ node ∈ entities module,
        Route.place node.kind node.name = .ok (documentOf node).path) ∧
      index.path = Route.enumerationsFile ∧ summary.path = Route.summaryFile ∧
      b.documents = (groupOrder module).map (fun kind => (kind, groupOf module index kind)) ∧
      b.allDocuments = (groupOrder module).flatMap (groupOf module index) ++ [summary] ∧
      b.allDocuments.Perm ((entities module).map documentOf ++ [index, summary]) ∧
      b.contents.1.allDocuments = b.allDocuments.map (Document.link b.registry c.directory) ∧
      b.contents.2 =
        (b.contents.1.allDocuments.map (Document.place c.directory)).eraseDups.map (fun place =>
          (place, Text.joinLines ((b.contents.1.documentsAt place).map Document.text))) ∧
      ∀ d ∈ b.contents.1.allDocuments,
        ∃! file, file ∈ b.contents.2 ∧ d ∈ b.contents.1.documentsAt file.1 := by
  obtain ⟨module, summary, index, found, generated, rfl⟩ := process_eq_ok processed
  obtain ⟨⟨summaryPath, -⟩, indexPath, -⟩ := generated_eq_ok generated
  have directory := c.directory_bookOf module summary index
  refine ⟨module, summary, index, found, generated, fun node => place_documentOf module, indexPath,
    summaryPath, documents_bookOf .., allDocuments_bookOf .., perm_allDocuments_bookOf .., ?_, ?_,
    ?_⟩
  · rw [Book.contents, Book.allDocuments_finalize (finalized_bookOf ..), directory]
  · rw [Book.contents, Book.files_eq, Book.directory_finalize, directory]
  · exact fun d present => existsUnique_file _ present

/-- In the book of the small library a class shares the file of the functions, and the index comes
behind the classes. -/
theorem documents_of_library :
    ∃ b, (((plain ["book"]).process (recordOf library)).on emptySession).2 = .ok b ∧
      b.documents.keys = [.function, .objectClass, .enumeration] ∧
      b.allDocuments.map Document.path =
        ["api/Functions.md", "api/Functions.md", "api/Driver.md", "Enumerations.md",
          "SUMMARY.md"] := by
  obtain ⟨b, processed, -⟩ := processed_of_yields library_written
  obtain ⟨module, summary, index, found, -, -, indexPath, summaryPath, groups, documents, -⟩ :=
    documents_stand_in_walk_order processed
  obtain rfl := eq_moduleOf found
  refine ⟨b, processed, ?_, ?_⟩
  · rw [groups]
    rfl
  · have paths : ((groupOrder (moduleOf library)).flatMap
        (groupOf (moduleOf library) index)).map Document.path =
        ["api/Functions.md", "api/Functions.md", "api/Driver.md", index.path] := rfl
    rw [documents, List.map_append, paths, List.map_singleton, indexPath, summaryPath]
    rfl

end Compiler

end Bindery
