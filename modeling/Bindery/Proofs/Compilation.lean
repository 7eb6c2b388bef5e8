import Bindery.Compiler
import Bindery.Proofs.PackagedPages

/-!
# Accepted records

What a compilation that gives a book has done. The page of an entity is a function of the entity
alone: nothing that was walked before it can change it. A book is the blank book with the pages of
the documented children of the module, one for each child in order, and the two generated pages.
-/

namespace Bindery

/-! ## Pages of entities -/

namespace Entity

/-- The lines that the draft of an entity writes. -/
def lines (node : Node) : List Line :=
  match draft? node.kind with
  | some draft => (draft node).lines
  | none => []

/-- The page of an entity. -/
def page (node : Node) : Page :=
  { kind := node.kind
    name := node.name
    names := registeredNames node
    document := ⟨(Route.place? node.kind node.name).getD "", lines node, true⟩ }

/-- Every kind with a draft has a place in the book, and no other kind. -/
theorem isRouted_eq_isDocumented (kind : Kind) : Route.isRouted kind = isDocumented kind := by
  cases kind <;> rfl

end Entity

namespace Visit

theorem pageOf_eq_ok {draft : Node → Draft Unit} {node : Node} {p : Page}
    (drafted : Entity.draft? node.kind = some draft)
    (paged : (pageOf draft node).outcome = .ok p) :
    p = Entity.page node ∧ (draft node).outcome = .ok () := by
  obtain ⟨path, placed, rest⟩ := Draft.bind_eq_ok_iff.mp paged
  obtain ⟨⟨lines, done⟩, captured, shaped⟩ := Draft.bind_eq_ok_iff.mp rest
  obtain ⟨rfl, written⟩ := Draft.capture_eq_ok_iff.mp captured
  have place : Route.place? node.kind node.name = some path := by
    rw [Draft.outcome_ofExcept, Route.place] at placed
    split at placed
    · next found => rw [found, Except.ok.inj placed]
    · cases placed
  have same := Draft.pure_eq_ok_iff.mp shaped
  refine ⟨?_, written⟩
  rw [← same, Entity.page, Entity.lines, drafted, place]
  rfl

theorem pages_cons (visit : Visit) (visits : List Visit) :
    pages (visit :: visits) = visit.page?.toList ++ pages visits := by
  cases visit <;> rfl

/-- A visit gives the page of a documented node and none for any other. -/
theorem ofNode_eq_ok {node : Node} {report after : Report} {visit : Visit}
    (visited : (ofNode node report).outcome = .ok (visit, after)) :
    visit.page?.toList = if Entity.isDocumented node.kind then [Entity.page node] else [] := by
  unfold ofNode at visited
  split at visited
  · next draft drafted =>
      obtain ⟨p, paged, rest⟩ := Draft.bind_eq_ok_iff.mp visited
      obtain ⟨counted, _, given⟩ := Draft.bind_eq_ok_iff.mp rest
      obtain ⟨rfl, -⟩ := pageOf_eq_ok drafted paged
      have same := Draft.pure_eq_ok_iff.mp given
      rw [← (Prod.mk.inj same).1]
      simp [Entity.isDocumented, drafted, page?]
  · next undrafted =>
      obtain ⟨counted, _, given⟩ := Draft.bind_eq_ok_iff.mp visited
      have same := Draft.pure_eq_ok_iff.mp given
      rw [← (Prod.mk.inj same).1]
      simp [Entity.isDocumented, undrafted, page?]

/-- A walk gives one page for each documented node, in order. -/
theorem pages_walk {nodes : List Node} {report after : Report} {visits : List Visit}
    (walked : (walk nodes report).outcome = .ok (visits, after)) :
    pages visits =
      (nodes.filter fun node => Entity.isDocumented node.kind).map Entity.page := by
  induction nodes generalizing report after visits with
  | nil =>
      have same := Draft.pure_eq_ok_iff.mp walked
      rw [← (Prod.mk.inj same).1]
      rfl
  | cons node rest ih =>
      obtain ⟨⟨visit, counted⟩, visited, more⟩ := Draft.bind_eq_ok_iff.mp walked
      obtain ⟨⟨others, final⟩, restWalked, given⟩ := Draft.bind_eq_ok_iff.mp more
      have same := Draft.pure_eq_ok_iff.mp given
      rw [← (Prod.mk.inj same).1, pages_cons, ofNode_eq_ok visited, ih restWalked]
      by_cases documented : Entity.isDocumented node.kind <;> simp [documented]

end Visit

/-! ## Books -/

namespace Compiler

/-- The documented children of a module, in order. -/
def entities (module : Node) : List Node :=
  module.children.filter fun node => Entity.isDocumented node.kind

/-- The book with the pages of a module, before the generated pages. -/
def pagesBook (c : Compiler) (module : Node) : Book :=
  c.blankBook.addPages ((entities module).map Entity.page)

/-- The book of a module with its generated pages. -/
def bookOf (c : Compiler) (module : Node) (summary index : Document) : Book :=
  { (c.pagesBook module).addFirst .enumeration index with summary := some summary }

/-- What an accepted record gives: its module and the two generated pages. -/
structure Accepted (c : Compiler) (t : FileTree) (root : Node) (b : Book) where
  module : Node
  summary : Document
  index : Document
  found : root.findModule c.moduleName = .ok module
  generated : (c.generated t (c.pagesBook module)).outcome = .ok (summary, index)
  book_eq : b = c.bookOf module summary index

theorem compile_eq_ok {c : Compiler} {t : FileTree} {root : Node} {b : Book}
    (compiled : (c.compile t root).outcome = .ok b) : Nonempty (Accepted c t root b) := by
  obtain ⟨module, found, rest⟩ := Draft.bind_eq_ok_iff.mp compiled
  obtain ⟨⟨visits, report⟩, walked, rest⟩ := Draft.bind_eq_ok_iff.mp rest
  obtain ⟨⟨summary, index⟩, generated, rest⟩ := Draft.bind_eq_ok_iff.mp rest
  obtain ⟨-, -, given⟩ := Draft.bind_eq_ok_iff.mp rest
  have book := Draft.pure_eq_ok_iff.mp given
  -- Of the visits only their pages go into the book, and these do not depend on the report.
  rw [Visit.pages_walk walked] at generated book
  exact ⟨⟨module, summary, index, found, generated, book.symm⟩⟩

theorem on_process (c : Compiler) (root : Node) (s : Session) :
    (c.process root).on s =
      (s.recordAll (c.compile s.files root).entries, (c.compile s.files root).outcome) := rfl

theorem outcome_process (c : Compiler) (root : Node) (s : Session) :
    ((c.process root).on s).2 = (c.compile s.files root).outcome := rfl

/-- An accepted record, of a run on a session. -/
theorem process_eq_ok {c : Compiler} {s : Session} {root : Node} {b : Book}
    (processed : ((c.process root).on s).2 = .ok b) : Nonempty (Accepted c s.files root b) :=
  compile_eq_ok (by rwa [outcome_process] at processed)

/-! ## The generated pages -/

/-- The summary has its file and no footer; the index of the enumerations has its file and gets a
footer. -/
theorem generated_eq_ok {c : Compiler} {t : FileTree} {b : Book} {summary index : Document}
    (generated : (c.generated t b).outcome = .ok (summary, index)) :
    (summary.path = Route.summaryFile ∧ summary.linked = false) ∧
      index.path = Route.enumerationsFile ∧ index.linked = true := by
  obtain ⟨examples, -, rest⟩ := Draft.bind_eq_ok_iff.mp generated
  obtain ⟨first, summarized, rest⟩ := Draft.bind_eq_ok_iff.mp rest
  obtain ⟨second, indexed, given⟩ := Draft.bind_eq_ok_iff.mp rest
  obtain ⟨rfl, rfl⟩ := Prod.mk.inj (Draft.pure_eq_ok_iff.mp given)
  rw [Draft.outcome_ofExcept, Pages.summary] at summarized
  rw [Draft.outcome_ofExcept, Pages.enumerations] at indexed
  constructor
  · obtain ⟨text, -, shaped⟩ := Fault.bind_eq_ok_iff.mp summarized
    cases shaped
    exact ⟨rfl, rfl⟩
  · obtain ⟨text, -, shaped⟩ := Fault.bind_eq_ok_iff.mp indexed
    cases shaped
    exact ⟨rfl, rfl⟩

/-- The pages that come with the program are made of the example pages and the links alone, and are
made without a word. -/
theorem generated_eq {c : Compiler} {t : FileTree} {examples : List Example}
    (discovered : (Example.discover t c.directory c.examples).outcome = .ok examples)
    (packaged : c.templates = none) (b : Book) :
    c.generated t b = ⟨(Example.discover t c.directory c.examples).marks,
      .ok (Pages.packagedPages examples b.contentList)⟩ := by
  have summarized : (Draft.ofExcept (Pages.summary t c.templates
      (Pages.bookContext Pages.quickStart examples b.contentList))).outcome =
      .ok (Pages.packagedPages examples b.contentList).1 := by
    rw [packaged]
    exact Pages.summary_packaged t Pages.quickStart examples b.contentList
  have indexed : (Draft.ofExcept (Pages.enumerations t c.templates)).outcome =
      .ok (Pages.packagedPages examples b.contentList).2 := by
    rw [packaged]
    exact Pages.enumerations_packaged t
  rw [generated, Draft.bind_of_ok discovered]
  dsimp only
  rw [Draft.bind_of_ok summarized]
  dsimp only
  rw [Draft.bind_of_ok indexed]
  simp [Draft.ofExcept]

theorem generated_of_discovered {c : Compiler} {t : FileTree} {examples : List Example}
    (discovered : (Example.discover t c.directory c.examples).outcome = .ok examples)
    (packaged : c.templates = none) (b : Book) :
    (c.generated t b).outcome = .ok (Pages.packagedPages examples b.contentList) := by
  rw [generated_eq discovered packaged]

/-- The book of a module with the pages that come with the program. -/
def packagedBook (c : Compiler) (module : Node) (examples : List Example) : Book :=
  let pages := Pages.packagedPages examples (c.pagesBook module).contentList
  c.bookOf module pages.1 pages.2

/-- A record that can be walked gives a book. -/
theorem compile_of_walked {c : Compiler} {t : FileTree} {root module : Node}
    {examples : List Example} {visits : List Visit} {report : Report}
    (packaged : c.templates = none)
    (discovered : (Example.discover t c.directory c.examples).outcome = .ok examples)
    (found : root.findModule c.moduleName = .ok module)
    (walked : (Visit.walk module.children .empty).outcome = .ok (visits, report)) :
    c.compile t root = ⟨(Visit.walk module.children .empty).marks ++
      ((Example.discover t c.directory c.examples).marks ++ report.finish.marks),
        .ok (c.packagedBook module examples)⟩ := by
  have named : (Draft.ofExcept (root.findModule c.moduleName)).outcome = .ok module := found
  rw [compile, Draft.bind_of_ok named]
  dsimp only
  rw [Draft.bind_of_ok walked]
  dsimp only
  rw [Visit.pages_walk walked, generated_eq discovered packaged]
  rfl

/-! ## A small library -/

/-- A class with one property, of the type of the class itself. -/
def selfClass (name : String) : Node :=
  .mk name (.string "Class") none
    [.mk "self" (.string "Property") none [] [] [] (some (.reference (.string name) [])) false none]
    [] [] none false none

/-- A function without parameters whose result is of a named type. -/
def openFunction (name result : String) : Node :=
  .mk name (.string "Function") none []
    [.mk name (.string "Call signature") none [] [] []
      (some (.reference (.string result) [])) false none] [] none false none

def moduleOf (children : List Node) : Node :=
  .mk Settings.usualModule (.string "") none children [] [] none false none

/-- The record of a module with the given children. -/
def recordOf (children : List Node) : Node :=
  .mk "root" (.string "") none [moduleOf children] [] [] none false none

/-- A compiler for a book in a directory below the root. -/
def plain (directory : List String) : Compiler :=
  ⟨⟨.root, directory⟩, Settings.usualModule, Settings.usualExamples, [], none⟩

theorem eq_moduleOf {children : List Node} {module : Node}
    (found : (recordOf children).findModule Settings.usualModule = .ok module) :
    module = moduleOf children :=
  (Except.ok.inj found).symm

/-- A session without files. -/
def emptySession : Session := .start ⟨[], []⟩ ""

/-- Does the compiler make a book of the record that passes the test, in a session without files? -/
def yields (c : Compiler) (root : Node) (test : Book → Bool) : Bool :=
  match ((c.process root).on emptySession).2 with
  | .ok b => test b
  | .error _ => false

theorem book_lists_no_examples :
    (Example.discover emptySession.files (plain ["book"]).directory
      (plain ["book"]).examples).outcome = .ok [] :=
  eq_ok_of_toOption (by decide +kernel)

/-- Can the nodes be walked, one after the other? -/
def walks (nodes : List Node) : Bool := (Visit.walk nodes .empty).outcome.toOption.isSome

theorem process_of_walks {c : Compiler} {s : Session} {children : List Node}
    {examples : List Example} (usual : c.moduleName = Settings.usualModule)
    (packaged : c.templates = none)
    (discovered : (Example.discover s.files c.directory c.examples).outcome = .ok examples)
    (walked : walks children) :
    ((c.process (recordOf children)).on s).2 =
      .ok (c.packagedBook (moduleOf children) examples) := by
  obtain ⟨⟨visits, report⟩, visited⟩ := Option.isSome_iff_exists.mp walked
  have found : (recordOf children).findModule c.moduleName = .ok (moduleOf children) := by
    rw [usual]
    rfl
  rw [on_process, compile_of_walked packaged discovered found (eq_ok_of_toOption visited)]

/-- Which book it is is told without reading a template. -/
theorem yields_of_walks {c : Compiler} {children : List Node} {test : Book → Bool}
    (usual : c.moduleName = Settings.usualModule) (packaged : c.templates = none)
    (unlisted : (Example.discover emptySession.files c.directory c.examples).outcome = .ok [])
    (walked : walks children) (passes : test (c.packagedBook (moduleOf children) [])) :
    c.yields (recordOf children) test := by
  rw [yields, process_of_walks usual packaged unlisted walked]
  exact passes

theorem processed_of_yields {c : Compiler} {root : Node} {test : Book → Bool}
    (yielded : c.yields root test) :
    ∃ b, ((c.process root).on emptySession).2 = .ok b ∧ test b := by
  unfold yields at yielded
  split at yielded
  · next b processed => exact ⟨b, processed, yielded⟩
  · cases yielded

/-- Can the book be written to a tree without files? -/
def writes (b : Book) : Bool :=
  match (b.write.on emptySession).2 with
  | .ok _ => true
  | .error _ => false

theorem written_of_writes {b : Book} (written : writes b) :
    ∃ paths, (b.write.on emptySession).2 = .ok paths := by
  unfold writes at written
  split at written
  · next paths done => exact ⟨paths, done⟩
  · cases written

/-- A function, a class that shares its file, a variable, and the class that the function gives. -/
def library : List Node :=
  [openFunction "launch" "Driver", selfClass "Functions",
    .mk "version" (.string "Variable") none [] [] [] none false none, selfClass "Driver"]

theorem library_written : (plain ["book"]).yields (recordOf library) writes :=
  yields_of_walks rfl rfl book_lists_no_examples (by decide +kernel) (by decide +kernel)

end Compiler

end Bindery
