import Bindery.Proofs.Confinement
import Bindery.Proofs.Footers
import Bindery.Proofs.Hashes
import Bindery.Proofs.LastRegistrations

/-!
# Links between documents

A name that the entities of a module registered leads to the file of the last entity that did so.
The footer of a document that needs the name defines it once, by a link from the directory of the
document. The link arrives at that file exactly if the links of the book keep their way through the
hashes of its directory, as they do when the directory has none.
-/

namespace Bindery

/-! ## Registered names -/

namespace Registry

variable {n : String}

/-- The last registration of a name is the one that stays. -/
theorem resolve_registerAll {target : String} (named : n ≠ "") (leads : target ≠ "")
    (before : List (String × String)) {after : List (String × String)}
    (last : n ∉ after.map Prod.fst) (r : Registry) :
    (r.registerAll (before ++ (n, target) :: after)).resolve n = some ⟨target, none⟩ := by
  rw [resolve_registerAll_eq named, lastTarget_append, lastTarget, lastTarget_eq_none last,
    if_pos ⟨rfl, leads⟩]
  rfl

end Registry

namespace Compiler

/-- A name leads to the file of the last entity that registered it. -/
theorem lead_bookOf (c : Compiler) (absolute : c.directory.isAbsolute) {module : Node}
    {before after : List Node} {child : Node} (split : entities module = before ++ child :: after)
    {n : String} (named : n ≠ "") (registered : n ∈ Entity.registeredNames child)
    (last : ∀ later ∈ after, n ∉ Entity.registeredNames later) (summary index : Document) :
    (c.bookOf module summary index).registry.lead n =
      some ⟨(c.directory / (documentOf child).path).text, none⟩ := by
  have registry : (c.bookOf module summary index).registry =
      c.blankBook.registry.registerAll
        (Book.registrations c.directory ((entities module).map Entity.page)) :=
    Book.registry_addPages _ _
  have entity : child ∈ entities module := by
    rw [split]
    exact List.mem_append_right _ List.mem_cons_self
  have leads : (c.directory / (documentOf child).path).text ≠ "" := by
    intro empty
    obtain ⟨rest, opens⟩ :=
      Path.text_opens (isAbsolute_div_route absolute (mem_routes_of_entity entity))
    rw [empty] at opens
    cases opens
  -- A page may register one name several times, each time for the same file.
  obtain ⟨front, m, back, names, same, others⟩ :=
    exists_last_of_mem (· = n) registered rfl
  have pairs : Book.registrations c.directory ((entities module).map Entity.page) =
      (Book.registrations c.directory (before.map Entity.page) ++
          front.map fun name => (name, (c.directory / (documentOf child).path).text)) ++
        (n, (c.directory / (documentOf child).path).text) ::
          ((back.map fun name => (name, (c.directory / (documentOf child).path).text)) ++
            Book.registrations c.directory (after.map Entity.page)) := by
    have here : (Entity.page child).names.map
          (fun name => (name, Book.pageTarget c.directory (Entity.page child))) =
        (front ++ n :: back).map
          fun name => (name, (c.directory / (documentOf child).path).text) := by
      rw [← same, ← names]
      rfl
    rw [split, List.map_append, List.map_cons, Book.registrations, List.flatMap_append,
      List.flatMap_cons, here, List.map_append, List.map_cons]
    simp [Book.registrations]
  rw [Registry.lead_eq_some_iff, registry, pairs]
  refine ⟨Registry.resolve_registerAll named leads _ ?_ _, leads⟩
  intro again
  obtain ⟨pair, listed, called⟩ := List.mem_map.mp again
  rcases List.mem_append.mp listed with behind | later
  · obtain ⟨name, inside, rfl⟩ := List.mem_map.mp behind
    exact others name inside called
  · obtain ⟨p, paged, known⟩ := List.mem_flatMap.mp later
    obtain ⟨node, entity, rfl⟩ := List.mem_map.mp paged
    obtain ⟨name, inside, rfl⟩ := List.mem_map.mp known
    subst called
    exact last node entity inside

end Compiler

/-! ## Routes of registrants -/

namespace Route

open Token (IsWord)

/-- The characters of a word with the ending of a file. -/
theorem toList_file (n : String) : (n ++ ".md").toList = n.toList ++ ['.', 'm', 'd'] := by
  rw [String.toList_append]
  rfl

theorem not_mem_file {n : String} (word : IsWord n) {c : Char} (noWord : Text.isWord c = false)
    (ending : c ∉ ['.', 'm', 'd']) : c ∉ (n ++ ".md").toList := by
  rw [toList_file, List.mem_append, not_or]
  refine ⟨fun inside => ?_, ending⟩
  have isWord := word.2 c inside
  rw [noWord] at isWord
  cases isWord

theorem steps_ownFile_of_word {n : String} (word : IsWord n) :
    steps (ownFile n) = ["api", n ++ ".md"] := by
  have whole : Text.splitAt '/' (n ++ ".md") = [n ++ ".md"] := by
    rw [Text.splitAt, Text.cut_of_free (not_mem_file word (by decide) (by decide))]
    simp
  have segment : Path.isSegment (n ++ ".md") := by
    have long : ∀ s : String, s.toList.length < 3 → n ++ ".md" ≠ s := by
      rintro s short rfl
      rw [toList_file, List.length_append] at short
      exact absurd short (by simp)
    simp [Path.isSegment, long "." (by decide), long "" (by decide)]
  rw [steps_ownFile, steps, Path.ofString, whole]
  simp [segment]

/-- The route of an entity that registered a word leads straight down and holds no hash. -/
theorem steps_of_registrant {node : Node} (documented : Entity.isDocumented node.kind) {n : String}
    (word : IsWord n) (registered : n ∈ Entity.registeredNames node) :
    ".." ∉ steps (Compiler.documentOf node).path ∧
      ∀ s ∈ steps (Compiler.documentOf node).path, '#' ∉ s.toList := by
  have own : ".." ∉ steps (ownFile n) ∧ ∀ s ∈ steps (ownFile n), '#' ∉ s.toList := by
    rw [steps_ownFile_of_word word]
    constructor
    · intro dots
      rcases List.mem_cons.mp dots with same | last
      · exact absurd same (by decide)
      · have lengths := congrArg String.toList (List.mem_singleton.mp last)
        rw [toList_file] at lengths
        have counted := congrArg List.length lengths
        simp at counted
    · intro s listed
      rcases List.mem_cons.mp listed with rfl | last
      · decide
      · rw [List.mem_singleton.mp last]
        exact not_mem_file word (by decide) (by decide)
  have functions : ".." ∉ steps functionsFile ∧ ∀ s ∈ steps functionsFile, '#' ∉ s.toList := by
    decide
  have interfaces : ".." ∉ steps interfacesFile ∧ ∀ s ∈ steps interfacesFile, '#' ∉ s.toList := by
    decide
  have named : node.kind ≠ .function → node.name = n := by
    intro kind
    rw [Entity.registeredNames, if_neg kind] at registered
    exact (List.mem_singleton.mp registered).symm
  rw [Compiler.documentOf, Entity.page]
  cases kind : node.kind with
  | module | objectClass =>
      have same := named (by rw [kind]; decide)
      rw [place?, same]
      exact own
  | function => exact functions
  | interface | typeAlias | enumeration => exact interfaces
  | _ =>
      rw [kind] at documented
      cases documented

end Route

namespace Compiler

/-! ## Links of a book -/

section Accepted

variable {c : Compiler} {t : FileTree} {root : Node} {b : Book}

/-- The last entity that registered a word leads it to its own file. -/
theorem Accepted.exists_last_registrant (accepted : Accepted c t root b)
    (absolute : c.directory.isAbsolute) {n : String} (word : Token.IsWord n)
    (registered : ∃ node ∈ entities accepted.module, n ∈ Entity.registeredNames node) :
    ∃ before child after, entities accepted.module = before ++ child :: after ∧
      n ∈ Entity.registeredNames child ∧ (∀ later ∈ after, n ∉ Entity.registeredNames later) ∧
      b.registry.lead n = some ⟨(c.directory / (documentOf child).path).text, none⟩ := by
  obtain ⟨node, entity, known⟩ := registered
  obtain ⟨before, child, after, split, registers, last⟩ := exists_last_of_mem
    (fun node => n ∈ Entity.registeredNames node) entity known
  refine ⟨before, child, after, split, registers, last, ?_⟩
  rw [accepted.book_eq]
  exact lead_bookOf c absolute split word.1 registers last _ _

/-- A document stands in the directory that its route leads to from the book. -/
theorem Accepted.parent_place (accepted : Accepted c t root b) {d : Document}
    (listed : d ∈ b.allDocuments) : (d.place c.directory).parent =
      ⟨c.directory.anchor, c.directory.segments ++ (Route.steps d.path).dropLast⟩ := by
  have route := accepted.mem_paths_iff.mp (List.mem_map_of_mem listed)
  rw [Document.place, c.div_route route, Path.parent,
    List.dropLast_append_of_ne_nil (relative_of_mem_routes route).2]

end Accepted

/-- A document that needs a name which entities of the module registered: once the book is
finalized, its footer defines the name exactly once, by a link, and the file of the last entity that
registered the name is a file of the book. The link leads from the directory of the document to
that file exactly if the directory of the book keeps its links from there, as one without a hash
does. Where no double dots stand in the way, that is exactly if the name with the first hash begins
with a segment of its own. -/
theorem link_leads_to_last_registrant_iff {c : Compiler} {s : Session} {root : Node} {b : Book}
    (read : Path.AreRead c.directory.segments) (absolute : c.directory.isAbsolute)
    (processed : ((c.process root).on s).2 = .ok b) {module : Node}
    (found : root.findModule c.moduleName = .ok module) {i : Nat} {d : Document}
    (listed : b.allDocuments[i]? = some d) (linked : d.linked) {n : String}
    (needed : n ∈ d.references)
    (registered : ∃ node ∈ entities module, n ∈ Entity.registeredNames node) :
    ∃ before child after finished footer target,
      entities module = before ++ child :: after ∧ n ∈ Entity.registeredNames child ∧
      (∀ later ∈ after, n ∉ Entity.registeredNames later) ∧
      b.finalize.allDocuments[i]? = some finished ∧ finished.lines = d.lines ++ footer ∧
      footer.filter (Document.defines n) = ["[" ++ n ++ "]: " ++ target] ∧
      c.directory / (documentOf child).path ∈ b.contents.2.keys ∧
      (((d.place c.directory).parent / target).normal =
          (c.directory / (documentOf child).path).normal ↔
        Path.keepsLinks c.directory.segments (d.place c.directory).parent.segments) ∧
      (∀ front name back, c.directory.segments = front ++ name :: back →
        (∀ segment ∈ front, '#' ∉ segment.toList) → '#' ∈ name.toList →
        ".." ∉ c.directory.segments → ".." ∉ Route.steps d.path →
        (((d.place c.directory).parent / target).normal =
            (c.directory / (documentOf child).path).normal ↔
          Target.file name ≠ "" ∧ Target.file name ≠ "." ∧
            (Target.file name = ".." → front ≠ []))) ∧
      ((∀ segment ∈ c.directory.segments, '#' ∉ segment.toList) →
        ((d.place c.directory).parent / target).normal =
          (c.directory / (documentOf child).path).normal) := by
  obtain ⟨accepted⟩ := process_eq_ok processed
  obtain rfl : accepted.module = module := Except.ok.inj (accepted.found.symm.trans found)
  have word := Document.isWord_of_mem_references needed
  obtain ⟨before, child, after, split, registers, last, lead⟩ :=
    accepted.exists_last_registrant absolute word registered
  have inside : child ∈ entities accepted.module := by
    rw [split]
    exact List.mem_append_right _ List.mem_cons_self
  have file := c.div_route (mem_routes_of_entity inside)
  have parent := accepted.parent_place (List.mem_of_getElem? listed)
  have rooted : (d.place c.directory).parent.anchor = c.directory.anchor := by rw [parent]
  -- The name is a word, so that only the directory can lead up or hold a hash.
  obtain ⟨plain, free⟩ :=
    Route.steps_of_registrant (List.mem_filter.mp inside).2 word registers
  have leads := Path.normal_seenFrom_iff absolute read (Path.areRead_ofString _) plain free
    c.directory rooted
  refine ⟨before, child, after, d.link b.registry c.directory,
    (d.footer b.registry c.directory).map Line.text,
    Target.seenFrom c.directory (d.place c.directory).parent
      (c.directory / (documentOf child).path).text,
    split, registers, last, ?_, ?_, ?_, ?_, ?_, ?_, ?_⟩
  · rw [Book.allDocuments_finalize accepted.finalized_eq, List.getElem?_map, listed,
      accepted.directory_eq]
    rfl
  · rw [Document.link, if_pos linked, Document.lines_extend]
  · rw [Document.filter_footer b.registry c.directory needed lead]
    exact congrArg (fun line => [line]) String.append_empty
  · exact accepted.mem_keys_iff.mpr ⟨_, mem_routes_of_entity inside, rfl⟩
  · rw [file]
    exact leads
  · intro front name back segments clean hash here below
    have plain : ".." ∉ front ++ name :: (back ++ (Route.steps d.path).dropLast) := by
      rw [← List.cons_append, ← List.append_assoc, ← segments, List.mem_append, not_or]
      exact ⟨here, fun inside => below (List.dropLast_subset _ inside)⟩
    have kept := Path.keepsLinks_below_iff clean hash plain
    rw [file]
    refine leads.trans ?_
    rw [parent]
    dsimp only
    rw [segments, kept, Path.isSegment]
    simp [and_assoc]
  · intro clean
    rw [file]
    exact leads.mpr (Path.keepsLinks_of_free clean _)

/-- In the small library the function links to the class that it gives, which has its file beside
that of the functions. -/
theorem launch_links_to_driver :
    ∃ b, (((plain ["book"]).process (recordOf library)).on emptySession).2 = .ok b ∧
      ∃ finished footer target, b.finalize.allDocuments[0]? = some finished ∧
        finished.lines = (documentOf (openFunction "launch" "Driver")).lines ++ footer ∧
        footer.filter (Document.defines "Driver") = ["[Driver]: " ++ target] ∧
        ((⟨.root, ["book", "api"]⟩ : Path) / target).normal =
          ⟨.root, ["book", "api", "Driver.md"]⟩ := by
  obtain ⟨b, processed, -⟩ := processed_of_yields library_written
  obtain ⟨accepted⟩ := process_eq_ok processed
  have found : (recordOf library).findModule Settings.usualModule = .ok (moduleOf library) := rfl
  have first : b.allDocuments[0]? = some (documentOf (openFunction "launch" "Driver")) := by
    rw [accepted.book_eq, allDocuments_bookOf, eq_moduleOf accepted.found]
    rfl
  have read : Path.AreRead (plain ["book"]).directory.segments := Path.areRead_ofString "/book"
  have all : entities (moduleOf library) =
      [openFunction "launch" "Driver", selfClass "Functions", selfClass "Driver"] := rfl
  obtain ⟨before, child, after, finished, footer, target, split, registers, -, listed, lines,
    defined, -, -, -, leads⟩ := link_leads_to_last_registrant_iff (n := "Driver") read
      (by decide) processed found first rfl (by decide +kernel)
      ⟨selfClass "Driver", by rw [all]; simp, by decide⟩
  have path : (documentOf child).path = "api/Driver.md" := by
    have only : ∀ node ∈ entities (moduleOf library), "Driver" ∈ Entity.registeredNames node →
        (documentOf node).path = "api/Driver.md" := by
      rw [all]
      simp only [List.forall_mem_cons]
      exact ⟨by decide, by decide, fun _ => rfl, by simp⟩
    exact only child (by rw [split]; simp) registers
  refine ⟨b, processed, finished, footer, target, listed, lines, defined, ?_⟩
  have arrives := leads (by decide)
  rw [path] at arrives
  exact arrives

/-- A book in a directory whose name begins with a hash: the link of a class to itself loses its way
above the directory. -/
theorem link_lost_at_hash :
    ∃ b d finished, (((plain ["x", "#b"]).process (recordOf [selfClass "Foo"])).on
        emptySession).2 = .ok b ∧
      b.allDocuments[0]? = some d ∧ d.path = "api/Foo.md" ∧ d.linked ∧ d.references = ["Foo"] ∧
      b.registry.resolve "Foo" = some ⟨"/x/#b/api/Foo.md", none⟩ ∧
      b.finalize.allDocuments[0]? = some finished ∧
      finished.lines = d.lines ++ ["", "[Foo]: ../..#b/api/Foo.md"] ∧
      ((d.place b.directory).parent / "../..#b/api/Foo.md").normal ≠
        (d.place b.directory).normal := by
  have made : (plain ["x", "#b"]).yields (recordOf [selfClass "Foo"]) fun b =>
      b.directory = ⟨.root, ["x", "#b"]⟩ ∧
        b.registry.resolve "Foo" = some ⟨"/x/#b/api/Foo.md", none⟩ ∧
        b.allDocuments[0]? = some (documentOf (selfClass "Foo")) ∧
        (b.finalize.allDocuments[0]?.map Document.lines) =
          some ((documentOf (selfClass "Foo")).lines ++ ["", "[Foo]: ../..#b/api/Foo.md"]) :=
    yields_of_walks rfl rfl (eq_ok_of_toOption (by decide +kernel)) (by decide +kernel)
      (by decide +kernel)
  obtain ⟨b, processed, found⟩ := processed_of_yields made
  obtain ⟨directory, registered, first, linked⟩ := of_decide_eq_true found
  obtain ⟨finished, listed, lines⟩ := Option.map_eq_some_iff.mp linked
  refine ⟨b, _, finished, processed, first, by decide +kernel, rfl, by decide +kernel, registered,
    listed, lines, ?_⟩
  rw [directory]
  decide +kernel

end Compiler

end Bindery
