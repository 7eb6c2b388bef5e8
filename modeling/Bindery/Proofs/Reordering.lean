import Bindery.Proofs.Registration

/-!
# The order of entities

The document of an entity does not depend on what was walked before it, and its footer depends only
on where the names lead in the end. So if no name is registered for two files, the order in which
the children of a module stand decides nothing but the order of the documents and the summary: a
reference to an entity that comes later is defined like one to an entity that came before.
-/

namespace Bindery

/-! ## Registrations in another order -/

namespace Registry

variable {n : String}

theorem mem_of_lastTarget {pairs : List (String × String)} {target : String}
    (last : lastTarget n pairs = some target) : (n, target) ∈ pairs ∧ target ≠ "" := by
  induction pairs with
  | nil => cases last
  | cons pair rest ih =>
      obtain ⟨name, given⟩ := pair
      rw [lastTarget, Option.or_eq_some_iff] at last
      rcases last with later | ⟨-, here⟩
      · obtain ⟨listed, leads⟩ := ih later
        exact ⟨List.mem_cons_of_mem _ listed, leads⟩
      · split at here
        · next registered =>
            obtain ⟨rfl, leads⟩ := registered
            cases here
            exact ⟨List.mem_cons_self, leads⟩
        · cases here

theorem exists_lastTarget {pairs : List (String × String)} {target : String}
    (listed : (n, target) ∈ pairs) (leads : target ≠ "") : ∃ last, lastTarget n pairs = some last := by
  induction pairs with
  | nil => cases listed
  | cons pair rest ih =>
      obtain ⟨name, given⟩ := pair
      rw [lastTarget]
      cases last : lastTarget n rest with
      | some later => exact ⟨later, rfl⟩
      | none =>
          rcases List.mem_cons.mp listed with here | later
          · cases here
            exact ⟨target, by rw [if_pos ⟨rfl, leads⟩]; rfl⟩
          · obtain ⟨found, same⟩ := ih later
            rw [last] at same
            cases same

/-- Which registration of a name comes last does not matter where they all have one target. -/
theorem lastTarget_of_perm {pairs others : List (String × String)} (reordered : pairs.Perm others)
    (single : ∀ pair ∈ pairs, ∀ other ∈ pairs, pair.1 = other.1 → pair.2 = other.2) :
    lastTarget n pairs = lastTarget n others := by
  cases first : lastTarget n pairs with
  | none =>
      cases second : lastTarget n others with
      | none => rfl
      | some target =>
          obtain ⟨listed, leads⟩ := mem_of_lastTarget second
          obtain ⟨last, found⟩ := exists_lastTarget (reordered.mem_iff.mpr listed) leads
          rw [first] at found
          cases found
  | some target =>
      obtain ⟨listed, leads⟩ := mem_of_lastTarget first
      obtain ⟨last, second⟩ := exists_lastTarget (reordered.mem_iff.mp listed) leads
      have other := reordered.mem_iff.mpr (mem_of_lastTarget second).1
      have same : target = last := single _ listed _ other rfl
      rw [second, same]

end Registry

/-! ## Footers by what names lead to -/

/-- A footer asks the registry for nothing but what names lead to. -/
theorem Document.link_congr {r q : Registry} (same : ∀ n, r.resolve n = q.resolve n) (book : Path)
    (d : Document) : d.link r book = d.link q book := by
  have lead : ∀ n, r.lead n = q.lead n := by
    intro n
    rw [Registry.lead, Registry.lead, same]
  have links : d.definitions r book = d.definitions q book := by
    unfold definitions Registry.links
    exact congrArg (List.filterMap · _) (funext fun name => by rw [lead])
  unfold link footer
  rw [links]

namespace Compiler

/-! ## Books of reordered modules -/

variable (c : Compiler)

theorem walkRegistrations_perm {module other : Node}
    (reordered : (entities module).Perm (entities other)) :
    (c.walkRegistrations module).Perm (c.walkRegistrations other) :=
  reordered.flatMap_right _

theorem resolve_bookOf_of_perm {module other : Node}
    (reordered : (entities module).Perm (entities other))
    (single : ∀ pair ∈ c.walkRegistrations module, ∀ rival ∈ c.walkRegistrations module,
      pair.1 = rival.1 → pair.2 = rival.2) (summary index summary' index' : Document) (n : String) :
    (c.bookOf module summary index).registry.resolve n =
      (c.bookOf other summary' index').registry.resolve n := by
  by_cases named : n = ""
  · subst named
    rw [resolve_empty_bookOf, resolve_empty_bookOf]
  · rw [resolve_bookOf _ _ _ _ named, resolve_bookOf _ _ _ _ named,
      Registry.lastTarget_of_perm (c.walkRegistrations_perm reordered) single]

include c in
/-- All documents of a book but the summary: the index and those of the entities. -/
theorem documents_perm (module : Node) (summary index : Document) :
    ((groupOrder module).flatMap (groupOf module index)).Perm
      ((entities module).map documentOf ++ [index]) := by
  have all := perm_allDocuments_bookOf c module summary index
  have ends : (entities module).map documentOf ++ [index, summary] =
      ((entities module).map documentOf ++ [index]) ++ [summary] := by
    rw [List.append_assoc]
    rfl
  rw [allDocuments_bookOf, ends] at all
  exact (List.perm_append_right_iff [summary]).mp all

theorem index_of_generated {t : FileTree} {b : Book} {summary index : Document}
    (generated : (c.generated t b).outcome = .ok (summary, index)) :
    Pages.enumerations t c.templates = .ok index := by
  obtain ⟨examples, -, rest⟩ := Draft.bind_eq_ok_iff.mp generated
  obtain ⟨first, -, rest⟩ := Draft.bind_eq_ok_iff.mp rest
  obtain ⟨second, indexed, given⟩ := Draft.bind_eq_ok_iff.mp rest
  obtain ⟨rfl, rfl⟩ := Prod.mk.inj (Draft.pure_eq_ok_iff.mp given)
  exact indexed

/-- Two accepted records with the same documented children in different orders, of which none
registers a name for another file than the others do: the finalized documents of their books are the
same but for their order and the summary, and names lead to the same entries. Both runs have to find
the same templates, as they do where the project has none of its own. -/
theorem finalized_of_reordered {c : Compiler} {s s' : Session} {root root' : Node} {b b' : Book}
    (processed : ((c.process root).on s).2 = .ok b)
    (processed' : ((c.process root').on s').2 = .ok b')
    (templates : Pages.source s.files c.templates = Pages.source s'.files c.templates)
    {module module' : Node} (found : root.findModule c.moduleName = .ok module)
    (found' : root'.findModule c.moduleName = .ok module')
    (reordered : (entities module).Perm (entities module'))
    (single : ∀ pair ∈ c.walkRegistrations module, ∀ rival ∈ c.walkRegistrations module,
      pair.1 = rival.1 → pair.2 = rival.2) :
    ∃ documents documents' summary summary',
      b.finalize.allDocuments = documents ++ [summary] ∧
      b'.finalize.allDocuments = documents' ++ [summary'] ∧
      summary.path = Route.summaryFile ∧ summary'.path = Route.summaryFile ∧
      documents.Perm documents' ∧ ∀ n, b.registry.resolve n = b'.registry.resolve n := by
  obtain ⟨known, summary, index, foundHere, generated, rfl⟩ := process_eq_ok processed
  obtain ⟨known', summary', index', foundThere, generated', rfl⟩ := process_eq_ok processed'
  obtain rfl : known = module := Except.ok.inj (foundHere.symm.trans found)
  obtain rfl : known' = module' := Except.ok.inj (foundThere.symm.trans found')
  have sameIndex : index = index' := by
    have here := c.index_of_generated generated
    have there := c.index_of_generated generated'
    rw [Pages.enumerations, Pages.render, templates] at here
    exact Except.ok.inj (here.symm.trans there)
  subst sameIndex
  have resolved := c.resolve_bookOf_of_perm reordered single summary index summary' index
  have finalized : ∀ module summary, (c.bookOf module summary index).finalize.allDocuments =
      ((groupOrder module).flatMap (groupOf module index)).map
        (Document.link (c.bookOf module summary index).registry c.directory) ++
        [summary.link (c.bookOf module summary index).registry c.directory] := by
    intro module summary
    rw [Book.allDocuments_finalize (finalized_bookOf ..), allDocuments_bookOf, List.map_append,
      directory_bookOf]
    rfl
  refine ⟨_, _, _, _, finalized known summary, finalized known' summary', ?_, ?_, ?_, resolved⟩
  · rw [Document.path_link]
    exact (generated_eq_ok generated).1.1
  · rw [Document.path_link]
    exact (generated_eq_ok generated').1.1
  · have linked : Document.link (c.bookOf known summary index).registry c.directory =
        Document.link (c.bookOf known' summary' index).registry c.directory :=
      funext (Document.link_congr resolved c.directory)
    rw [linked]
    refine List.Perm.map _ ?_
    refine (c.documents_perm known summary index).trans (List.Perm.trans ?_
      (c.documents_perm known' summary' index).symm)
    exact (reordered.map documentOf).append_right [index]

theorem reversed_library_written :
    (plain ["book"]).yields (recordOf library.reverse) fun b => b.allDocuments.length = 5 :=
  yields_of_walks rfl rfl book_lists_no_examples (by decide +kernel) (by decide +kernel)

/-- In the small library the function refers to a class behind it, and in the reversed one to a class
before it. -/
theorem documents_of_reversed_library :
    ∃ b b', (((plain ["book"]).process (recordOf library)).on emptySession).2 = .ok b ∧
      (((plain ["book"]).process (recordOf library.reverse)).on emptySession).2 = .ok b' ∧
      ∃ documents documents' summary summary',
        b.finalize.allDocuments = documents ++ [summary] ∧
        b'.finalize.allDocuments = documents' ++ [summary'] ∧
        documents.Perm documents' ∧ b.registry.resolve "Driver" = b'.registry.resolve "Driver" := by
  obtain ⟨b, processed, -⟩ := processed_of_yields library_written
  obtain ⟨b', processed', -⟩ := processed_of_yields reversed_library_written
  have found : (recordOf library).findModule Settings.usualModule = .ok (moduleOf library) := rfl
  have found' : (recordOf library.reverse).findModule Settings.usualModule =
      .ok (moduleOf library.reverse) := rfl
  have reordered : (entities (moduleOf library)).Perm (entities (moduleOf library.reverse)) :=
    (List.reverse_perm library).symm.filter _
  obtain ⟨documents, documents', summary, summary', all, all', -, -, same, resolved⟩ :=
    finalized_of_reordered processed processed' rfl found found' reordered (by decide +kernel)
  exact ⟨b, b', processed, processed', documents, documents', summary, summary', all, all', same,
    resolved "Driver"⟩

end Compiler

end Bindery
