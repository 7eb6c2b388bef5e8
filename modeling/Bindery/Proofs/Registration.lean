import Bindery.Proofs.Confinement
import Bindery.Proofs.LastRegistrations

/-!
# What a name leads to

The registry of a book is filled in three layers: the names that every book knows, those that the
settings add, and those of the documented children of the module in the order of the walk. What the
walk registers are files of the book.
-/

namespace Bindery

/-! ## The places of files as texts -/

theorem Path.text_ne_empty {p : Path} {s : String} (listed : s ∈ p.segments) (filled : s ≠ "") :
    p.text ≠ "" := by
  obtain ⟨anchor, segments⟩ := p
  intro empty
  have glued : Text.glue '/' (segments.map String.toList) = [] := by
    have characters := congrArg String.toList empty
    rw [Path.text] at characters
    split at characters
    · cases characters
    · rw [String.toList_append, Text.joinWith, String.toList_ofList] at characters
      exact (List.append_eq_nil_iff.mp characters).2
  cases segments with
  | nil => cases listed
  | cons first rest =>
      cases rest with
      | nil =>
          rw [List.mem_singleton.mp listed] at filled
          exact filled (String.toList_inj.mp glued)
      | cons second more =>
          rw [List.map_cons, List.map_cons, Text.glue] at glued
          exact absurd (List.append_eq_nil_iff.mp glued).2 (List.cons_ne_nil _ _)

namespace Compiler

theorem text_div_route_ne_empty (c : Compiler) {module : Node} {route : String}
    (known : route ∈ routes module) : (c.directory / route).text ≠ "" := by
  obtain ⟨s, listed⟩ := List.exists_mem_of_ne_nil _ (relative_of_mem_routes known).2
  have segment : Path.isSegment s := (List.mem_filter.mp listed).2
  have filled : s ≠ "" := by
    rintro rfl
    cases segment
  rw [c.div_route known]
  exact Path.text_ne_empty (List.mem_append_right _ listed) filled

/-! ## The registry of a book -/

/-- What the walk over a module registers, in order: for each documented child the names under which
it is found, each for the file of its document. -/
def walkRegistrations (c : Compiler) (module : Node) : List (String × String) :=
  (entities module).flatMap fun node =>
    ((Entity.registeredNames node).filter (· ≠ "")).map fun name =>
      (name, (c.directory / (documentOf node).path).text)

theorem filter_registrations (c : Compiler) (module : Node) :
    (Book.registrations c.directory ((entities module).map Entity.page)).filter Registry.isKept =
      c.walkRegistrations module := by
  rw [Book.registrations, List.flatMap_map, List.filter_flatMap, walkRegistrations]
  refine List.flatMap_congr fun node entity => ?_
  rw [List.filter_map]
  have leads := c.text_div_route_ne_empty (mem_routes_of_entity entity)
  refine congrArg (List.map _) (List.filter_congr fun name _ => ?_)
  show ((name ≠ "" : Bool) && ((c.directory / (documentOf node).path).text ≠ "" : Bool)) = _
  rw [decide_eq_true leads, Bool.and_true]

variable (c : Compiler) (module : Node) (summary index : Document)

theorem registry_bookOf :
    (c.bookOf module summary index).registry =
      Registry.empty.registerAll (Registry.builtins ++ c.references ++
        Book.registrations c.directory ((entities module).map Entity.page)) := by
  rw [Registry.registerAll_append, Registry.registerAll_append]
  exact Book.registry_addPages _ _

/-- The walk decides before the settings, and these before what every book knows. -/
theorem resolve_bookOf {n : String} (named : n ≠ "") :
    (c.bookOf module summary index).registry.resolve n =
      (((Registry.lastTarget n (c.walkRegistrations module)).or
        (Registry.lastTarget n c.references)).or
        (Registry.lastTarget n Registry.builtins)).map fun target => ⟨target, none⟩ := by
  rw [registry_bookOf, Registry.resolve_registerAll_eq named, Registry.lastTarget_append,
    Registry.lastTarget_append, ← filter_registrations, Registry.lastTarget_filter_isKept named,
    ← Option.or_assoc]
  exact Option.or_none

theorem resolve_empty_bookOf : (c.bookOf module summary index).registry.resolve "" = none := by
  rw [registry_bookOf, Registry.resolve_empty_registerAll]
  rfl

theorem names_bookOf :
    (c.bookOf module summary index).registry.names =
      (Registry.builtins.map Prod.fst ++ (c.references.filter Registry.isKept).map Prod.fst ++
        (c.walkRegistrations module).map Prod.fst).eraseDups := by
  have builtinsKept : Registry.builtins.filter Registry.isKept = Registry.builtins := by
    decide +kernel
  rw [registry_bookOf, Registry.names_registerAll, List.filter_append, List.filter_append,
    builtinsKept, filter_registrations, List.map_append, List.map_append]

theorem lastTarget_builtins (n : String) :
    Registry.lastTarget n Registry.builtins = Table.get? n Registry.builtins := by
  have distinct : (Table.keys Registry.builtins).Nodup := by decide +kernel
  have filled : ∀ pair ∈ Registry.builtins, pair.2 ≠ "" := by decide +kernel
  rw [Registry.lastTarget_of_nodup distinct]
  cases bound : Table.get? n Registry.builtins with
  | none => rfl
  | some target => exact Option.filter_some_pos (decide_eq_true (filled _ (Table.mem_of_get? bound)))

/-- In the book of an accepted record a name leads to the file of the child that registered it last in
the walk; a name that the walk never registers leads where the settings say, if they lead it
somewhere, and otherwise where every book leads it. The empty name leads nowhere. What the walk
registers are files of the book, and names stand where they were first registered. -/
theorem resolve_eq_last_registration {c : Compiler} {s : Session} {root : Node} {b : Book}
    (mapping : c.references.keys.Nodup) (processed : ((c.process root).on s).2 = .ok b)
    {module : Node} (found : root.findModule c.moduleName = .ok module) :
    (∀ n, n ≠ "" → b.registry.resolve n =
        (((Registry.lastTarget n (c.walkRegistrations module)).or
          ((c.references.get? n).filter (· ≠ ""))).or
          (Table.get? n Registry.builtins)).map fun target => ⟨target, none⟩) ∧
      b.registry.resolve "" = none ∧
      (∀ node ∈ entities module, Route.place node.kind node.name = .ok (documentOf node).path) ∧
      (∀ pair ∈ c.walkRegistrations module, ∃ file ∈ b.contents.2.keys, pair.2 = file.text) ∧
      b.registry.names =
        (Registry.builtins.map Prod.fst ++ (c.references.filter Registry.isKept).map Prod.fst ++
          (c.walkRegistrations module).map Prod.fst).eraseDups := by
  obtain ⟨accepted⟩ := process_eq_ok processed
  obtain rfl : accepted.module = module := Except.ok.inj (accepted.found.symm.trans found)
  have book := congrArg Book.registry accepted.book_eq
  rw [book]
  refine ⟨?_, resolve_empty_bookOf .., fun node => place_documentOf _, ?_, names_bookOf ..⟩
  · intro n named
    rw [resolve_bookOf _ _ _ _ named, Registry.lastTarget_of_nodup mapping, lastTarget_builtins]
  · intro pair registered
    obtain ⟨node, entity, inside⟩ := List.mem_flatMap.mp registered
    obtain ⟨name, -, rfl⟩ := List.mem_map.mp inside
    refine ⟨c.directory / (documentOf node).path, ?_, rfl⟩
    exact accepted.mem_keys_iff.mpr ⟨_, mem_routes_of_entity entity, rfl⟩

/-- A compiler whose settings lead a page, a name that every book knows, and the empty name. -/
def referring : Compiler :=
  { plain ["book"] with
    references := [("Page", "page.md"), ("Map", "map.md"), ("", "start.md")] }

theorem referring_written :
    referring.yields (recordOf [selfClass "Map"]) fun b => b.registry.resolve "" = none :=
  yields_of_walks rfl rfl book_lists_no_examples (by decide +kernel) (by decide +kernel)

/-- A class takes the name that the settings and every book lead elsewhere. -/
theorem map_leads_to_its_class :
    ∃ b, ((referring.process (recordOf [selfClass "Map"])).on emptySession).2 = .ok b ∧
      b.registry.resolve "Map" = some ⟨"/book/api/Map.md", none⟩ ∧
      b.registry.resolve "Page" = some ⟨"page.md", none⟩ ∧
      b.registry.resolve "UnixTime" = some ⟨"https://en.wikipedia.org/wiki/Unix_time", none⟩ ∧
      b.registry.resolve "Frame" = none := by
  obtain ⟨b, processed, -⟩ := processed_of_yields referring_written
  have found : (recordOf [selfClass "Map"]).findModule Settings.usualModule =
      .ok (moduleOf [selfClass "Map"]) := rfl
  obtain ⟨leads, -⟩ := resolve_eq_last_registration (by decide) processed found
  refine ⟨b, processed, ?_, ?_, ?_, ?_⟩
  · rw [leads "Map" (by decide)]
    decide +kernel
  · rw [leads "Page" (by decide)]
    decide +kernel
  · rw [leads "UnixTime" (by decide)]
    decide +kernel
  · rw [leads "Frame" (by decide)]
    decide +kernel

/-- The settings can lead the empty name somewhere, but the registry ignores it. -/
theorem empty_name_not_registered :
    ∃ b, ((referring.process (recordOf [selfClass "Map"])).on emptySession).2 = .ok b ∧
      (∀ pair ∈ referring.walkRegistrations (moduleOf [selfClass "Map"]), pair.1 ≠ "") ∧
      referring.references.get? "" = some "start.md" ∧ b.registry.resolve "" = none := by
  obtain ⟨b, processed, unresolved⟩ := processed_of_yields referring_written
  exact ⟨b, processed, by decide +kernel, by decide, of_decide_eq_true unresolved⟩

end Compiler

end Bindery
