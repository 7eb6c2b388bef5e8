import Bindery.Proofs.Confinement
import Bindery.Proofs.PackagedPages
import Bindery.Proofs.Spelling

/-!
# The table of contents

The summary of a book has a line for each example page and one for each documented child of the
module: the children stand in groups of one name, in the order in which the names first came. Every
line links to the file in which the document of its child is written. The summary itself gets no
footer.
-/

namespace Bindery

/-! ## Lines that end with a line feed -/

namespace Text

theorem glue_append_sep {sep : Char} {pieces : List (List Char)} (filled : pieces ≠ []) :
    glue sep pieces ++ [sep] = pieces.flatMap fun piece => piece ++ [sep] := by
  induction pieces with
  | nil => exact absurd rfl filled
  | cons piece rest ih =>
      cases rest with
      | nil => rw [glue, List.flatMap_singleton]
      | cons next more =>
          rw [glue, List.flatMap_cons, ← ih (List.cons_ne_nil _ _)]
          simp

theorem joinLines_append_feed {ls : List String} (filled : ls ≠ []) :
    joinLines ls ++ "\n" = String.join (ls.map (· ++ "\n")) := by
  have pieces : ls.map String.toList ≠ [] := by simpa using filled
  have glued : glue '\n' (ls.map String.toList) ++ ['\n'] =
      (ls.map String.toList).flatMap fun piece => piece ++ ['\n'] := glue_append_sep pieces
  have joined : ∀ texts : List String,
      (String.join (texts.map (· ++ "\n"))).toList =
        (texts.map String.toList).flatMap fun piece => piece ++ ['\n'] := by
    intro texts
    induction texts with
    | nil => rfl
    | cons text rest ih =>
        rw [List.map_cons, String.join_cons, String.toList_append, ih, List.map_cons,
          List.flatMap_cons, String.toList_append]
        rfl
  rw [← String.toList_inj, joined, ← glued, String.toList_append, joinLines, joinWith,
    String.toList_ofList]
  rfl

/-- A join ends as its last piece does. -/
theorem glue_concat (sep : Char) (front : List (List Char)) (last : List Char) :
    ∃ before, glue sep (front ++ [last]) = before ++ last := by
  induction front with
  | nil => exact ⟨[], rfl⟩
  | cons piece rest ih =>
      obtain ⟨before, whole⟩ := ih
      cases rest with
      | nil => exact ⟨piece ++ [sep], by simp [glue]⟩
      | cons next more =>
          refine ⟨piece ++ sep :: before, ?_⟩
          rw [List.cons_append, List.cons_append, glue, ← List.cons_append, whole]
          simp

/-- A text of lines, each with its line feed, has these lines once the feed at its end is dropped:
the last line is not empty, so that nothing else is dropped. -/
theorem lines_dropFinalFeeds {front : List String} {last : String} (filled : last ≠ "")
    (free : ∀ line ∈ front ++ [last], '\n' ∉ line.toList) :
    lines (dropFinalFeeds (String.join ((front ++ [last]).map (· ++ "\n")))) =
      front ++ [last] := by
  have some_line : front ++ [last] ≠ [] := by simp
  have ends : (joinLines (front ++ [last])).toList.getLast? ≠ some '\n' := by
    obtain ⟨before, whole⟩ := glue_concat '\n' (front.map String.toList) last.toList
    have characters : last.toList ≠ [] := fun empty => filled (String.toList_inj.mp empty)
    rw [joinLines, joinWith, String.toList_ofList, List.map_append, List.map_singleton, whole,
      List.getLast?_append_of_ne_nil _ characters]
    intro feed
    exact free last (by simp) (List.mem_of_getLast? feed)
  rw [← joinLines_append_feed some_line, dropFinalFeeds_append_feed ends]
  exact splitAt_joinWith some_line free

end Text

namespace Pages

/-! ## The lines of the summary -/

/-- Do the title and the path of an example page hold no line feed? -/
def IsPlain (e : Example) : Prop := '\n' ∉ e.title.toList ∧ '\n' ∉ e.path.toList

def exampleLink (e : Example) : String := "[" ++ e.title ++ "](" ++ e.path ++ ")"

def bullet (entry : String) : String := "  * " ++ entry

/-- The lines of the summary of a book. -/
def summaryLines (quickStart : String) (examples : List Example) (entries : List String) :
    List String :=
  ["# Documentation", "", "[Quick Start](" ++ quickStart ++ ")"] ++ examples.map exampleLink ++
    "" :: "# API" :: entries.map bullet

theorem summaryText_eq (quickStart : String) (examples : List Example) (entries : List String) :
    summaryText quickStart examples entries =
      String.join ((summaryLines quickStart examples entries).map (· ++ "\n")) := by
  have listed : examples.map exampleLine = (examples.map exampleLink).map (· ++ "\n") := by
    rw [List.map_map]
    refine List.map_congr_left fun e _ => ?_
    simp [exampleLine, exampleLink, String.append_assoc]
  have bullets : entries.map entryLine = (entries.map bullet).map (· ++ "\n") := by
    rw [List.map_map]
    rfl
  have opening : "# Documentation\n\n[Quick Start](" =
      "# Documentation" ++ "\n" ++ ("" ++ "\n") ++ "[Quick Start](" := by simp
  have closing : ")\n" = ")" ++ "\n" := by simp
  have api : "\n# API\n" = "" ++ "\n" ++ ("# API" ++ "\n") := by simp
  unfold summaryText
  rw [opening, closing, api]
  simp only [listed, bullets, summaryLines, List.map_append, List.map_cons, List.map_nil,
    String.join_append, String.join_cons, String.join_nil, String.append_assoc,
    String.append_empty, -String.reduceAppend]

/-- The summary of texts without line feeds has its lines as they are. -/
theorem lines_summaryText {quickStart : String} {examples : List Example} {entries : List String}
    (start : '\n' ∉ quickStart.toList)
    (pages : ∀ e ∈ examples, IsPlain e)
    (links : ∀ entry ∈ entries, '\n' ∉ entry.toList) :
    Text.lines (Text.dropFinalFeeds (summaryText quickStart examples entries)) =
      summaryLines quickStart examples entries := by
  -- The last line is the heading of the entities or one of the bullets below it.
  obtain ⟨front, last, split, filled⟩ : ∃ front last,
      summaryLines quickStart examples entries = front ++ [last] ∧ last ≠ "" := by
    cases entries using List.reverseRecOn with
    | nil =>
        refine ⟨["# Documentation", "", "[Quick Start](" ++ quickStart ++ ")"] ++
          examples.map exampleLink ++ [""], "# API", ?_, by decide⟩
        simp [summaryLines]
    | append_singleton before entry =>
        refine ⟨summaryLines quickStart examples before, bullet entry, ?_, ?_⟩
        · simp [summaryLines]
        · intro empty
          simpa [bullet] using congrArg String.toList empty
  have free : ∀ line ∈ summaryLines quickStart examples entries, '\n' ∉ line.toList := by
    intro line listed
    simp only [summaryLines, List.mem_append, List.mem_cons, List.mem_map, List.not_mem_nil,
      or_false] at listed
    rcases listed with ((rfl | rfl | rfl) | ⟨e, known, rfl⟩) | rfl | rfl | ⟨entry, known, rfl⟩
    · decide
    · decide
    · simp [start]
    · simp [exampleLink, (pages e known).1, (pages e known).2]
    · decide
    · decide
    · simp [bullet, links entry known]
  rw [summaryText_eq, split, Text.lines_dropFinalFeeds filled (split ▸ free)]

end Pages

/-! ## The links of a book -/

/-- A route has no line feed if the name has none. -/
theorem Route.not_mem_of_place {kind : Kind} {name route : String}
    (placed : place kind name = .ok route) (plain : '\n' ∉ name.toList) : '\n' ∉ route.toList := by
  have own : '\n' ∉ (ownFile name).toList := by simp [ownFile, plain]
  have functions : '\n' ∉ functionsFile.toList := by decide
  have interfaces : '\n' ∉ interfacesFile.toList := by decide
  cases kind <;> cases placed <;> assumption

theorem Book.contentLinks_addPages (pages : List Page) (b : Book) :
    (b.addPages pages).contentLinks =
      pages.foldl (fun t p => t.push p.name (contentLink p)) b.contentLinks := by
  induction pages generalizing b with
  | nil => rfl
  | cons p rest ih => exact (ih (b.addPage p)).trans rfl

namespace Compiler

/-- The summary is rendered with the example pages that are found and the links of the book. -/
theorem summary_of_generated {c : Compiler} {t : FileTree} {b : Book} {summary index : Document}
    (generated : (c.generated t b).outcome = .ok (summary, index)) :
    ∃ examples, (Example.discover t c.directory c.examples).outcome = .ok examples ∧
      Pages.summary t c.templates (Pages.bookContext Pages.quickStart examples b.contentList) =
        .ok summary := by
  obtain ⟨examples, discovered, rest⟩ := Draft.bind_eq_ok_iff.mp generated
  obtain ⟨first, summarized, rest⟩ := Draft.bind_eq_ok_iff.mp rest
  obtain ⟨second, -, given⟩ := Draft.bind_eq_ok_iff.mp rest
  obtain ⟨rfl, rfl⟩ := Prod.mk.inj (Draft.pure_eq_ok_iff.mp given)
  exact ⟨examples, discovered, summarized⟩

/-- The documented children of a module in groups of one name, each group where the name first
came. -/
def entitiesByName (module : Node) : List Node :=
  ((entities module).map Node.name).eraseDups.flatMap fun name =>
    (entities module).filter fun node => node.name = name

theorem perm_entitiesByName (module : Node) : (entitiesByName module).Perm (entities module) :=
  Table.perm_flatMap_filter (Table.nodup_eraseDups _) Node.name _ fun _ entity =>
    List.mem_eraseDups.mpr (List.mem_map_of_mem entity)

/-- The link to the document of an entity. -/
def entityLink (node : Node) : String := "[" ++ node.name ++ "](" ++ (documentOf node).path ++ ")"

theorem contentList_pagesBook (c : Compiler) (module : Node) :
    (c.pagesBook module).contentList = (entitiesByName module).map entityLink := by
  have links : (c.pagesBook module).contentLinks =
      Table.group ((entities module).map fun node => (node.name, entityLink node)) := by
    rw [pagesBook, Book.contentLinks_addPages, List.foldl_map, Table.group, List.foldl_map]
    rfl
  rw [Book.contentList, links, Table.group_eq, List.map_map, List.map_map, entitiesByName,
    List.map_flatMap, List.flatten_eq_flatMap, List.flatMap_map]
  refine List.flatMap_congr fun name _ => ?_
  rw [Function.comp_apply, Table.members, List.filter_map, List.map_map]
  rfl

/-- The table of contents of an accepted record whose documented children have no line feeds in their
names. The summary of the book has exactly the lines of `summaryLines` with the example pages that
were found, unless one of these has a line feed, and so has the packaged summary with any other
example pages. It links to each documented child once, in groups of one name, by the path of the
document of the child, which stands in a file of the book. Finalizing adds nothing to it. -/
theorem summary_lists_entities_by_name {c : Compiler} {s : Session} {root : Node} {b : Book}
    (packaged : Pages.source s.files c.templates Pages.summaryTemplate = .ok Pages.summarySource)
    (processed : ((c.process root).on s).2 = .ok b) {module : Node}
    (found : root.findModule c.moduleName = .ok module)
    (plain : ∀ node ∈ entities module, '\n' ∉ node.name.toList) :
    (∃ examples summary,
        (Example.discover s.files c.directory c.examples).outcome = .ok examples ∧
        b.summary = some summary ∧ b.finalize.summary = some summary ∧
        ((∀ e ∈ examples, Pages.IsPlain e) →
          summary.lines = Pages.summaryLines Pages.quickStart examples
            ((entitiesByName module).map entityLink))) ∧
      (∀ examples, (∀ e ∈ examples, Pages.IsPlain e) →
        ∃ page, Pages.summary s.files c.templates
            (Pages.bookContext Pages.quickStart examples b.contentList) = .ok page ∧
          page.lines = Pages.summaryLines Pages.quickStart examples
            ((entitiesByName module).map entityLink)) ∧
      (entitiesByName module).Perm (entities module) ∧
      ∀ node ∈ entities module,
        Route.place node.kind node.name = .ok (documentOf node).path ∧
          documentOf node ∈ b.allDocuments ∧
          c.directory / (documentOf node).path ∈ b.contents.2.keys := by
  obtain ⟨accepted⟩ := process_eq_ok processed
  obtain rfl : accepted.module = module := Except.ok.inj (accepted.found.symm.trans found)
  have links : b.contentList = (entitiesByName accepted.module).map entityLink :=
    (congrArg Book.contentList accepted.book_eq).trans (contentList_pagesBook c _)
  have rendered : ∀ examples, (∀ e ∈ examples, Pages.IsPlain e) →
      ∃ page, Pages.summary s.files c.templates
          (Pages.bookContext Pages.quickStart examples b.contentList) = .ok page ∧
        page.lines = Pages.summaryLines Pages.quickStart examples
          ((entitiesByName accepted.module).map entityLink) := by
    intro examples pages
    refine ⟨_, Pages.summary_of_source packaged .., ?_⟩
    rw [Pages.lines_page, Pages.lines_summaryText (by decide) pages, links]
    intro entry listed
    rw [links] at listed
    obtain ⟨node, grouped, rfl⟩ := List.mem_map.mp listed
    have entity := (perm_entitiesByName _).mem_iff.mp grouped
    have path := Route.not_mem_of_place (place_documentOf _ entity) (plain node entity)
    simp [entityLink, plain node entity, path]
  refine ⟨?_, rendered, perm_entitiesByName _, ?_⟩
  · obtain ⟨examples, discovered, summarized⟩ := summary_of_generated accepted.generated
    rw [contentList_pagesBook, ← links] at summarized
    have own : b.summary = some accepted.summary := congrArg Book.summary accepted.book_eq
    refine ⟨examples, accepted.summary, discovered, own, ?_, ?_⟩
    · have unlinked := (generated_eq_ok accepted.generated).1.2
      rw [Book.finalize, accepted.finalized_eq, if_neg (by decide), own]
      show some (accepted.summary.link _ _) = _
      rw [Document.link, unlinked, if_neg (by decide)]
    · intro pages
      obtain ⟨page, same, lines⟩ := rendered examples pages
      rwa [Except.ok.inj (summarized.symm.trans same)]
  · intro node entity
    refine ⟨place_documentOf _ entity, ?_, ?_⟩
    · rw [congrArg Book.allDocuments accepted.book_eq, (perm_allDocuments_bookOf ..).mem_iff]
      exact List.mem_append_left _ (List.mem_map_of_mem entity)
    · exact accepted.mem_keys_iff.mpr ⟨_, mem_routes_of_entity entity, rfl⟩

/-- Two functions of one name with a class between them. -/
def overloaded : List Node :=
  [openFunction "test" "Driver", selfClass "Driver", openFunction "test" "void"]

theorem overloaded_written : (plain ["book"]).yields (recordOf overloaded) writes :=
  yields_of_walks rfl rfl book_lists_no_examples (by decide +kernel) (by decide +kernel)

/-- The second function is listed behind the first one. -/
theorem summary_of_overloaded :
    ∃ b, (((plain ["book"]).process (recordOf overloaded)).on emptySession).2 = .ok b ∧
      ∃ page, Pages.summary emptySession.files none
          (Pages.bookContext Pages.quickStart [⟨"Login", "examples/login.md"⟩] b.contentList) =
            .ok page ∧
        page.lines =
          ["# Documentation", "", "[Quick Start](README.md)", "[Login](examples/login.md)", "",
            "# API", "  * [test](api/Functions.md)", "  * [test](api/Functions.md)",
            "  * [Driver](api/Driver.md)"] := by
  obtain ⟨b, processed, -⟩ := processed_of_yields overloaded_written
  have found : (recordOf overloaded).findModule Settings.usualModule = .ok (moduleOf overloaded) :=
    rfl
  obtain ⟨-, rendered, -⟩ := summary_lists_entities_by_name
    (Pages.source_summaryTemplate emptySession.files) processed found (by decide +kernel)
  obtain ⟨page, summarized, lines⟩ := rendered [⟨"Login", "examples/login.md"⟩] (by
    intro e listed
    rw [List.mem_singleton.mp listed]
    exact ⟨by decide, by decide⟩)
  refine ⟨b, processed, page, summarized, lines.trans ?_⟩
  decide +kernel

end Compiler

end Bindery
