import Bindery.Proofs.Assembly
import Bindery.Proofs.Settling
import Bindery.Proofs.Writing
import Mathlib.Data.List.Nodup

/-!
# Files inside the book

The routes of a book are joined to its directory as they are, and so are the names of entities in
them. A file lands below the directory exactly if its route comes back from every ascent, and two
files land apart exactly if no two routes lead to one place. Names without double dots do both. What
a written file holds follows from where the files land.
-/

namespace Bindery

/-! ## Routes as paths -/

namespace Route

/-- The segments of a route. -/
def steps (route : String) : List String := (Path.ofString route).segments

theorem steps_ownFile (name : String) : steps (ownFile name) = "api" :: steps (name ++ ".md") := by
  have written : (ownFile name).toList = 'a' :: 'p' :: 'i' :: '/' :: (name ++ ".md").toList := by
    simp [ownFile]
  have first : Text.splitAt '/' (ownFile name) = "api" :: Text.splitAt '/' (name ++ ".md") := by
    rw [Text.splitAt, written]
    simp [Text.cut, Text.splitAt]
  rw [steps, steps, Path.ofString, Path.ofString, first]
  rfl

theorem anchor_ownFile (name : String) : (Path.ofString (ownFile name)).anchor = .relative := by
  have written : (ownFile name).toList = 'a' :: ("pi/" ++ name ++ ".md").toList := by
    simp [ownFile]
  rw [Path.ofString, written]
  rfl

/-- A route stays below the place where it begins, as long as it does not lead up. -/
theorem relative_of_place? {kind : Kind} {name route : String}
    (placed : place? kind name = some route) :
    (Path.ofString route).anchor = .relative ∧ steps route ≠ [] := by
  have own : (Path.ofString (ownFile name)).anchor = .relative ∧
      steps (ownFile name) ≠ [] :=
    ⟨anchor_ownFile name, by rw [steps_ownFile]; exact List.cons_ne_nil _ _⟩
  have functions : (Path.ofString functionsFile).anchor = .relative ∧
      steps functionsFile ≠ [] := by decide
  have interfaces : (Path.ofString interfacesFile).anchor = .relative ∧
      steps interfacesFile ≠ [] := by decide
  cases kind <;> cases placed <;> assumption

end Route

theorem Document.path_link (registry : Registry) (book : Path) (d : Document) :
    (d.link registry book).path = d.path := by
  unfold Document.link
  split <;> rfl

/-! ## Places of files -/

namespace Compiler

/-- The routes of all documents of a book: those of the entities, and of the generated pages. -/
def routes (module : Node) : List String :=
  (entities module).map (fun node => (documentOf node).path) ++
    [Route.enumerationsFile, Route.summaryFile]

theorem relative_of_mem_routes {module : Node} {route : String} (known : route ∈ routes module) :
    (Path.ofString route).anchor = .relative ∧ Route.steps route ≠ [] := by
  rcases List.mem_append.mp known with entity | generated
  · obtain ⟨node, documented, rfl⟩ := List.mem_map.mp entity
    have placed := place_documentOf module documented
    rw [Route.place] at placed
    split at placed
    · next path found =>
        rw [← Except.ok.inj placed]
        exact Route.relative_of_place? found
    · cases placed
  · have fixed : ∀ route ∈ [Route.enumerationsFile, Route.summaryFile],
        (Path.ofString route).anchor = .relative ∧ Route.steps route ≠ [] := by decide
    exact fixed route generated

/-- The file of a route. -/
theorem div_route (c : Compiler) {module : Node} {route : String} (known : route ∈ routes module) :
    c.directory / route = ⟨c.directory.anchor, c.directory.segments ++ Route.steps route⟩ :=
  Path.join_of_relative _ (relative_of_mem_routes known).1

theorem isAbsolute_div_route {c : Compiler} (absolute : c.directory.isAbsolute) {module : Node}
    {route : String} (known : route ∈ routes module) : (c.directory / route).isAbsolute := by
  rw [c.div_route known]
  exact absolute

theorem mem_routes_of_entity {module node : Node} (entity : node ∈ entities module) :
    (documentOf node).path ∈ routes module :=
  List.mem_append_left _ (List.mem_map_of_mem entity)

namespace Accepted

variable {c : Compiler} {t : FileTree} {root : Node} {b : Book} (accepted : Accepted c t root b)

include accepted in
theorem directory_eq : b.directory = c.directory := by
  rw [accepted.book_eq, directory_bookOf]

include accepted in
theorem finalized_eq : b.finalized = false := by
  rw [accepted.book_eq, finalized_bookOf]

theorem mem_paths_iff {route : String} :
    route ∈ b.allDocuments.map Document.path ↔ route ∈ routes accepted.module := by
  obtain ⟨module, summary, index, found, generated, rfl⟩ := accepted
  obtain ⟨⟨summaryPath, -⟩, indexPath, -⟩ := generated_eq_ok generated
  have documents := (perm_allDocuments_bookOf c module summary index).map Document.path
  rw [documents.mem_iff, List.map_append, List.map_map]
  show _ ∈ _ ++ [index.path, summary.path] ↔ _
  rw [indexPath, summaryPath]
  exact Iff.rfl

include accepted in
theorem keys_contents :
    b.contents.2.keys = ((b.allDocuments.map Document.path).map (c.directory / ·)).eraseDups := by
  -- A footer leaves the document in its file, so that the keys are those before linking.
  have places : Document.place c.directory ∘ Document.link b.registry c.directory =
      (c.directory / ·) ∘ Document.path :=
    funext fun d => congrArg (c.directory / ·) (Document.path_link _ _ d)
  rw [Book.contents, Book.files_eq, Table.keys, List.map_map, Book.directory_finalize,
    accepted.directory_eq, Book.allDocuments_finalize accepted.finalized_eq, List.map_map,
    accepted.directory_eq, List.map_map, places]
  exact List.map_id _

/-- The files of a book stand at the places of its routes. -/
theorem mem_keys_iff {p : Path} :
    p ∈ b.contents.2.keys ↔ ∃ route ∈ routes accepted.module, c.directory / route = p := by
  rw [accepted.keys_contents, List.mem_eraseDups, List.mem_map]
  exact exists_congr fun route => and_congr_left' accepted.mem_paths_iff

/-- What holds of every file of a book is told by its routes. -/
theorem forall_keys_iff {holds : Path → Prop} :
    (∀ p ∈ b.contents.2.keys, holds p) ↔
      ∀ route ∈ routes accepted.module,
        holds ⟨c.directory.anchor, c.directory.segments ++ Route.steps route⟩ := by
  constructor
  · intro all route known
    rw [← c.div_route known]
    exact all _ (accepted.mem_keys_iff.mpr ⟨route, known, rfl⟩)
  · intro all p listed
    obtain ⟨route, known, rfl⟩ := accepted.mem_keys_iff.mp listed
    rw [c.div_route known]
    exact all route known

end Accepted

end Compiler

/-! ## Where files land -/

namespace Book

/-- Does every file of the book land strictly below its directory? -/
def Confined (b : Book) : Prop :=
  ∀ file ∈ b.contents.2.keys, file.normal.IsBelow b.directory.normal

/-- Do different files of the book land at different places? -/
def Apart (b : Book) : Prop := (b.contents.2.keys.map Path.normal).Nodup

/-- Does every file of the book hold its text in the tree? -/
def ReadsBack (b : Book) (t : FileTree) : Prop :=
  ∀ file ∈ b.contents.2, t.readBytes file.1 = .ok file.2.toUTF8

end Book

namespace Compiler

/-- Do two walks from one settled directory end at the same place? -/
def MeetFrom (base first second : List String) : Prop :=
  base.rdrop (Path.ascent first) ++ Path.descent first =
    base.rdrop (Path.ascent second) ++ Path.descent second

namespace Accepted

variable {c : Compiler} {t : FileTree} {root : Node} {b : Book} (accepted : Accepted c t root b)

theorem confined_iff :
    b.Confined ↔ ∀ route ∈ routes accepted.module,
      Path.Returns (Path.settle c.directory.segments) (Route.steps route) := by
  rw [Book.Confined, accepted.forall_keys_iff, accepted.directory_eq]
  refine forall₂_congr fun route known => ?_
  exact Path.isBelow_normal_iff c.directory (Route.steps route)

theorem apart_iff :
    b.Apart ↔ ∀ route ∈ routes accepted.module, ∀ other ∈ routes accepted.module,
      MeetFrom (Path.settle c.directory.segments) (Route.steps route) (Route.steps other) →
      Route.steps route = Route.steps other := by
  -- Keys are distinct by construction, but only as they are spelled.
  have keys := accepted.keys_contents ▸ Table.nodup_eraseDups _
  rw [Book.Apart, List.nodup_map_iff_inj_on keys, accepted.forall_keys_iff]
  refine forall₂_congr fun route known => ?_
  rw [accepted.forall_keys_iff]
  refine forall₂_congr fun other listed => ?_
  simp only [Path.normal, Path.mk.injEq, true_and, Path.settle_append, List.append_cancel_left_eq,
    MeetFrom]

include accepted in
/-- Files that land at one place are one file, if different files land apart. -/
theorem text_eq_of_apart (apart : b.Apart) {file other : Path × String}
    (listed : file ∈ b.contents.2) (present : other ∈ b.contents.2)
    (meet : Path.settle file.1.segments = Path.settle other.1.segments) : file.2 = other.2 := by
  have anchors : ∀ p ∈ b.contents.2.keys, p.anchor = c.directory.anchor :=
    accepted.forall_keys_iff.mpr fun _ _ => rfl
  have normal : file.1.normal = other.1.normal := by
    rw [Path.normal, Path.normal, meet, anchors _ (List.mem_map_of_mem listed),
      anchors _ (List.mem_map_of_mem present)]
  rw [Book.Apart, Table.keys, List.map_map] at apart
  exact congrArg Prod.snd (List.inj_on_of_nodup_map apart listed present normal)

end Accepted

/-- Where the files of a book land. They stay below its directory exactly if each route comes back
from its ascents, and apart exactly if routes that meet are spelled alike; both hold if no route
leads up at all. Writing stores files of the book and nothing else, whether it ends well or not.
Once it ends well, the files read back exactly if those that land at one place have one text, as
they do when they land apart. -/
theorem files_confined_and_apart_iff_routes {c : Compiler} {s : Session} {root : Node} {b : Book}
    (absolute : c.directory.isAbsolute) (processed : ((c.process root).on s).2 = .ok b) :
    ∃ module, root.findModule c.moduleName = .ok module ∧ b.directory = c.directory ∧
      (b.Confined ↔ ∀ route ∈ routes module,
        Path.Returns (Path.settle c.directory.segments) (Route.steps route)) ∧
      (b.Apart ↔ ∀ route ∈ routes module, ∀ other ∈ routes module,
        MeetFrom (Path.settle c.directory.segments) (Route.steps route) (Route.steps other) →
          Route.steps route = Route.steps other) ∧
      ((∀ route ∈ routes module, ".." ∉ Route.steps route) → b.Confined ∧ b.Apart) ∧
      ∀ before : Session,
        (∀ place content, (b.write.on before).1.files.at? place = some (.file content) →
          before.files.at? place = some (.file content) ∨
            ∃ file ∈ b.contents.2, file.1.normal.segments = place ∧ file.2.toUTF8 = content) ∧
        ∀ paths, (b.write.on before).2 = .ok paths →
          (b.ReadsBack (b.write.on before).1.files ↔
            ∀ file ∈ b.contents.2, ∀ other ∈ b.contents.2,
              file.1.normal.segments = other.1.normal.segments → file.2 = other.2) ∧
          (b.Apart → b.ReadsBack (b.write.on before).1.files) := by
  obtain ⟨accepted⟩ := process_eq_ok processed
  have absolutes : ∀ p ∈ b.contents.2.keys, p.isAbsolute :=
    accepted.forall_keys_iff.mpr fun _ _ => absolute
  have rooted : ∀ file ∈ b.contents.2, file.1.isAbsolute := fun file listed =>
    absolutes file.1 (List.mem_map_of_mem listed)
  refine ⟨accepted.module, accepted.found, accepted.directory_eq, accepted.confined_iff,
    accepted.apart_iff, ?_, ?_⟩
  · intro plain
    constructor
    · rw [accepted.confined_iff]
      intro route known
      exact Path.returns_of_no_dots _ (relative_of_mem_routes known).2 (plain route known)
    · rw [accepted.apart_iff]
      intro route known other listed meet
      rw [MeetFrom, Path.ascent_of_no_dots (plain route known),
        Path.ascent_of_no_dots (plain other listed), Path.descent_of_no_dots (plain route known),
        Path.descent_of_no_dots (plain other listed)] at meet
      exact List.append_cancel_left meet
  · intro before
    constructor
    · exact (Book.wrote_writeFiles rooted before).stored
    · intro paths done
      have reads := Book.readBytes_writeFiles_iff rooted done
      refine ⟨reads, fun apart => reads.mpr ?_⟩
      intro file listed other present meet
      exact accepted.text_eq_of_apart apart listed present meet

/-- The small library stays in its book, and its files read back after they are written. -/
theorem library_confined_and_read_back :
    ∃ b, (((plain ["book"]).process (recordOf library)).on emptySession).2 = .ok b ∧
      b.Confined ∧ b.Apart ∧ b.ReadsBack (b.write.on emptySession).1.files := by
  obtain ⟨b, processed, writable⟩ := processed_of_yields library_written
  obtain ⟨paths, written⟩ := written_of_writes writable
  obtain ⟨module, found, -, -, -, plain, files⟩ :=
    files_confined_and_apart_iff_routes (by decide) processed
  obtain rfl := eq_moduleOf found
  have names : ∀ route ∈ routes (moduleOf library), ".." ∉ Route.steps route := by decide +kernel
  obtain ⟨confined, apart⟩ := plain names
  exact ⟨b, processed, confined, apart, ((files emptySession).2 paths written).2 apart⟩

/-- Three classes with names that stray: the first lands in the file of the second, and the third
lands outside the book. -/
def strays : List Node := [selfClass "a/../x", selfClass "x", selfClass "../../y"]

theorem strays_neither_confined_nor_apart :
    ∃ b, (((plain ["book"]).process (recordOf strays)).on emptySession).2 = .ok b ∧
      ¬ b.Confined ∧ ¬ b.Apart := by
  have placed : (plain ["book"]).yields (recordOf strays) fun b =>
      b.directory = ⟨.root, ["book"]⟩ ∧ b.contents.2.keys =
        [⟨.root, ["book", "api", "a", "..", "x.md"]⟩, ⟨.root, ["book", "api", "x.md"]⟩,
          ⟨.root, ["book", "api", "..", "..", "y.md"]⟩, ⟨.root, ["book", "Enumerations.md"]⟩,
          ⟨.root, ["book", "SUMMARY.md"]⟩] :=
    yields_of_walks rfl rfl book_lists_no_examples (by decide +kernel) (by decide +kernel)
  obtain ⟨b, processed, found⟩ := processed_of_yields placed
  obtain ⟨directory, keys⟩ := of_decide_eq_true found
  refine ⟨b, processed, ?_, ?_⟩
  · intro confined
    rw [Book.Confined, directory, keys] at confined
    obtain ⟨-, name, names, below⟩ :=
      confined ⟨.root, ["book", "api", "..", "..", "y.md"]⟩ (by simp)
    have outside : Path.settle ["book", "api", "..", "..", "y.md"] = ["y.md"] := by decide
    have inside : Path.settle ["book"] = ["book"] := by decide
    rw [Path.normal, Path.normal] at below
    dsimp only at below
    rw [outside, inside] at below
    simp at below
  · rw [Book.Apart, keys]
    decide

end Compiler

end Bindery
