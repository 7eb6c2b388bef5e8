import Bindery.Proofs.BrokenPages
import Bindery.Proofs.Openings
import Bindery.Proofs.Rewriting
import Bindery.Proofs.Searching

/-!
# Building again

A book that was written does not change what the next build reads. What the pattern of the example
pages matched before it matches again, and reads alike unless the book took its place; what it
matches now and did not match before is of the book, which has no front matter. So the next build
lists the same examples, gives the same book, and writes what is there.
-/

namespace Bindery

open FileTree (Grows)

/-! ## Steps of drafts -/

namespace Draft

variable {α β : Type}

theorem unlessTooLong_bind {d : Draft α} {next : α → Draft β} {holds : α → Prop} {more : β → Prop}
    (settled : UnlessTooLong d.outcome holds)
    (follows : ∀ a, holds a → UnlessTooLong (next a).outcome more) :
    UnlessTooLong (d >>= next).outcome more := by
  rcases settled with long | ⟨a, done, held⟩
  · rw [bind_of_error long]
    exact .inl rfl
  · rw [outcome_bind_of_ok done]
    exact follows a held

theorem unlessTooLong_each {f : α → Draft β} {g : α → β} {items : List α}
    (steps : ∀ a ∈ items, UnlessTooLong (f a).outcome (· = g a)) :
    UnlessTooLong (each f items).outcome (· = items.map g) := by
  induction items with
  | nil => exact .ok rfl
  | cons a rest ih =>
      have others := ih fun other listed => steps other (List.mem_cons_of_mem _ listed)
      refine unlessTooLong_bind (steps a List.mem_cons_self) fun b first => ?_
      refine unlessTooLong_bind others fun more remaining => .ok ?_
      rw [first, remaining, List.map_cons]

/-- A walk that ends well gives what each of its steps gives. -/
theorem each_eq_ok {f : α → Draft β} {g : α → β} {items : List α} {found : List β}
    (gives : ∀ a b, (f a).outcome = .ok b → b = g a) (done : (each f items).outcome = .ok found) :
    found = items.map g ∧ ∀ a ∈ items, (f a).outcome = .ok (g a) := by
  induction items generalizing found with
  | nil => exact ⟨(pure_eq_ok_iff.mp done).symm, nofun⟩
  | cons a rest ih =>
      obtain ⟨b, first, others⟩ := bind_eq_ok_iff.mp done
      obtain ⟨more, remaining, given⟩ := bind_eq_ok_iff.mp others
      obtain ⟨rfl, later⟩ := ih remaining
      obtain rfl := gives a b first
      exact ⟨(pure_eq_ok_iff.mp given).symm, List.forall_mem_cons.mpr ⟨first, later⟩⟩

end Draft

/-! ## What stays to be read -/

namespace FileTree

variable {t u : FileTree} {p : Path} {place : Place}

/-- The text of a file that was written. -/
theorem readText_of_find (led : t.find p = .ok place) {text : String}
    (there : t.at? place = some (.file text.toUTF8)) :
    t.readText p = .ok (Text.withFeeds text) := by
  have decoded : String.fromUTF8? text.toUTF8 = some text := by
    unfold String.fromUTF8?
    rw [String.toUTF8_eq_toByteArray, dif_pos text.isValidUTF8]
    rfl
  have bytes : t.readBytes p = .ok text.toUTF8 := (readBytes_eq_ok_iff led).mpr there
  rw [readText, bytes]
  show textOf text.toUTF8 = _
  rw [textOf, decoded]

/-- Where a path still leads to what it led to, the same is stored. -/
theorem stored_congr (led : t.find p = .ok place) (leads : u.find p = .ok place)
    (same : u.at? place = t.at? place) : u.stored p = t.stored p := by
  rw [stored_of_find led, stored_of_find leads, same]

end FileTree

namespace Example

variable {t u : FileTree} {files : Table Path String} {directory p : Path} {pattern : String}

/-- The example that the summary lists for a path, if there is one. -/
def listed? (t : FileTree) (directory p : Path) : Option Example :=
  (ofPath? t directory p).outcome.toOption.join

theorem eq_listed? (p : Path) (r : Option Example)
    (read : (ofPath? t directory p).outcome = .ok r) : r = listed? t directory p := by
  rw [listed?, read]
  rfl

/-- The examples of a book are those of the paths that its pattern matches. -/
theorem discover_eq_ok {examples : List Example}
    (discovered : (discover t directory pattern).outcome = .ok examples) :
    ∃ found, Glob.paths t directory pattern = .ok found ∧
      (∀ p ∈ found, (ofPath? t directory p).outcome = .ok (listed? t directory p)) ∧
      examples = found.filterMap (listed? t directory) := by
  obtain ⟨found, searched, rest⟩ := Draft.bind_eq_ok_iff.mp discovered
  obtain ⟨results, read, given⟩ := Draft.bind_eq_ok_iff.mp rest
  obtain ⟨rfl, each⟩ := Draft.each_eq_ok eq_listed? read
  refine ⟨found, searched, each, ?_⟩
  rw [← Draft.pure_eq_ok_iff.mp given, List.filterMap_map]
  rfl

/-- What a path is depends on what is stored where it leads, and on nothing else. -/
theorem ofPath?_congr (same : u.stored p = t.stored p) :
    ofPath? u directory p = ofPath? t directory p := by
  have file : u.isFile p = t.isFile p := by
    rw [FileTree.isFile, FileTree.isFile, FileTree.storedIfAny, FileTree.storedIfAny, same]
  have text : u.readText p = t.readText p := by
    rw [FileTree.readText, FileTree.readText, FileTree.readBytes, FileTree.readBytes, same]
  rw [ofPath?, ofPath?, file, text]

theorem ofPath?_of_isFile_eq_false (other : t.isFile p = .ok false) :
    (ofPath? t directory p).outcome = .ok none := by
  rw [ofPath?, other]
  rfl

/-- A file without front matter is no example. -/
theorem ofPath?_of_block?_eq_none (file : t.isFile p = .ok true) {text : String}
    (read : t.readText p = .ok text) (plain : FrontMatter.block? text = none) :
    (ofPath? t directory p).outcome = .ok none := by
  have empty : (FrontMatter.read p.text text).outcome = .ok [] := by
    rw [FrontMatter.read, plain]
    rfl
  rw [ofPath?, Draft.outcome_bind_of_ok file]
  dsimp only
  rw [if_pos rfl, Draft.outcome_bind_of_ok read, Draft.outcome_bind_of_ok empty]
  rfl

/-- A match that stood before is what it was, if it is none of the files that were written. -/
theorem ofPath?_of_stood (grows : Grows files t u) (absolute : p.isAbsolute)
    (led : UnlessTooLong (t.find p) (· = Path.settle p.segments))
    (stood : (t.at? (Path.settle p.segments)).isSome)
    (apart : t.isFile p = .ok true →
      ∀ file ∈ files, Path.settle file.1.segments ≠ Path.settle p.segments)
    {r : Option Example} (before : (ofPath? t directory p).outcome = .ok r) :
    (ofPath? u directory p).outcome = .ok r := by
  rcases led with long | ⟨place, led, rfl⟩
  · -- Such a path would have stopped the first build.
    have stops : t.isFile p = .error (.file .tooLong) := by
      rw [FileTree.isFile, FileTree.storedIfAny_of_tooLong long]
      rfl
    rw [ofPath?, Draft.bind_of_error stops] at before
    cases before
  · have leads := grows.wrote.directories.find absolute led
    have file := FileTree.isFile_of_find led
    have same : u.at? (Path.settle p.segments) = t.at? (Path.settle p.segments) := by
      cases there : t.at? (Path.settle p.segments) with
      | none =>
          rw [there] at stood
          cases stood
      | some stored =>
          rw [there] at file
          cases stored with
          | directory => exact grows.wrote.directories _ there
          | file content => exact grows.wrote.kept _ _ (apart file) there
    rw [ofPath?_congr (FileTree.stored_congr led leads same), before]

/-- A match where nothing stood before is no example. -/
theorem ofPath?_of_new (grows : Grows files t u)
    (plain : ∀ file ∈ files, FrontMatter.block? (Text.withFeeds file.2) = none)
    (led : UnlessTooLong (u.find p) (· = Path.settle p.segments))
    (new : t.at? (Path.settle p.segments) = none) :
    UnlessTooLong (ofPath? u directory p).outcome (· = none) := by
  rcases led with long | ⟨place, led, rfl⟩
  · have stops : u.isFile p = .error (.file .tooLong) := by
      rw [FileTree.isFile, FileTree.storedIfAny_of_tooLong long]
      rfl
    rw [ofPath?, Draft.bind_of_error stops]
    exact .inl rfl
  · have file := FileTree.isFile_of_find led
    rcases grows.at? (Path.settle p.segments) with same | ⟨-, made⟩ | ⟨-, page, listed, -, written⟩
    · rw [same, new] at file
      exact .inr ⟨none, ofPath?_of_isFile_eq_false file, rfl⟩
    · rw [made] at file
      exact .inr ⟨none, ofPath?_of_isFile_eq_false file, rfl⟩
    · rw [written] at file
      have read := FileTree.readText_of_find led written
      exact .inr ⟨none, ofPath?_of_block?_eq_none file read (plain page listed), rfl⟩

/-- The search after a book was written lists the examples of the search before. -/
theorem discover_again (sound : t.IsSound) (grows : Grows files t u)
    (absolute : directory.isAbsolute) (downward : ".." ∉ (Path.ofString pattern).segments)
    (reached : t.at? (Path.settle directory.segments) = some .directory →
      t.find directory = .ok (Path.settle directory.segments))
    (plain : ∀ file ∈ files, FrontMatter.block? (Text.withFeeds file.2) = none)
    (apart : ∀ found, Glob.paths t directory pattern = .ok found → ∀ p ∈ found,
      t.isFile p = .ok true →
        ∀ file ∈ files, Path.settle file.1.segments ≠ Path.settle p.segments)
    {examples : List Example}
    (discovered : (discover t directory pattern).outcome = .ok examples) :
    UnlessTooLong (discover u directory pattern).outcome (· = examples) := by
  obtain ⟨found, searched, read, rfl⟩ := discover_eq_ok discovered
  obtain ⟨pieces, parsed, -⟩ := Fault.bind_eq_ok_iff.mp searched
  have leadsDown := Glob.isDownward_of_mem parsed downward
  have grown := grows.isSound sound
  have searches : UnlessTooLong (Draft.ofExcept (Glob.paths u directory pattern)).outcome
      fun again => Glob.paths u directory pattern = .ok again := by
    refine (Glob.paths_spec grown parsed leadsDown).imp id ?_
    rintro ⟨again, repeated, -⟩
    exact ⟨again, repeated, repeated⟩
  refine Draft.unlessTooLong_bind searches fun again repeated => ?_
  have kept := Glob.paths_eq_filter sound grows absolute parsed leadsDown reached searched repeated
  let stood (p : Path) : Bool := (t.at? (Path.settle p.segments)).isSome
  have each (p : Path) (listed : p ∈ again) : UnlessTooLong (ofPath? u directory p).outcome
      (· = if stood p then listed? t directory p else none) := by
    obtain ⟨rooted, -, led⟩ :=
      Glob.stands_of_mem_paths grown absolute parsed leadsDown repeated listed
    split
    · next present =>
        have before : p ∈ found := by
          rw [kept, List.mem_filter]
          exact ⟨listed, present⟩
        obtain ⟨-, there, leads⟩ :=
          Glob.stands_of_mem_paths sound absolute parsed leadsDown searched before
        exact .inr ⟨_, ofPath?_of_stood grows rooted leads there (apart found searched p before)
          (read p before), rfl⟩
    · next absent => exact ofPath?_of_new grows plain led (by simpa [stood] using absent)
  refine Draft.unlessTooLong_bind (Draft.unlessTooLong_each each) fun results same => .ok ?_
  rw [same, kept, List.filterMap_map, List.filterMap_filter]
  refine List.filterMap_congr fun p _ => ?_
  rfl

end Example

/-! ## Sessions without a log file -/

namespace Session

/-- Do entries go to no log file? -/
def IsUnlogged (s : Session) : Prop := ∀ r ∈ s.reporting, r.file = none

variable {s : Session}

theorem IsUnlogged.record (unlogged : s.IsUnlogged) (e : Log.Entry) :
    (s.record e).IsUnlogged ∧ (s.record e).files = s.files := by
  unfold Session.record
  dsimp only
  split
  · next reported =>
      cases unlogged _ reported
  · exact ⟨unlogged, rfl⟩

theorem IsUnlogged.recordAll (unlogged : s.IsUnlogged) (es : List Log.Entry) :
    (s.recordAll es).IsUnlogged ∧ (s.recordAll es).files = s.files := by
  induction es generalizing s with
  | nil => exact ⟨unlogged, rfl⟩
  | cons e rest ih =>
      obtain ⟨still, kept⟩ := unlogged.record e
      obtain ⟨last, alike⟩ := ih still
      exact ⟨last, alike.trans kept⟩

/-- Making a book leaves the files alone. -/
theorem IsUnlogged.process (unlogged : s.IsUnlogged) (c : Compiler) (root : Node) :
    ((c.process root).on s).1.IsUnlogged ∧ ((c.process root).on s).1.files = s.files :=
  unlogged.recordAll _

end Session

/-! ## The next build -/

namespace Compiler

variable {c : Compiler} {t u : FileTree} {root : Node} {b : Book}

/-- A compilation sees nothing of the files but the examples. -/
theorem compile_again (packaged : c.templates = none)
    (again : ∀ examples, (Example.discover t c.directory c.examples).outcome = .ok examples →
      UnlessTooLong (Example.discover u c.directory c.examples).outcome (· = examples))
    (compiled : (c.compile t root).outcome = .ok b) :
    UnlessTooLong (c.compile u root).outcome (· = b) := by
  obtain ⟨module, found, rest⟩ := Draft.bind_eq_ok_iff.mp compiled
  obtain ⟨⟨visits, report⟩, walked, rest⟩ := Draft.bind_eq_ok_iff.mp rest
  obtain ⟨pages, generated, rest⟩ := Draft.bind_eq_ok_iff.mp rest
  have repeated : UnlessTooLong (c.generated u (c.blankBook.addPages (Visit.pages visits))).outcome
      (· = pages) := by
    obtain ⟨examples, discovered, rfl⟩ := exists_packagedPages generated packaged
    rcases again examples discovered with long | ⟨_, listed, rfl⟩
    · rw [Compiler.generated, Draft.bind_of_error long]
      exact .inl rfl
    · exact .inr ⟨_, generated_of_discovered listed packaged _, rfl⟩
  rw [compile, Draft.outcome_bind_of_ok found]
  dsimp only
  rw [Draft.outcome_bind_of_ok walked]
  refine Draft.unlessTooLong_bind repeated fun _ same => ?_
  subst same
  exact .inr ⟨b, rest, rfl⟩

/-- Does the path of the directory lead to it, if it stands? -/
def Reaches (c : Compiler) (t : FileTree) : Prop :=
  t.at? (Path.settle c.directory.segments) = some .directory →
    t.find c.directory = .ok (Path.settle c.directory.segments)

/-- Does no file of the book take the place of a file that the pattern matches? -/
def SparesExamples (c : Compiler) (t : FileTree) (b : Book) : Prop :=
  ∀ found, Glob.paths t c.directory c.examples = .ok found → ∀ p ∈ found, t.isFile p = .ok true →
    ∀ file ∈ b.contents.2, Path.settle file.1.segments ≠ Path.settle p.segments

theorem spares_of_paths_eq_nil (unlisted : Glob.paths t c.directory c.examples = .ok []) :
    c.SparesExamples t b := by
  intro found searched p matched
  rw [unlisted] at searched
  cases searched
  cases matched

/-- Every directory without double dots is reached, unless its path is too long. -/
theorem reaches_of_no_dots (sound : t.IsSound) (absolute : c.directory.isAbsolute)
    (plain : ".." ∉ c.directory.segments)
    (short : c.directory.text.utf8ByteSize ≤ FileTree.longestPath) : c.Reaches t := by
  intro stands
  rw [Path.settle_of_no_dots plain] at stands ⊢
  have stored : (t.at? ([] ++ c.directory.segments)).isSome := by
    rw [List.nil_append, stands]
    rfl
  have walks : t.Walks (t.origin c.directory) c.directory.segments c.directory.segments := by
    rw [FileTree.origin_of_absolute absolute]
    exact sound.walks stored
  refine FileTree.find_eq_ok_iff.mpr ⟨fun nul => ?_, short, walks _⟩
  obtain ⟨name, listed, held⟩ := List.any_eq_true.mp nul
  exact (sound.isName stored listed).2.2 (List.contains_iff_mem.mp held)

/-- Wherever a tree has grown to by files of the book, it is compiled to the same book. -/
theorem compile_of_grows (sound : t.IsSound) (absolute : c.directory.isAbsolute)
    (reaches : c.Reaches t) (packaged : c.templates = none)
    (downward : ".." ∉ (Path.ofString c.examples).segments)
    (compiled : (c.compile t root).outcome = .ok b) (spared : c.SparesExamples t b)
    (grows : Grows b.contents.2 t u) : UnlessTooLong (c.compile u root).outcome (· = b) := by
  obtain ⟨made⟩ := compile_eq_ok compiled
  refine compile_again packaged (fun examples discovered => ?_) compiled
  exact Example.discover_again sound grows absolute downward reaches
    (made.block?_eq_none packaged) spared discovered

/-- Building again changes nothing. Of a book that was made with the packaged templates no file has
front matter; so once it was written, however that ended, the next build stops only at a name or a
path that is too long, and otherwise gives the same contents, writes the same files, if all of them
were written, and leaves every place as it is. -/
theorem rebuilding_changes_nothing {s : Session} (sound : s.files.IsSound)
    (unlogged : s.IsUnlogged) (absolute : c.directory.isAbsolute) (reaches : c.Reaches s.files)
    (packaged : c.templates = none) (downward : ".." ∉ (Path.ofString c.examples).segments)
    (accepted : ((c.process root).on s).2 = .ok b) (spared : c.SparesExamples s.files b) :
    (∀ file ∈ b.contents.2, FrontMatter.block? (Text.withFeeds file.2) = none) ∧
      let written := b.write.on ((c.process root).on s).1
      let second := (c.process root).on written.1
      second.1.files = written.1.files ∧
        UnlessTooLong second.2 fun again =>
          again.contents = b.contents ∧
            (∀ paths, written.2 = .ok paths → (again.write.on second.1).2 = .ok paths) ∧
            ∀ place, (again.write.on second.1).1.files.at? place = written.1.files.at? place := by
  obtain ⟨made⟩ := process_eq_ok accepted
  refine ⟨made.block?_eq_none packaged, ?_⟩
  have absolutes : ∀ p ∈ b.contents.2.keys, p.isAbsolute :=
    made.forall_keys_iff.mpr fun _ _ => absolute
  have rooted : ∀ file ∈ b.contents.2, file.1.isAbsolute := fun file listed =>
    absolutes file.1 (List.mem_map_of_mem listed)
  obtain ⟨stillUnlogged, kept⟩ := unlogged.process c root
  generalize ((c.process root).on s).1 = first at stillUnlogged kept ⊢
  intro written second
  obtain ⟨t, grows, left⟩ : ∃ t, Grows b.contents.2 first.files t ∧
      written.1 = { first with files := t } := Book.grows_writeFiles rooted first
  have writtenUnlogged : written.1.IsUnlogged := left ▸ stillUnlogged
  obtain ⟨-, unchanged⟩ : second.1.IsUnlogged ∧ second.1.files = written.1.files :=
    writtenUnlogged.process c root
  have grown : Grows b.contents.2 s.files written.1.files := by
    rw [left, ← kept]
    exact grows
  have again : UnlessTooLong second.2 (· = b) :=
    compile_of_grows sound absolute reaches packaged downward accepted spared grown
  refine ⟨unchanged, again.mono fun found same => ?_⟩
  have shape : second.1.files.SameShape written.1.files := by
    rw [unchanged]
    exact .refl _
  rw [same]
  refine ⟨rfl, (Book.writeFiles_again rooted shape).1, fun place => ?_⟩
  rw [← unchanged]
  exact Book.at?_writeFiles_again rooted unchanged place

/-- A page with a title in a directory of examples. -/
def titledPage (directory : String) : Session :=
  .start ⟨[([directory], .directory), ([directory, "examples"], .directory),
    ([directory, "examples", "login.md"], .file "---\ntitle: Login\n---\n".toUTF8)], []⟩ ""

/-- A book whose example pages are all pages below its directory. -/
def everyPage : Compiler := { plain ["book"] with examples := "**/*.md" }

/-- With every page of the book matched, the second build gives the contents of the first one. -/
theorem every_page_rebuilt :
    ∃ b, ((everyPage.process (recordOf library)).on (titledPage "book")).2 = .ok b ∧
      let written := b.write.on ((everyPage.process (recordOf library)).on (titledPage "book")).1
      UnlessTooLong ((everyPage.process (recordOf library)).on written.1).2 fun again =>
        again.contents = b.contents := by
  have sound : (titledPage "book").files.IsSound := by decide
  have accepted : ((everyPage.process (recordOf library)).on (titledPage "book")).2 =
      .ok (everyPage.packagedBook (moduleOf library) [⟨"Login", "examples/login.md"⟩]) :=
    process_of_walks rfl rfl (eq_ok_of_toOption (by decide +kernel)) (by decide +kernel)
  have apart : ∀ file ∈ (everyPage.packagedBook (moduleOf library)
      [⟨"Login", "examples/login.md"⟩]).contents.2,
      Path.settle file.1.segments ≠ ["book", "examples", "login.md"] := by
    decide +kernel
  have spared : everyPage.SparesExamples (titledPage "book").files
      (everyPage.packagedBook (moduleOf library) [⟨"Login", "examples/login.md"⟩]) := by
    intro found searched p matched _ file listed
    have only : Glob.paths (titledPage "book").files everyPage.directory everyPage.examples =
        .ok [⟨.root, ["book", "examples", "login.md"]⟩] := eq_ok_of_toOption (by decide +kernel)
    rw [only] at searched
    cases searched
    rw [List.mem_singleton.mp matched]
    exact apart file listed
  have unlogged : (titledPage "book").IsUnlogged := nofun
  have reaches : everyPage.Reaches (titledPage "book").files :=
    reaches_of_no_dots sound rfl (by decide) (by decide)
  obtain ⟨-, -, rebuilt⟩ := rebuilding_changes_nothing sound unlogged rfl reaches rfl
    (by decide +kernel) accepted spared
  exact ⟨_, accepted, rebuilt.mono fun again same => same.1⟩

/-- The book of a record without entities. -/
def emptyBook (c : Compiler) (examples : List Example) : Book :=
  let pages := Pages.packagedPages examples []
  c.bookOf (moduleOf []) pages.1 pages.2

/-- Such a book has two files. -/
theorem contents_emptyBook (examples : List Example) :
    (c.emptyBook examples).contents.2 =
      [(c.directory / Route.enumerationsFile, ((Pages.packagedPages examples []).2.link
          (c.emptyBook examples).registry c.directory).text),
        (c.directory / Route.summaryFile, (Pages.packagedPages examples []).1.text)] := by
  have directory : (c.emptyBook examples).directory = c.directory := directory_bookOf ..
  have all : (c.emptyBook examples).finalize.allDocuments =
      [(Pages.packagedPages examples []).2.link (c.emptyBook examples).registry c.directory,
        (Pages.packagedPages examples []).1] := by
    have fresh : (c.emptyBook examples).finalized = false := finalized_bookOf ..
    rw [Book.allDocuments_finalize fresh, directory]
    rfl
  have apart : c.directory / Route.enumerationsFile ≠ c.directory / Route.summaryFile := by
    intro same
    exact absurd (List.append_cancel_left (congrArg Path.segments same)) (by decide)
  rw [Book.contents, Book.files, all, Book.directory_finalize, directory]
  simp [Table.group, Table.push, Table.alter, Document.place, Document.path_link,
    Pages.packagedPages, Pages.page, apart, Text.joinLines_singleton]

theorem text_packagedPages_nil (examples : List Example) :
    (Pages.packagedPages examples []).1.text =
      "# Documentation\n\n[Quick Start](" ++ Pages.quickStart ++ ")\n" ++
        String.join (examples.map Pages.exampleLine) ++ "\n# API" := by
  have whole : Pages.summaryText Pages.quickStart examples [] =
      "# Documentation\n\n[Quick Start](" ++ Pages.quickStart ++ ")\n" ++
        String.join (examples.map Pages.exampleLine) ++ "\n# API" ++ "\n" := by
    have heading : "\n# API\n" = "\n# API" ++ "\n" := by simp
    unfold Pages.summaryText
    rw [heading]
    simp only [List.map_nil, String.join_nil, String.append_assoc, String.append_empty,
      -String.reduceAppend]
  have ends (front : String) : (front ++ "\n# API").toList.getLast? ≠ some '\n' := by
    have letters : ("\n# API" : String).toList = ['\n', '#', ' ', 'A', 'P', 'I'] := rfl
    rw [String.toList_append, letters]
    simp
  rw [Pages.packagedPages]
  dsimp only
  rw [Pages.text_page, whole]
  exact Text.dropFinalFeeds_append_feed (ends _)

/-- The examples of such a book show in its summary. -/
theorem contents_emptyBook_ne {examples : List Example} (listed : examples ≠ []) :
    (c.emptyBook examples).contents.2 ≠ (c.emptyBook []).contents.2 := by
  intro same
  rw [contents_emptyBook, contents_emptyBook] at same
  have summaries := congrArg Prod.snd (List.cons.inj (List.cons.inj same).2).1
  dsimp only at summaries
  rw [text_packagedPages_nil, text_packagedPages_nil, String.append_left_inj,
    String.append_right_inj] at summaries
  cases examples with
  | nil => exact listed rfl
  | cons e rest =>
      rw [List.map_cons, String.join_cons, List.map_nil, String.join_nil,
        String.append_eq_empty_iff, Pages.exampleLine, String.append_eq_empty_iff] at summaries
      exact absurd summaries.1.2 (by decide)

theorem compile_recordOf_nil (usual : c.moduleName = Settings.usualModule)
    (packaged : c.templates = none) {examples : List Example}
    (discovered : (Example.discover t c.directory c.examples).outcome = .ok examples) :
    c.compile t (recordOf []) = ⟨(Example.discover t c.directory c.examples).marks ++
      Report.empty.finish.marks, .ok (c.emptyBook examples)⟩ := by
  have found : (recordOf []).findModule c.moduleName = .ok (moduleOf []) := by
    rw [usual]
    rfl
  have walked : (Visit.walk (moduleOf []).children .empty).outcome = .ok ([], .empty) := rfl
  rw [compile_of_walked packaged discovered found walked]
  rfl

/-- A book without entities and examples. -/
theorem process_recordOf_nil (usual : c.moduleName = Settings.usualModule)
    (packaged : c.templates = none) {s : Session}
    (unlisted : Glob.paths s.files c.directory c.examples = .ok []) :
    (c.process (recordOf [])).on s =
      (s.recordAll Report.empty.finish.entries, .ok (c.emptyBook [])) := by
  have discovered : Example.discover s.files c.directory c.examples = pure [] := by
    rw [Example.discover, unlisted]
    rfl
  rw [on_process, compile_recordOf_nil usual packaged (by rw [discovered]; rfl), discovered]
  rfl

/-- The files after the first build of such a book. -/
def emptyBuild (c : Compiler) (s : Session) : FileTree :=
  ((c.emptyBook []).write.on (s.recordAll Report.empty.finish.entries)).1.files

/-- The second build of such a book, on what the first one left. -/
theorem process_recordOf_nil_again (usual : c.moduleName = Settings.usualModule)
    (packaged : c.templates = none) {s : Session}
    (unlisted : Glob.paths s.files c.directory c.examples = .ok []) :
    ((c.process (recordOf [])).on
      ((c.emptyBook []).write.on ((c.process (recordOf [])).on s).1).1).2 =
        (c.compile (c.emptyBuild s) (recordOf [])).outcome := by
  rw [process_recordOf_nil usual packaged unlisted, on_process]
  rfl

/-- A book whose path leads through a directory that is missing until it is written. -/
def detour : Compiler := plain ["missing", "..", "docs"]

/-- A name that no directory can hold. -/
def longName : String := String.ofList (List.replicate 256 'a')

/-- A book whose example page has that name. -/
def longNamed : Compiler := { plain ["docs"] with examples := longName }

theorem isWord_longName : Glob.IsWord longName := by
  have letters : longName.toList = List.replicate 256 'a' := String.toList_ofList
  refine ⟨fun empty => ?_, fun c listed => ?_⟩
  · rw [empty] at letters
    cases letters
  · rw [letters] at listed
    rw [List.eq_of_mem_replicate listed]
    rfl

theorem longNamed_lists_none :
    Glob.paths emptySession.files longNamed.directory longNamed.examples = .ok [] :=
  Glob.paths_of_missing isWord_longName.ofString rfl

/-- Once its book is written the directory is there to look for the name in. -/
theorem longNamed_opens : (longNamed.emptyBuild emptySession).Opens ⟨.root, ["docs"]⟩ ["docs"] where
  valid := by decide
  walks := FileTree.walks_singleton FileTree.at?_nil (by decide) (by decide)
  directory := by decide +kernel

/-- Two books that are not built again as they were: one finds an example once its path leads to it,
the other one stops. -/
theorem detour_lists_more_and_longNamed_stops :
    (((titledPage "docs").files.IsSound ∧ (titledPage "docs").IsUnlogged ∧
        ".." ∉ (Path.ofString detour.examples).segments) ∧
      ∃ b, ((detour.process (recordOf [])).on (titledPage "docs")).2 = .ok b ∧
        detour.SparesExamples (titledPage "docs").files b ∧
        ∃ again,
          ((detour.process (recordOf [])).on
            (b.write.on ((detour.process (recordOf [])).on (titledPage "docs")).1).1).2 =
              .ok again ∧
          again.contents.2 ≠ b.contents.2) ∧
      (emptySession.files.IsSound ∧ emptySession.IsUnlogged ∧
        ".." ∉ (Path.ofString longNamed.examples).segments) ∧
      ∃ b, ((longNamed.process (recordOf [])).on emptySession).2 = .ok b ∧
        longNamed.SparesExamples emptySession.files b ∧
        ∀ again,
          ((longNamed.process (recordOf [])).on
            (b.write.on ((longNamed.process (recordOf [])).on emptySession).1).1).2 ≠
              .ok again := by
  constructor
  · have lost : Glob.paths (titledPage "docs").files detour.directory detour.examples = .ok [] :=
      eq_ok_of_toOption (by decide +kernel)
    have reached : (Example.discover (detour.emptyBuild (titledPage "docs")) detour.directory
        detour.examples).outcome = .ok [⟨"Login", "examples/login.md"⟩] :=
      eq_ok_of_toOption (by decide +kernel)
    have first := process_recordOf_nil (c := detour) rfl rfl lost
    have second := process_recordOf_nil_again (c := detour) rfl rfl lost
    rw [compile_recordOf_nil rfl rfl reached] at second
    exact ⟨⟨by decide, nofun, by decide +kernel⟩, _, congrArg Prod.snd first,
      spares_of_paths_eq_nil lost, _, second, contents_emptyBook_ne (List.cons_ne_nil _ _)⟩
  · have first := process_recordOf_nil (c := longNamed) rfl rfl longNamed_lists_none
    have second := process_recordOf_nil_again (c := longNamed) rfl rfl longNamed_lists_none
    have downward : ".." ∉ (Path.ofString longNamed.examples).segments := by
      have word : Glob.IsWord longNamed.examples := isWord_longName
      rw [word.path, List.mem_singleton]
      exact (word.ne rfl rfl).symm
    refine ⟨⟨by decide, nofun, downward⟩, _, congrArg Prod.snd first,
      spares_of_paths_eq_nil longNamed_lists_none, fun again repeated => ?_⟩
    obtain ⟨made⟩ := compile_eq_ok (second.symm.trans repeated)
    obtain ⟨examples, discovered, -⟩ := exists_packagedPages made.generated rfl
    obtain ⟨found, searched, -⟩ := Example.discover_eq_ok discovered
    have stops := isWord_longName.paths_of_long (by decide +kernel) longNamed_opens
    cases searched.symm.trans stops

end Compiler

end Bindery
