import Bindery.Proofs.Listings
import Bindery.Proofs.Marks
import Bindery.Proofs.Rebuilding

/-!
# Which example pages are listed

A search for examples that ends well lists the files among the matches of its pattern whose front
matter has a title, each once, in the order of their segments, and by paths that lead back to them
from the directory of the book. It reports every other file among the matches once. What the files
hold that the pattern does not match has no effect on it.
-/

namespace Bindery

namespace Draft

variable {α β : Type}

/-- The entries of the lowest level that were logged. -/
def debugEntries (d : Draft α) : List Log.Entry := d.entries.filter fun e => e.level = .debug

theorem debugEntries_bind_of_ok {d : Draft α} {a : α} (done : d.outcome = .ok a)
    (next : α → Draft β) :
    (d >>= next).debugEntries = d.debugEntries ++ (next a).debugEntries := by
  rw [debugEntries, entries_bind_of_ok done, List.filter_append]
  rfl

/-- A walk that ends well logs what each of its steps logs. -/
theorem debugEntries_each {f : α → Draft β} {items : List α} {found : List β}
    (done : (each f items).outcome = .ok found) :
    (each f items).debugEntries = items.flatMap fun a => (f a).debugEntries := by
  induction items generalizing found with
  | nil => rfl
  | cons a rest ih =>
      obtain ⟨b, first, others⟩ := bind_eq_ok_iff.mp done
      obtain ⟨more, remaining, -⟩ := bind_eq_ok_iff.mp others
      rw [each, debugEntries_bind_of_ok first, debugEntries_bind_of_ok remaining, ih remaining]
      rw [List.flatMap_cons]
      exact congrArg _ (List.append_nil _)

theorem each_congr {f g : α → Draft β} {items : List α} (same : ∀ a ∈ items, f a = g a) :
    each f items = each g items := by
  induction items with
  | nil => rfl
  | cons a rest ih =>
      rw [each, each, same a List.mem_cons_self,
        ih fun other listed => same other (List.mem_cons_of_mem _ listed)]

end Draft

theorem map_filter_eq_flatMap {α β : Type} (keep : α → Bool) (f : α → β) (items : List α) :
    (items.filter keep).map f = items.flatMap fun a => if keep a then [f a] else [] := by
  induction items with
  | nil => rfl
  | cons a rest ih => cases kept : keep a <;> simp [kept, ih]

theorem FrontMatter.debugEntries_read (source text : String) :
    (read source text).debugEntries = [] := by
  unfold read
  split
  · rfl
  · split <;> rfl

theorem FrontMatter.eq_attributes {source text : String} {found : List (Value × Value)}
    (done : (read source text).outcome = .ok found) : found = attributes text := by
  rw [outcome_read] at done
  rw [attributes, done]
  rfl

namespace Example

variable {t u : FileTree} {directory p : Path} {pattern : String}

/-! ## Titles -/

/-- Is the path a file? -/
def isRegular (t : FileTree) (p : Path) : Bool := t.isFile p matches .ok true

/-- The title in the front matter of a file; null if there is none. -/
def titleOf (t : FileTree) (p : Path) : Value :=
  match t.readText p with
  | .ok text => Value.get "title" (FrontMatter.attributes text)
  | .error _ => .null

/-- Is the path a file with a title? -/
def isTitled (t : FileTree) (p : Path) : Bool := isRegular t p && (titleOf t p).isTruthy

/-- Is the path a file without a title? -/
def isUntitled (t : FileTree) (p : Path) : Bool := isRegular t p && !(titleOf t p).isTruthy

/-- The example that a file with a title is. -/
def entry (t : FileTree) (directory p : Path) : Example :=
  ⟨(titleOf t p).display, pathFrom directory p⟩

/-- The report of a file without a title. -/
def skipEntry (p : Path) : Log.Entry :=
  ⟨.debug, FrontMatter.logger, "Skipping example without a title: " ++ p.text⟩

/-- Has the path been read, if it is a file? -/
def IsRead (t : FileTree) (p : Path) : Prop :=
  isRegular t p → ∃ text, t.readText p = .ok text ∧
    (FrontMatter.read p.text text).outcome = .ok (FrontMatter.attributes text)

/-- A path that does not stop the search is listed or reported if it is a file, and passed over
otherwise. -/
theorem ofPath?_eq_ok {r : Option Example} (done : (ofPath? t directory p).outcome = .ok r) :
    IsRead t p ∧ r = (if isTitled t p then some (entry t directory p) else none) ∧
      (ofPath? t directory p).debugEntries = if isUntitled t p then [skipEntry p] else [] := by
  obtain ⟨there, asked, goesOn⟩ := Draft.bind_eq_ok_iff.mp done
  rw [Draft.outcome_ofExcept] at asked
  cases there with
  | false =>
      have other : isRegular t p = false := by rw [isRegular, asked]
      rw [IsRead, isTitled, isUntitled, other]
      refine ⟨nofun, (Draft.pure_eq_ok_iff.mp goesOn).symm, ?_⟩
      rw [ofPath?, Draft.debugEntries_bind_of_ok asked]
      rfl
  | true =>
      have file : isRegular t p = true := by rw [isRegular, asked]
      obtain ⟨text, opened, goesOn⟩ := Draft.bind_eq_ok_iff.mp goesOn
      rw [Draft.outcome_ofExcept] at opened
      obtain ⟨found, read, goesOn⟩ := Draft.bind_eq_ok_iff.mp goesOn
      obtain rfl := FrontMatter.eq_attributes read
      have title : titleOf t p = Value.get "title" (FrontMatter.attributes text) := by
        rw [titleOf, opened]
      refine ⟨fun _ => ⟨text, opened, read⟩, ?_⟩
      rw [ofPath?, Draft.debugEntries_bind_of_ok asked]
      dsimp only at goesOn ⊢
      rw [if_pos rfl, Draft.debugEntries_bind_of_ok opened, Draft.debugEntries_bind_of_ok read,
        FrontMatter.debugEntries_read, isTitled, isUntitled, entry, file, title]
      cases truthy : (Value.get "title" (FrontMatter.attributes text)).isTruthy with
      | true =>
          rw [truthy, if_pos rfl] at goesOn
          rw [if_pos rfl]
          split at goesOn
          · next showable =>
              rw [if_pos showable]
              exact ⟨(Draft.pure_eq_ok_iff.mp goesOn).symm, rfl⟩
          · cases goesOn
      | false =>
          rw [truthy, if_neg Bool.false_ne_true] at goesOn
          exact ⟨(Draft.pure_eq_ok_iff.mp goesOn).symm, rfl⟩

/-! ## Matches -/

/-- The path of an example leads from the directory to the page. -/
theorem ofString_pathFrom (leads : Glob.LeadsOn directory p) :
    (Path.ofString (pathFrom directory p)).anchor = .relative ∧
      p.segments = directory.segments ++ (Path.ofString (pathFrom directory p)).segments ∧
      directory / pathFrom directory p = p := by
  obtain ⟨names, rfl, read⟩ := leads
  have written : Path.ofString (pathFrom directory (FileTree.below directory names)) =
      ⟨.relative, names⟩ := by
    rw [pathFrom, FileTree.below, List.drop_left]
    exact Path.ofString_text read
  refine ⟨congrArg Path.anchor written, ?_, ?_⟩
  · rw [written]
    rfl
  · show directory.join _ = _
    rw [written]
    rfl

/-- What is listed, and what is reported, when a search ends well. -/
theorem exists_matched {examples : List Example}
    (ended : (discover t directory pattern).outcome = .ok examples) :
    ∃ matched, Glob.paths t directory pattern = .ok matched ∧ (∀ p ∈ matched, IsRead t p) ∧
      examples = (matched.filter (isTitled t)).map (entry t directory) ∧
      (discover t directory pattern).debugEntries =
        (matched.filter (isUntitled t)).map skipEntry := by
  obtain ⟨matched, searched, goesOn⟩ := Draft.bind_eq_ok_iff.mp ended
  rw [Draft.outcome_ofExcept] at searched
  obtain ⟨results, walked, given⟩ := Draft.bind_eq_ok_iff.mp goesOn
  obtain ⟨rfl, each⟩ := Draft.each_eq_ok (fun p r done => (ofPath?_eq_ok done).2.1) walked
  refine ⟨matched, searched, fun p listed => (ofPath?_eq_ok (each p listed)).1, ?_, ?_⟩
  · rw [← Draft.pure_eq_ok_iff.mp given, List.filterMap_map, ← List.filterMap_eq_map,
      List.filterMap_filter]
    rfl
  · rw [discover, Draft.debugEntries_bind_of_ok searched, Draft.debugEntries_bind_of_ok walked,
      Draft.debugEntries_each walked, map_filter_eq_flatMap]
    refine (List.append_nil _).trans (List.flatMap_congr fun p listed => ?_)
    exact (ofPath?_eq_ok (each p listed)).2.2

/-- A search reads no file but those that its pattern matches. -/
theorem discover_congr (same : u.outline = t.outline)
    (bytes : ∀ matched, Glob.paths t directory pattern = .ok matched →
      ∀ p ∈ matched, isRegular t p → u.readBytes p = t.readBytes p) :
    discover u directory pattern = discover t directory pattern := by
  have searched : Glob.paths u directory pattern = Glob.paths t directory pattern := by
    rw [← Glob.paths_outline u, same, Glob.paths_outline]
  rw [discover, discover, searched]
  cases found : Glob.paths t directory pattern with
  | error fault => rfl
  | ok matched =>
      have steps : ∀ p ∈ matched, ofPath? u directory p = ofPath? t directory p := by
        intro p listed
        have file : u.isFile p = t.isFile p := by
          rw [← FileTree.isFile_outline u, same, FileTree.isFile_outline]
        rw [ofPath?, ofPath?, file]
        cases asked : t.isFile p with
        | error fault => rfl
        | ok there =>
            cases there with
            | false => rfl
            | true =>
                have regular : isRegular t p := by rw [isRegular, asked]
                rw [FileTree.readText, FileTree.readText, bytes matched found p listed regular]
      show (Draft.each (ofPath? u directory) matched >>= _) =
        Draft.each (ofPath? t directory) matched >>= _
      rw [Draft.each_congr steps]

/-- Segments in front of both paths do not change their order. -/
theorem lt_of_append_lt {front first second : List String}
    (before : front ++ first < front ++ second) : first < second := by
  by_contra behind
  exact List.not_lt.mpr (List.append_left_le (List.not_lt.mp behind)) before

/-- A search for examples that ends well lists exactly the files with a title among the matches of
its pattern: each once, in strict order of the segments, with its title, and by a path that leads back
to it from the directory. It reports every other file among the matches once, and whatever the files
hold that are no matches, it gives and reports the same. -/
theorem titled_matches_are_listed (legible : t.IsLegible) {examples : List Example}
    (ended : (discover t directory pattern).outcome = .ok examples) :
    ∃ matched, Glob.paths t directory pattern = .ok matched ∧ matched.Nodup ∧
      (∀ p ∈ matched, IsRead t p) ∧
      examples.map (fun e => directory / e.path) = matched.filter (isTitled t) ∧
      (∀ e ∈ examples, (Path.ofString e.path).anchor = .relative ∧
        e.title = (titleOf t (directory / e.path)).display) ∧
      (examples.Pairwise fun e f =>
        (Path.ofString e.path).segments < (Path.ofString f.path).segments) ∧
      (discover t directory pattern).debugEntries =
        (matched.filter (isUntitled t)).map skipEntry ∧
      ∀ u : FileTree, u.outline = t.outline →
        (∀ p ∈ matched, isRegular t p → u.readBytes p = t.readBytes p) →
          discover u directory pattern = discover t directory pattern := by
  obtain ⟨matched, searched, read, rfl, reported⟩ := exists_matched ended
  obtain ⟨sorted, once, leads⟩ := Glob.strict_paths legible searched
  have back : ∀ p ∈ matched.filter (isTitled t), Glob.LeadsOn directory p := fun p listed =>
    leads p (List.mem_filter.mp listed).1
  refine ⟨matched, searched, once, read, ?_, ?_, ?_, reported, fun u same bytes => ?_⟩
  · rw [List.map_map]
    refine (List.map_congr_left fun p listed => ?_).trans (List.map_id _)
    exact (ofString_pathFrom (back p listed)).2.2
  · intro e listed
    obtain ⟨p, titled, rfl⟩ := List.mem_map.mp listed
    obtain ⟨relative, -, leadsBack⟩ := ofString_pathFrom (back p titled)
    refine ⟨relative, ?_⟩
    rw [entry, leadsBack]
  · rw [List.pairwise_map]
    refine (sorted.filter _).imp_of_mem fun {p q} first second before => ?_
    rw [(ofString_pathFrom (back p first)).2.1, (ofString_pathFrom (back q second)).2.1] at before
    exact lt_of_append_lt before
  · refine discover_congr same fun found again => ?_
    cases searched.symm.trans again
    exact bytes

/-- A directory with pages of all sorts, among them a directory with the name of a page. -/
def mixedPages (notes : String) : FileTree where
  entries := [(["book"], .directory), (["book", "notes.md"], .file notes.toUTF8),
    (["book", "examples"], .directory), (["book", "examples", "b-c"], .directory),
    (["book", "examples", "b-c", "x.md"], .file "---\ntitle: Dashed\n---\n".toUTF8),
    (["book", "examples", "a.md"], .file "# Untitled\n".toUTF8),
    (["book", "examples", "broken.md"], .file "---\ntitle: [broken\n---\n".toUTF8),
    (["book", "examples", "b"], .directory), (["book", "examples", "b", "dir.md"], .directory),
    (["book", "examples", "b", "x.md"], .file "---\ntitle: Plain\n---\n".toUTF8)]
  start := []

/-- The directory of the pages. -/
def mixedBook : Path := ⟨.root, ["book"]⟩

/-- What the usual pattern matches among the pages. -/
def mixedMatches : List Path :=
  [["a.md"], ["b", "dir.md"], ["b", "x.md"], ["b-c", "x.md"], ["broken.md"]].map fun names =>
    ⟨.root, "book" :: "examples" :: names⟩

theorem mixedMatches_searched :
    Glob.paths (mixedPages "# Notes\n") mixedBook Settings.usualExamples = .ok mixedMatches := by
  have read : Glob.Pattern.ofString Settings.usualExamples =
      .ok ⟨[.exact "examples", .deep, .wild (Glob.pieces "*.md")], false⟩ := rfl
  have there : (mixedPages "# Notes\n").isDirectory mixedBook = .ok true := rfl
  -- The search lists the matches in the order of the tree.
  obtain ⟨found, selected, listed⟩ := (Option.any_eq_true (List.isPerm mixedMatches)
    (Glob.select (mixedPages "# Notes\n") false
      [.exact "examples", .deep, .wild (Glob.pieces "*.md")] mixedBook).toOption).mp
    (by decide +kernel)
  have perm := (List.isPerm_iff.mp listed).trans
    (List.mergeSort_perm found fun p q => !(q.segments < p.segments)).symm
  have anchored : ∀ p ∈ mixedMatches, p.anchor = .root := by decide
  have ordered : mixedMatches.Pairwise fun p q => ¬ q.segments < p.segments := by decide
  have distinct : mixedMatches.Nodup := by decide
  have sorted := Glob.eq_of_inOrder anchored (fun p => perm.mem_iff) distinct
    (perm.nodup_iff.mp distinct) ordered (Glob.inOrder_mergeSort found)
  refine Fault.bind_eq_ok_iff.mpr ⟨_, read, Fault.bind_eq_ok_iff.mpr ⟨true, there, ?_⟩⟩
  exact Fault.bind_eq_ok_iff.mpr ⟨found, eq_ok_of_toOption selected, congrArg Except.ok sorted.symm⟩

/-- Two of the pages are listed in the order of their segments, two are reported, and a page beside
them changes nothing. -/
theorem mixedPages_listed :
    (mixedPages "# Notes\n").IsLegible ∧
      (discover (mixedPages "# Notes\n") mixedBook Settings.usualExamples).outcome =
        .ok [⟨"Plain", "examples/b/x.md"⟩, ⟨"Dashed", "examples/b-c/x.md"⟩] ∧
      (discover (mixedPages "# Notes\n") mixedBook Settings.usualExamples).debugEntries =
        [skipEntry ⟨.root, ["book", "examples", "a.md"]⟩,
          skipEntry ⟨.root, ["book", "examples", "broken.md"]⟩] ∧
      discover (mixedPages "---\ntitle: [Notes\n") mixedBook Settings.usualExamples =
        discover (mixedPages "# Notes\n") mixedBook Settings.usualExamples := by
  have legible : (mixedPages "# Notes\n").IsLegible := by decide
  have ended : (discover (mixedPages "# Notes\n") mixedBook Settings.usualExamples).outcome =
      .ok [⟨"Plain", "examples/b/x.md"⟩, ⟨"Dashed", "examples/b-c/x.md"⟩] := by
    rw [discover, mixedMatches_searched]
    exact eq_ok_of_toOption (by decide +kernel)
  obtain ⟨matched, searched, -, -, -, -, -, reported, frame⟩ :=
    titled_matches_are_listed legible ended
  cases mixedMatches_searched.symm.trans searched
  refine ⟨legible, ended, reported.trans (by decide +kernel), frame _ rfl fun p listed file => ?_⟩
  have opened : ∀ p ∈ mixedMatches, isRegular (mixedPages "# Notes\n") p →
      ((mixedPages "---\ntitle: [Notes\n").readBytes p).toOption.isSome ∧
        ((mixedPages "---\ntitle: [Notes\n").readBytes p).toOption =
          ((mixedPages "# Notes\n").readBytes p).toOption := by
    decide +kernel
  obtain ⟨some, same⟩ := opened p listed file
  obtain ⟨content, given⟩ := Option.isSome_iff_exists.mp some
  rw [eq_ok_of_toOption given, eq_ok_of_toOption (same.symm.trans given)]

end Example

end Bindery
