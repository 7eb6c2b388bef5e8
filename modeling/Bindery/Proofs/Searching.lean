import Bindery.Glob
import Bindery.Proofs.SoundTrees
import Bindery.Proofs.Spelling
import Mathlib.Data.List.Forall2
import Mathlib.Data.List.Nodup
import Mathlib.Order.Lattice

/-!
# What patterns match

In a sound tree a pattern that does not lead up matches what stands below a directory under names
that fit its segments one by one. A search lists each of these paths once, in the order of their
segments, and nothing but the length of a path can stop it.

Whether a pattern matches a file does not depend on the other files: a tree that grows keeps the
matches that it had, and gets no new match among what it held before.
-/

namespace Bindery

open FileTree (IsSound Opens Grows below)

namespace Glob

/-! ## Segments that lead down -/

/-- Does the segment lead to a name below? -/
def Segment.IsDownward : Segment → Prop
  | .above => False
  | .exact name => name ≠ ".."
  | .deep | .wild _ => True

theorem isDownward_of_ofString {s : String} {segment : Segment}
    (read : Segment.ofString s = .ok segment) (plain : s ≠ "..") : segment.IsDownward := by
  unfold Segment.ofString at read
  rw [if_neg plain] at read
  split at read
  · cases read
    trivial
  · split at read
    · cases read
    · split at read
      · cases read
        trivial
      · cases read
        exact plain

theorem exists_of_mem_mapM {α β : Type} {f : α → Except Fault β} {items : List α} {found : List β}
    (done : items.mapM f = .ok found) {b : β} (listed : b ∈ found) :
    ∃ a ∈ items, f a = .ok b := by
  induction items generalizing found with
  | nil =>
      cases done
      cases listed
  | cons a rest ih =>
      rw [List.mapM_cons] at done
      obtain ⟨first, made, more⟩ := Fault.bind_eq_ok_iff.mp done
      obtain ⟨others, remaining, given⟩ := Fault.bind_eq_ok_iff.mp more
      cases given
      rcases List.mem_cons.mp listed with rfl | later
      · exact ⟨a, List.mem_cons_self, made⟩
      · obtain ⟨other, known, made⟩ := ih remaining later
        exact ⟨other, List.mem_cons_of_mem _ known, made⟩

/-- The segments of a pattern are written in its path. -/
theorem exists_of_mem_segments {pattern : String} {read : Pattern}
    (parsed : Pattern.ofString pattern = .ok read) {segment : Segment}
    (listed : segment ∈ read.segments) :
    ∃ s ∈ (Path.ofString pattern).segments, Segment.ofString s = .ok segment := by
  unfold Pattern.ofString at parsed
  dsimp only at parsed
  split at parsed
  · cases parsed
  · split at parsed
    · cases parsed
    · split at parsed
      · cases parsed
      · obtain ⟨segments, each, given⟩ := Fault.bind_eq_ok_iff.mp parsed
        cases given
        exact exists_of_mem_mapM each listed

/-- The segments of a pattern without double dots lead down. -/
theorem isDownward_of_mem {pattern : String} {read : Pattern}
    (parsed : Pattern.ofString pattern = .ok read)
    (plain : ".." ∉ (Path.ofString pattern).segments) : ∀ s ∈ read.segments, s.IsDownward := by
  intro segment listed
  obtain ⟨s, known, made⟩ := exists_of_mem_segments parsed listed
  exact isDownward_of_ofString made fun dots => plain (dots ▸ known)

/-! ## Matches -/

/-- May the search go on from a place, or end there? -/
def Admits (t : FileTree) (ends : Bool) (place : Place) : Prop :=
  (t.at? place).isSome ∧ (ends = false → t.at? place = some .directory)

/-- Do the names below a place fit the segments? A pattern that ends with a slash fits directories
alone. -/
def Matches (t : FileTree) (inside : Bool) : List Segment → Place → List String → Prop
  | [], _, names => names = []
  | .above :: _, _, _ => False
  | .exact name :: rest, place, names =>
      ∃ more, names = name :: more ∧ Admits t (rest.isEmpty && !inside) (place ++ [name]) ∧
        Matches t inside rest (place ++ [name]) more
  | .wild pieces :: rest, place, names =>
      ∃ name more, names = name :: more ∧ isMatch pieces name.toList ∧
        Admits t (rest.isEmpty && !inside) (place ++ [name]) ∧
        Matches t inside rest (place ++ [name]) more
  | .deep :: rest, place, names =>
      ∃ first more, names = first ++ more ∧ t.at? (place ++ first) = some .directory ∧
        Matches t inside rest (place ++ first) more

variable {t u : FileTree} {inside : Bool} {segments : List Segment}

/-- Directories and files that stay what they are go on to match. -/
theorem Matches.grow {files : Table Path String} (grows : Grows files t u) {place : Place}
    {names : List String} (fits : Matches t inside segments place names) :
    Matches u inside segments place names := by
  have admits {ends : Bool} {place : Place} (admitted : Admits t ends place) :
      Admits u ends place :=
    ⟨grows.isSome admitted.1, fun on => (grows.directory_iff admitted.1).mpr (admitted.2 on)⟩
  induction segments generalizing place names with
  | nil => exact fits
  | cons segment rest ih =>
      cases segment with
      | above => exact fits
      | exact name =>
          obtain ⟨more, split, admitted, others⟩ := fits
          exact ⟨more, split, admits admitted, ih others⟩
      | wild pieces =>
          obtain ⟨name, more, split, matched, admitted, others⟩ := fits
          exact ⟨name, more, split, matched, admits admitted, ih others⟩
      | deep =>
          obtain ⟨first, more, split, directory, others⟩ := fits
          exact ⟨first, more, split,
            (grows.directory_iff (by rw [directory]; rfl)).mpr directory, ih others⟩

/-- What stood in a sound tree matches by its names alone, whatever the tree has grown to. -/
theorem Matches.shrink {files : Table Path String} (sound : t.IsSound) (grows : Grows files t u)
    {place : Place} {names : List String} (fits : Matches u inside segments place names)
    (stored : (t.at? (place ++ names)).isSome) : Matches t inside segments place names := by
  -- On the way to something that stood before there is nothing new.
  have old {place : Place} {names : List String} (stored : (t.at? (place ++ names)).isSome) :
      (t.at? place).isSome := by
    cases names with
    | nil => rwa [List.append_nil] at stored
    | cons name rest =>
        rw [sound.at?_of_append stored]
        rfl
  have admits {ends : Bool} {place : Place} (admitted : Admits u ends place)
      (stored : (t.at? place).isSome) : Admits t ends place :=
    ⟨stored, fun on => (grows.directory_iff stored).mp (admitted.2 on)⟩
  induction segments generalizing place names with
  | nil => exact fits
  | cons segment rest ih =>
      cases segment with
      | above => exact fits
      | exact name =>
          obtain ⟨more, rfl, admitted, others⟩ := fits
          rw [List.append_cons] at stored
          exact ⟨more, rfl, admits admitted (old stored), ih others stored⟩
      | wild pieces =>
          obtain ⟨name, more, rfl, matched, admitted, others⟩ := fits
          rw [List.append_cons] at stored
          exact ⟨name, more, rfl, matched, admits admitted (old stored), ih others stored⟩
      | deep =>
          obtain ⟨first, more, rfl, directory, others⟩ := fits
          rw [← List.append_assoc] at stored
          exact ⟨first, more, rfl, (grows.directory_iff (old stored)).mp directory,
            ih others stored⟩

/-! ## What directories hold -/

/-- The name under which a place stands in a directory. -/
def nameIn (place other : Place) : Option String :=
  match other.getLast? with
  | some name => if other.dropLast = place then some name else none
  | none => none

theorem nameIn_eq_some_iff {place other : Place} {name : String} :
    nameIn place other = some name ↔ other = place ++ [name] := by
  unfold nameIn
  induction other using List.reverseRecOn with
  | nil => simp
  | append_singleton names last _ =>
      rw [List.getLast?_concat, List.dropLast_concat]
      simp [and_comm]

theorem namesIn_eq (t : FileTree) (place : Place) :
    t.namesIn place = t.entries.keys.filterMap (nameIn place) := by
  rw [FileTree.namesIn, Table.keys, List.filterMap_map]
  rfl

theorem mem_namesIn_iff {place : Place} {name : String} :
    name ∈ t.namesIn place ↔ (t.at? (place ++ [name])).isSome := by
  rw [FileTree.isSome_at?_iff (by simp), namesIn_eq, List.mem_filterMap]
  constructor
  · rintro ⟨other, listed, named⟩
    rwa [← nameIn_eq_some_iff.mp named]
  · exact fun listed => ⟨_, listed, nameIn_eq_some_iff.mpr rfl⟩

theorem nodup_namesIn (nodup : t.entries.keys.Nodup) (place : Place) :
    (t.namesIn place).Nodup := by
  rw [namesIn_eq]
  refine nodup.filterMap fun other another name named alike => ?_
  rw [nameIn_eq_some_iff.mp named, nameIn_eq_some_iff.mp alike]

theorem mem_directoriesFrom_iff (sound : t.IsSound) {p q : Path} {place : Place}
    (directory : t.at? place = some .directory) :
    q ∈ directoriesFrom t p place ↔
      ∃ names, q = below p names ∧ t.at? (place ++ names) = some .directory := by
  rw [directoriesFrom, List.mem_cons, List.mem_filterMap]
  constructor
  · rintro (rfl | ⟨⟨other, stored⟩, listed, led⟩)
    · exact ⟨[], (FileTree.below_nil q).symm, by rwa [List.append_nil]⟩
    · cases stored with
      | file content => cases led
      | directory =>
          dsimp only at led
          split at led
          · next inside =>
              obtain ⟨names, rfl⟩ := List.isPrefixOf_iff_prefix.mp inside.1
              rw [List.drop_left] at led
              have filled : place ++ names ≠ [] := fun empty => inside.2 (by
                rw [(List.append_eq_nil_iff.mp empty).1, (List.append_eq_nil_iff.mp empty).2]
                rfl)
              refine ⟨names, (Option.some.inj led).symm, ?_⟩
              rw [FileTree.at?, if_neg (by simpa using filled)]
              exact Table.get?_of_mem sound.nodup listed
          · cases led
  · rintro ⟨names, rfl, stands⟩
    by_cases empty : names = []
    · exact .inl (by rw [empty, FileTree.below_nil])
    · have filled : (place ++ names).isEmpty = false := by simp [empty]
      rw [FileTree.at?, filled, if_neg Bool.false_ne_true] at stands
      refine .inr ⟨(place ++ names, .directory), Table.mem_of_get? stands, ?_⟩
      dsimp only
      rw [if_pos ⟨List.isPrefixOf_iff_prefix.mpr ⟨names, rfl⟩, by simpa using empty⟩,
        List.drop_left]
      rfl

theorem mem_distinct {paths : List Path} {p : Path} : p ∈ distinct paths ↔ p ∈ paths := by
  induction paths with
  | nil => rfl
  | cons first rest ih =>
      rw [distinct, List.mem_cons, List.mem_cons, List.mem_filter, ih]
      by_cases same : p = first <;> simp [same]

theorem nodup_distinct (paths : List Path) : (distinct paths).Nodup := by
  induction paths with
  | nil => exact List.nodup_nil
  | cons first rest ih =>
      rw [distinct, List.nodup_cons]
      exact ⟨by simp, ih.filter _⟩

/-! ## The search -/

section Flatten

variable {α β : Type} {gives : α → β → Prop} {items : List α} {lists : List (List β)}

theorem mem_flatten_of_forall₂
    (each : List.Forall₂ (fun a found => ∀ b, b ∈ found ↔ gives a b) items lists) {b : β} :
    b ∈ lists.flatten ↔ ∃ a ∈ items, gives a b := by
  induction each with
  | nil => simp
  | cons first _ ih => simp [first b, ih]

theorem nodup_flatten_of_forall₂
    (each : List.Forall₂ (fun a found => found.Nodup ∧ ∀ b, b ∈ found ↔ gives a b) items lists)
    (distinct : items.Nodup) (apart : ∀ a other b, gives a b → gives other b → a = other) :
    lists.flatten.Nodup := by
  induction each with
  | nil => exact List.nodup_nil
  | @cons a found items lists first others ih =>
      obtain ⟨unknown, rest⟩ := List.nodup_cons.mp distinct
      rw [List.flatten_cons, List.nodup_append]
      refine ⟨first.1, ih rest, ?_⟩
      rintro b inFirst b inOthers rfl
      obtain ⟨other, listed, given⟩ :=
        (mem_flatten_of_forall₂ (others.imp fun _ _ spec => spec.2)).mp inOthers
      exact unknown (apart a other b ((first.2 b).mp inFirst) given ▸ listed)

end Flatten

/-- What a search below a path has found: each match once. -/
def Lists (t : FileTree) (inside : Bool) (segments : List Segment) (p : Path) (place : Place)
    (found : List Path) : Prop :=
  found.Nodup ∧
    ∀ q, q ∈ found ↔ ∃ names, q = below p names ∧ Matches t inside segments place names

variable {p : Path} {place : Place}

theorem admits_child (sound : t.IsSound) (opens : t.Opens p place) {name : String}
    (named : name ≠ "..") (ends : Bool) :
    UnlessTooLong (if ends then t.exists? (child p name) else t.isDirectory (child p name))
      fun found => found = true ↔ Admits t ends (place ++ [name]) := by
  have stored := opens.storedIfAny_child sound named
  cases ends with
  | true =>
      refine stored.bind fun found same => .ok ?_
      simp [same, Admits]
  | false =>
      refine stored.bind fun found same => ?_
      subst same
      cases there : t.at? (place ++ [name]) with
      | none => exact .ok (by simp [Admits, there])
      | some stored => cases stored <;> exact .ok (by simp [Admits, there])

theorem select_exact (name : String) (rest : List Segment) :
    select t inside (.exact name :: rest) p =
      (if rest.isEmpty && !inside then t.exists? (child p name)
        else t.isDirectory (child p name)) >>= fun found =>
          if found then select t inside rest (below p [name]) else .ok [] := by
  rw [select]
  split <;> rfl

theorem lists_exact (sound : t.IsSound) (opens : t.Opens p place) {name : String}
    (named : name ≠ "..") {rest : List Segment}
    (next : Admits t (rest.isEmpty && !inside) (place ++ [name]) →
      UnlessTooLong (select t inside rest (below p [name]))
        (Lists t inside rest (below p [name]) (place ++ [name]))) :
    UnlessTooLong (select t inside (.exact name :: rest) p)
      (Lists t inside (.exact name :: rest) p place) := by
  rw [select_exact]
  refine (admits_child sound opens named _).bind fun found asked => ?_
  cases found with
  | true =>
      have admitted := asked.mp rfl
      rw [if_pos rfl]
      refine (next admitted).mono fun paths listed => ⟨listed.1, fun q => ?_⟩
      rw [listed.2]
      constructor
      · rintro ⟨more, rfl, fits⟩
        exact ⟨name :: more, FileTree.below_below p [name] more, more, rfl, admitted, fits⟩
      · rintro ⟨names, rfl, more, rfl, -, fits⟩
        exact ⟨more, (FileTree.below_below p [name] more).symm, fits⟩
  | false =>
      rw [if_neg Bool.false_ne_true]
      refine .ok ⟨List.nodup_nil, fun q => iff_of_false List.not_mem_nil ?_⟩
      rintro ⟨names, rfl, more, rfl, admitted, -⟩
      cases asked.mpr admitted

theorem lists_wild (sound : t.IsSound) (opens : t.Opens p place) (pieces : List Piece)
    {rest : List Segment}
    (next : ∀ name, Admits t (rest.isEmpty && !inside) (place ++ [name]) →
      UnlessTooLong (select t inside rest (below p [name]))
        (Lists t inside rest (below p [name]) (place ++ [name]))) :
    UnlessTooLong (select t inside (.wild pieces :: rest) p)
      (Lists t inside (.wild pieces :: rest) p place) := by
  rw [select]
  refine opens.find.bind fun found same => ?_
  subst same
  have kept (name : String) :
      name ∈ (t.namesIn found).filter (fun name =>
        isMatch pieces name.toList && ((rest.isEmpty && !inside) ||
          t.at? (found ++ [name]) == some .directory)) ↔
        isMatch pieces name.toList ∧ Admits t (rest.isEmpty && !inside) (found ++ [name]) := by
    rw [List.mem_filter, mem_namesIn_iff, Admits]
    cases rest.isEmpty && !inside <;> simp <;> tauto
  have each := UnlessTooLong.mapM fun name listed => next name ((kept name).mp listed).2
  refine each.bind fun lists gathered => .ok ⟨?_, fun q => ?_⟩
  · refine nodup_flatten_of_forall₂ gathered ((nodup_namesIn sound.nodup found).filter _) ?_
    rintro name other q ⟨more, rfl, -⟩ ⟨others, same, -⟩
    rw [FileTree.below_below, FileTree.below_below] at same
    exact (List.cons.inj (FileTree.below_injective same)).1
  · rw [mem_flatten_of_forall₂ (gathered.imp fun _ _ spec => spec.2)]
    constructor
    · rintro ⟨name, listed, more, rfl, fits⟩
      obtain ⟨matched, admitted⟩ := (kept name).mp listed
      exact ⟨name :: more, FileTree.below_below p [name] more, name, more, rfl, matched,
        admitted, fits⟩
    · rintro ⟨names, rfl, name, more, rfl, matched, admitted, fits⟩
      exact ⟨name, (kept name).mpr ⟨matched, admitted⟩, more,
        (FileTree.below_below p [name] more).symm, fits⟩

theorem lists_deep (sound : t.IsSound) (opens : t.Opens p place) {rest : List Segment}
    (next : ∀ names, t.at? (place ++ names) = some .directory →
      UnlessTooLong (select t inside rest (below p names))
        (Lists t inside rest (below p names) (place ++ names))) :
    UnlessTooLong (select t inside (.deep :: rest) p)
      (Lists t inside (.deep :: rest) p place) := by
  rw [select]
  refine opens.find.bind fun found same => ?_
  subst same
  have reaches {q : Path} := mem_directoriesFrom_iff sound opens.directory (p := p) (q := q)
  have each (q : Path) (listed : q ∈ directoriesFrom t p found) :
      UnlessTooLong (select t inside rest q) fun paths => ∀ r, r ∈ paths ↔
        ∃ names more, q = below p names ∧ r = below q more ∧
          Matches t inside rest (found ++ names) more := by
    obtain ⟨names, rfl, directory⟩ := reaches.mp listed
    refine (next names directory).mono fun paths listed r => ?_
    rw [listed.2]
    constructor
    · rintro ⟨more, rfl, fits⟩
      exact ⟨names, more, rfl, rfl, fits⟩
    · rintro ⟨first, more, same, rfl, fits⟩
      rw [← FileTree.below_injective same] at fits
      exact ⟨more, rfl, fits⟩
  refine (UnlessTooLong.mapM each).bind fun lists gathered => .ok ⟨nodup_distinct _, fun q => ?_⟩
  rw [mem_distinct, mem_flatten_of_forall₂ gathered]
  constructor
  · rintro ⟨_, listed, names, more, rfl, rfl, fits⟩
    obtain ⟨first, same, directory⟩ := reaches.mp listed
    rw [← FileTree.below_injective same] at directory
    exact ⟨names ++ more, FileTree.below_below p names more, names, more, rfl, directory, fits⟩
  · rintro ⟨_, rfl, names, more, rfl, directory, fits⟩
    exact ⟨below p names, reaches.mpr ⟨names, rfl, directory⟩, names, more, rfl,
      (FileTree.below_below p names more).symm, fits⟩

/-- A search gives each match once, unless some path is too long. -/
theorem lists_select (sound : t.IsSound) (downward : ∀ s ∈ segments, s.IsDownward)
    (opens : segments ≠ [] → t.Opens p place) :
    UnlessTooLong (select t inside segments p) (Lists t inside segments p place) := by
  induction segments generalizing p place with
  | nil =>
      refine .ok ⟨List.nodup_singleton p, fun q => ?_⟩
      rw [List.mem_singleton]
      constructor
      · rintro rfl
        exact ⟨[], (FileTree.below_nil q).symm, rfl⟩
      · rintro ⟨names, rfl, rfl⟩
        exact FileTree.below_nil p
  | cons segment rest ih =>
      have others : ∀ s ∈ rest, s.IsDownward := fun s listed =>
        downward s (List.mem_cons_of_mem _ listed)
      have opened := opens (List.cons_ne_nil _ _)
      have leads := downward segment List.mem_cons_self
      -- A name at which the search does not end has to stand for a directory.
      have next (name : String) (admitted : Admits t (rest.isEmpty && !inside) (place ++ [name])) :
          UnlessTooLong (select t inside rest (below p [name]))
            (Lists t inside rest (below p [name]) (place ++ [name])) :=
        ih others fun more => opened.below sound (admitted.2 (by simp [more]))
      cases segment with
      | above => exact leads.elim
      | exact name => exact lists_exact sound opened leads (next name)
      | wild pieces => exact lists_wild sound opened pieces next
      | deep =>
          exact lists_deep sound opened fun names directory =>
            ih others fun _ => opened.below sound directory

/-! ## Whole patterns -/

/-- Do the paths stand in the order of their segments? -/
def InOrder (paths : List Path) : Prop := paths.Pairwise fun p q => ¬ q.segments < p.segments

theorem inOrder_mergeSort (paths : List Path) :
    InOrder (paths.mergeSort fun p q => !(q.segments < p.segments)) := by
  refine (List.pairwise_mergeSort ?_ ?_ paths).imp fun {p q} after => by simpa using after
  · intro p q r first second
    simp only [Bool.not_eq_true', decide_eq_false_iff_not, List.not_lt] at first second ⊢
    exact List.le_trans first second
  · intro p q
    simp only [Bool.or_eq_true, Bool.not_eq_true', decide_eq_false_iff_not, List.not_lt]
    exact List.le_total p.segments q.segments

/-- Paths from one anchor are put in order in one way. -/
theorem eq_of_inOrder {paths others : List Path} {anchor : Anchor}
    (anchored : ∀ p ∈ paths, p.anchor = anchor) (same : ∀ p, p ∈ paths ↔ p ∈ others)
    (distinct : paths.Nodup) (once : others.Nodup) (ordered : InOrder paths)
    (sorted : InOrder others) : paths = others := by
  have perm := (List.perm_ext_iff_of_nodup distinct once).mpr same
  refine perm.eq_of_pairwise (fun p q listed present before after => ?_) ordered sorted
  have segments := List.le_antisymm (List.not_lt.mp before) (List.not_lt.mp after)
  have anchors := (anchored p listed).trans (anchored q ((same q).mpr present)).symm
  cases p
  cases q
  exact congrArg₂ Path.mk anchors segments

/-- What a pattern matches below a directory: each match once, in order, if the directory is found,
and nothing otherwise. -/
theorem paths_spec (sound : t.IsSound) {directory : Path} {pattern : String} {read : Pattern}
    (parsed : Pattern.ofString pattern = .ok read) (downward : ∀ s ∈ read.segments, s.IsDownward) :
    UnlessTooLong (paths t directory pattern) fun found => InOrder found ∧ found.Nodup ∧
      ∀ q, q ∈ found ↔ ∃ place names, t.find directory = .ok place ∧
        t.at? place = some .directory ∧ q = below directory names ∧
          Matches t read.inside read.segments place names := by
  rw [paths, parsed]
  refine UnlessTooLong.bind (.ok rfl : UnlessTooLong (.ok read) (· = read)) fun _ same => ?_
  subst same
  refine (FileTree.isDirectory_spec t directory).bind fun found asked => ?_
  cases found with
  | true =>
      obtain ⟨place, led, stands⟩ := asked.mp rfl
      have opens := FileTree.opens_of_find led stands
      rw [if_pos rfl]
      refine (lists_select sound downward fun _ => opens).bind fun found listed => .ok ?_
      have perm := List.mergeSort_perm found fun p q => !(q.segments < p.segments)
      refine ⟨inOrder_mergeSort found, perm.nodup_iff.mpr listed.1, fun q => ?_⟩
      rw [perm.mem_iff, listed.2]
      constructor
      · rintro ⟨names, rfl, fits⟩
        exact ⟨place, names, led, stands, rfl, fits⟩
      · rintro ⟨other, names, same, -, rfl, fits⟩
        rw [led] at same
        cases same
        exact ⟨names, rfl, fits⟩
  | false =>
      rw [if_neg Bool.false_ne_true]
      refine .ok ⟨.nil, List.nodup_nil, fun q => iff_of_false List.not_mem_nil ?_⟩
      rintro ⟨place, names, led, stands, -⟩
      cases asked.mpr ⟨place, led, stands⟩

theorem Matches.isSome {place : Place} {names : List String}
    (fits : Matches t inside segments place names) (stored : (t.at? place).isSome) :
    (t.at? (place ++ names)).isSome := by
  induction segments generalizing place names with
  | nil =>
      rw [show names = [] from fits, List.append_nil]
      exact stored
  | cons segment rest ih =>
      cases segment with
      | above => exact fits.elim
      | exact name =>
          obtain ⟨more, rfl, admitted, others⟩ := fits
          rw [List.append_cons]
          exact ih others admitted.1
      | wild pieces =>
          obtain ⟨name, more, rfl, -, admitted, others⟩ := fits
          rw [List.append_cons]
          exact ih others admitted.1
      | deep =>
          obtain ⟨first, more, rfl, directory, others⟩ := fits
          rw [← List.append_assoc]
          exact ih others (by rw [directory]; rfl)

section Growth

variable {files : Table Path String} {directory : Path} {pattern : String} {read : Pattern}
  {found again : List Path}

/-- A match stands where its path settles, and is found there unless its path is too long. -/
theorem stands_of_mem_paths (sound : t.IsSound) (absolute : directory.isAbsolute)
    (parsed : Pattern.ofString pattern = .ok read) (downward : ∀ s ∈ read.segments, s.IsDownward)
    (searched : paths t directory pattern = .ok found) {p : Path} (listed : p ∈ found) :
    p.isAbsolute ∧ (t.at? (Path.settle p.segments)).isSome ∧
      UnlessTooLong (t.find p) (· = Path.settle p.segments) := by
  obtain ⟨-, -, spec⟩ := (searched ▸ paths_spec sound parsed downward).of_eq_ok
  obtain ⟨place, names, led, stands, rfl, fits⟩ := (spec p).mp listed
  have opens := FileTree.opens_of_find led stands
  have stored := fits.isSome (by rw [stands]; rfl)
  rw [opens.settle_below absolute sound stored]
  exact ⟨absolute, stored, opens.find_below sound stored⟩

/-- Of the matches in a tree that has grown, those that stood before are the matches of before,
provided that the directory was already found if it stood already. -/
theorem paths_eq_filter (sound : t.IsSound) (grows : Grows files t u)
    (absolute : directory.isAbsolute) (parsed : Pattern.ofString pattern = .ok read)
    (downward : ∀ s ∈ read.segments, s.IsDownward)
    (reached : t.at? (Path.settle directory.segments) = some .directory →
      t.find directory = .ok (Path.settle directory.segments))
    (searched : paths t directory pattern = .ok found)
    (repeated : paths u directory pattern = .ok again) :
    found = again.filter fun p => (t.at? (Path.settle p.segments)).isSome := by
  have grown := grows.isSound sound
  obtain ⟨ordered, distinct, spec⟩ :=
    (searched ▸ paths_spec sound parsed downward).of_eq_ok
  obtain ⟨sorted, once, again_spec⟩ :=
    (repeated ▸ paths_spec grown parsed downward).of_eq_ok
  have anchored : ∀ p ∈ found, p.anchor = directory.anchor := by
    intro p listed
    obtain ⟨place, names, -, -, rfl, -⟩ := (spec p).mp listed
    rfl
  refine eq_of_inOrder anchored (fun p => ?_) distinct (once.filter _) ordered (sorted.filter _)
  rw [List.mem_filter, spec, again_spec]
  constructor
  · rintro ⟨place, names, led, stands, rfl, fits⟩
    have opens := FileTree.opens_of_find led stands
    have stored := fits.isSome (by rw [stands]; rfl)
    have kept := grows.wrote.directories
    rw [opens.settle_below absolute sound stored]
    exact ⟨⟨place, names, kept.find absolute led, kept place stands, rfl, fits.grow grows⟩, stored⟩
  · rintro ⟨⟨place, names, led, stands, rfl, fits⟩, stored⟩
    have opens := FileTree.opens_of_find led stands
    rw [opens.settle_below absolute grown (fits.isSome (by rw [stands]; rfl))] at stored
    -- Whatever stood below the directory before, stood in it.
    have before : t.at? place = some .directory := by
      cases names with
      | nil =>
          rw [List.append_nil] at stored
          exact (grows.directory_iff stored).mp stands
      | cons name rest => exact sound.at?_of_append stored
    have settled := (FileTree.origin_of_absolute absolute ▸ opens.walks).eq_settle
    rw [settled] at before
    refine ⟨place, names, settled ▸ reached before, settled ▸ before, rfl, ?_⟩
    exact fits.shrink sound grows stored

end Growth

/-! ## Words -/

theorem paths_of_missing {directory : Path} {pattern : String} {read : Pattern}
    (parsed : Pattern.ofString pattern = .ok read) (missing : t.isDirectory directory = .ok false) :
    paths t directory pattern = .ok [] := by
  rw [paths, parsed]
  show (t.isDirectory directory >>= _) = _
  rw [missing]
  rfl

theorem hasTwoStars_of_not_mem {cs : List Char} (free : '*' ∉ cs) : hasTwoStars cs = false := by
  induction cs with
  | nil => rfl
  | cons c rest ih =>
      rw [List.mem_cons, not_or] at free
      unfold hasTwoStars
      split
      · next same =>
          cases same
          exact absurd rfl free.1
      · next same =>
          cases same
          exact ih free.2
      · rfl

/-- Does the text consist of letters? -/
def IsWord (s : String) : Prop := s ≠ "" ∧ ∀ c ∈ s.toList, c.isAlpha

namespace IsWord

variable {name : String} (word : IsWord name)

include word

theorem not_mem {c : Char} (mark : c.isAlpha = false) : c ∉ name.toList := by
  intro listed
  rw [word.2 c listed] at mark
  cases mark

theorem ne {other : String} {c : Char} {rest : List Char} (begins : other.toList = c :: rest)
    (mark : c.isAlpha = false) : name ≠ other := by
  rintro rfl
  exact word.not_mem mark (by rw [begins]; exact List.mem_cons_self)

theorem isEmpty_eq_false : name.isEmpty = false := by simpa using word.1

theorem path : Path.ofString name = ⟨.relative, [name]⟩ := by
  have opening : Path.anchorOf name.toList = .relative := by
    have noSlash := word.not_mem (c := '/') rfl
    unfold Path.anchorOf
    split <;> simp_all
  have named : name ≠ "." := word.ne rfl rfl
  have segment : Path.isSegment name := by
    simp [Path.isSegment, word.isEmpty_eq_false, named]
  rw [Path.ofString, Text.splitAt, Text.cut_of_free (word.not_mem rfl), opening, List.map_cons,
    String.ofList_toList, List.map_nil, List.filter_cons_of_pos segment, List.filter_nil]

theorem segment : Segment.ofString name = .ok (.exact name) := by
  have plain : name.toList.any (fun c => c = '*' || c = '?' || c = '[') = false := by
    rw [List.any_eq_false]
    intro c listed mark
    have letter := word.2 c listed
    simp only [Bool.or_eq_true, decide_eq_true_eq] at mark
    rcases mark with (rfl | rfl) | rfl <;> cases letter
  rw [Segment.ofString, if_neg (word.ne rfl rfl), if_neg (word.ne rfl rfl),
    hasTwoStars_of_not_mem (word.not_mem rfl), if_neg Bool.false_ne_true, plain,
    if_neg Bool.false_ne_true]

/-- A word is a pattern for itself. -/
theorem ofString : Pattern.ofString name = .ok ⟨[.exact name], false⟩ := by
  have inside : decide (name.toList.getLast? = some '/') = false := by
    rw [decide_eq_false_iff_not]
    exact fun last => word.not_mem rfl (List.mem_of_getLast? last)
  rw [Pattern.ofString, inside, word.path, word.isEmpty_eq_false]
  simp [word.segment, Path.isAbsolute]

/-- A word that is too long for a name stops the search for it. -/
theorem paths_of_long (long : FileTree.longestName < name.utf8ByteSize) {directory : Path}
    {place : Place} (opens : t.Opens directory place) :
    paths t directory name = .error (.file .tooLong) := by
  have valid : ¬ (below directory [name]).holdsNul := by
    rw [FileTree.holdsNul_below, Bool.or_eq_true, not_or]
    refine ⟨opens.valid, ?_⟩
    simpa using word.not_mem (c := '\x00') rfl
  have unknown := opens.find_child_of_long (word.ne rfl rfl) valid long
  have stops : select t false [.exact name] directory = .error (.file .tooLong) := by
    rw [select_exact]
    show (t.exists? (below directory [name]) >>= _) = _
    rw [FileTree.exists?, FileTree.storedIfAny_of_tooLong unknown]
    rfl
  rw [paths, word.ofString]
  show (t.isDirectory directory >>= _) = _
  rcases opens.find with tooLong | ⟨_, found, rfl⟩
  · rw [FileTree.isDirectory, FileTree.storedIfAny_of_tooLong tooLong]
    rfl
  · rw [FileTree.isDirectory, FileTree.storedIfAny_of_find found, opens.directory]
    show ((select t false [.exact name] directory >>= _) : Except Fault (List Path)) = _
    rw [stops]
    rfl

end IsWord

end Glob

end Bindery
