import Bindery.Proofs.Drafting
import Bindery.Proofs.Searching

/-!
# What a search lists

A search lists paths that go on from its directory under names that can be written and read back,
each path once and in the order of their segments. Of the tree it sees the directories and the names
alone: trees with one outline are searched alike, whatever their files hold.
-/

namespace Bindery

/-! ## Outlines -/

/-- What is stored, without what a file holds. -/
def Stored.outline : Stored → Stored
  | file _ => file .empty
  | directory => directory

namespace FileTree

/-- The tree with empty files in place of its files. -/
def outline (t : FileTree) : FileTree :=
  { t with entries := t.entries.map fun entry => (entry.1, entry.2.outline) }

variable (t : FileTree)

theorem keys_outline : t.outline.entries.keys = t.entries.keys := by
  rw [outline, Table.keys, Table.keys, List.map_map]
  rfl

theorem at?_outline (place : Place) : t.outline.at? place = (t.at? place).map Stored.outline := by
  rw [at?, at?]
  split
  · rfl
  · exact Table.get?_map_snd place Stored.outline t.entries

theorem at?_outline_eq_directory (place : Place) :
    (t.outline.at? place == some .directory) = (t.at? place == some .directory) := by
  rw [at?_outline]
  cases t.at? place with
  | none => rfl
  | some stored => cases stored <;> rfl

theorem follow_outline (whole : Path) (place : Place) (names : List String) :
    t.outline.follow whole place names = t.follow whole place names := by
  induction names generalizing place with
  | nil => rfl
  | cons name rest ih =>
      rw [follow, follow, at?_outline]
      cases t.at? place with
      | none => rfl
      | some stored =>
          cases stored with
          | file content => rfl
          | directory =>
              dsimp only [Option.map_some, Stored.outline]
              rw [ih, ih]

theorem find_outline (p : Path) : t.outline.find p = t.find p := by
  rw [find, find, follow_outline]
  rfl

theorem storedIfAny_outline (p : Path) :
    t.outline.storedIfAny p = (t.storedIfAny p).map (Option.map Stored.outline) := by
  have same : t.outline.stored p = (t.stored p).map Stored.outline := by
    rw [stored, stored, find_outline]
    cases t.find p with
    | error fault => rfl
    | ok place =>
        dsimp only [bind, Except.bind]
        rw [at?_outline]
        cases t.at? place <;> rfl
  rw [storedIfAny, storedIfAny, same]
  cases t.stored p with
  | ok stored => rfl
  | error fault =>
      cases fault with
      | file cause => cases cause <;> rfl
      | value cause => cases cause <;> rfl
      | _ => rfl

/-- A question that is blind to what files hold has the same answer. -/
theorem bind_storedIfAny_outline {α : Type} {next : Option Stored → Except Fault α}
    (blind : ∀ found, next (Option.map Stored.outline found) = next found) (p : Path) :
    t.outline.storedIfAny p >>= next = t.storedIfAny p >>= next := by
  rw [storedIfAny_outline]
  cases t.storedIfAny p with
  | error fault => rfl
  | ok found => exact blind found

theorem exists?_outline (p : Path) : t.outline.exists? p = t.exists? p := by
  refine bind_storedIfAny_outline t (fun found => ?_) p
  cases found <;> rfl

theorem isDirectory_outline (p : Path) : t.outline.isDirectory p = t.isDirectory p := by
  refine bind_storedIfAny_outline t (fun found => ?_) p
  rcases found with _ | _ | _ <;> rfl

theorem isFile_outline (p : Path) : t.outline.isFile p = t.isFile p := by
  refine bind_storedIfAny_outline t (fun found => ?_) p
  rcases found with _ | _ | _ <;> rfl

end FileTree

namespace Glob

variable (t : FileTree)

theorem namesIn_outline (place : Place) : t.outline.namesIn place = t.namesIn place := by
  rw [namesIn_eq, namesIn_eq, FileTree.keys_outline]

theorem directoriesFrom_outline (p : Path) (place : Place) :
    directoriesFrom t.outline p place = directoriesFrom t p place := by
  rw [directoriesFrom, directoriesFrom, FileTree.outline, List.filterMap_map]
  refine congrArg (p :: ·) (List.filterMap_congr fun entry _ => ?_)
  obtain ⟨other, stored⟩ := entry
  cases stored <;> rfl

theorem select_outline (inside : Bool) (segments : List Segment) (p : Path) :
    select t.outline inside segments p = select t inside segments p := by
  induction segments generalizing p with
  | nil => rfl
  | cons segment rest ih =>
      cases segment with
      | above => exact ih _
      | exact name =>
          simp only [select_exact, FileTree.exists?_outline, FileTree.isDirectory_outline, ih]
      | wild pieces =>
          simp only [select, FileTree.find_outline, namesIn_outline,
            FileTree.at?_outline_eq_directory, ih]
      | deep => simp only [select, FileTree.find_outline, directoriesFrom_outline, ih]

/-- What a pattern matches does not hang on what files hold. -/
theorem paths_outline (directory : Path) (pattern : String) :
    paths t.outline directory pattern = paths t directory pattern := by
  simp only [paths, FileTree.isDirectory_outline, select_outline]

end Glob

/-! ## Legible names -/

/-- Is every place entered once, under names that paths can be written with? -/
structure FileTree.IsLegible (t : FileTree) : Prop where
  nodup : t.entries.keys.Nodup
  read : ∀ place ∈ t.entries.keys, Path.AreRead place

instance (segments : List String) : Decidable (Path.AreRead segments) :=
  inferInstanceAs (Decidable (∀ _ ∈ _, _))

instance (t : FileTree) : Decidable t.IsLegible :=
  decidable_of_iff (t.entries.keys.Nodup ∧ ∀ place ∈ t.entries.keys, Path.AreRead place)
    ⟨fun ⟨nodup, read⟩ => ⟨nodup, read⟩, fun ⟨nodup, read⟩ => ⟨nodup, read⟩⟩

namespace Glob

open FileTree (below)

variable {t : FileTree} {inside : Bool} {segments : List Segment} {p q : Path} {place : Place}
  {found : List Path}

/-- Could the name that the segment looks for have been read? -/
def Segment.IsLegible : Segment → Prop
  | .exact name => Path.AreRead [name]
  | .above | .deep | .wild _ => True

theorem isLegible_of_ofString {s : String} {segment : Segment} (areRead : Path.AreRead [s])
    (read : Segment.ofString s = .ok segment) : segment.IsLegible := by
  unfold Segment.ofString at read
  split_ifs at read <;> cases read
  · trivial
  · trivial
  · trivial
  · exact areRead

/-- The names that a pattern looks for were read with it. -/
theorem isLegible_of_mem {pattern : String} {read : Pattern}
    (parsed : Pattern.ofString pattern = .ok read) : ∀ s ∈ read.segments, s.IsLegible := by
  intro segment listed
  obtain ⟨s, known, made⟩ := exists_of_mem_segments parsed listed
  refine isLegible_of_ofString (fun name only => ?_) made
  rw [List.mem_singleton.mp only]
  exact Path.areRead_ofString pattern s known

/-- Does the second path go on from the first one under legible names? -/
def LeadsOn (p q : Path) : Prop := ∃ names, q = below p names ∧ Path.AreRead names

theorem LeadsOn.refl (p : Path) : LeadsOn p p := ⟨[], (FileTree.below_nil p).symm, nofun⟩

theorem LeadsOn.trans {r : Path} (first : LeadsOn p q) (second : LeadsOn q r) : LeadsOn p r := by
  obtain ⟨names, rfl, one⟩ := first
  obtain ⟨more, rfl, two⟩ := second
  exact ⟨names ++ more, FileTree.below_below p names more, one.append two⟩

theorem leadsOn_child {name : String} (legible : Path.AreRead [name]) :
    LeadsOn p (child p name) := ⟨[name], rfl, legible⟩

/-- A path goes on from its directory under one first name. -/
theorem eq_of_leadsOn_child {name other : String} (first : LeadsOn (child p name) q)
    (second : LeadsOn (child p other) q) : name = other := by
  obtain ⟨names, rfl, -⟩ := first
  obtain ⟨more, same, -⟩ := second
  have segments : below p (name :: names) = below p (other :: more) :=
    (FileTree.below_below p [name] names).symm.trans
      (same.trans (FileTree.below_below p [other] more))
  exact (List.cons.inj (FileTree.below_injective segments)).1

theorem leadsOn_of_mem_namesIn (legible : t.IsLegible) {name : String}
    (listed : name ∈ t.namesIn place) : LeadsOn p (child p name) := by
  have known := (FileTree.isSome_at?_iff (by simp)).mp (mem_namesIn_iff.mp listed)
  refine leadsOn_child fun other only => legible.read _ known other ?_
  exact List.mem_append_right place only

theorem leadsOn_of_mem_directoriesFrom (legible : t.IsLegible)
    (listed : q ∈ directoriesFrom t p place) : LeadsOn p q := by
  rw [directoriesFrom, List.mem_cons, List.mem_filterMap] at listed
  rcases listed with rfl | ⟨⟨other, stored⟩, known, led⟩
  · exact .refl q
  · cases stored with
    | file content => cases led
    | directory =>
        dsimp only at led
        split at led
        · cases led
          refine ⟨other.drop place.length, rfl, fun name deep => ?_⟩
          exact legible.read other (List.mem_map_of_mem known) name (List.mem_of_mem_drop deep)
        · cases led

/-- Does the search from the first path end well and list the second one? -/
def Finds (t : FileTree) (inside : Bool) (segments : List Segment) (p q : Path) : Prop :=
  ∃ list, select t inside segments p = .ok list ∧ q ∈ list

theorem mem_iff_finds (searched : select t inside segments p = .ok found) :
    q ∈ found ↔ Finds t inside segments p q := by
  constructor
  · exact fun listed => ⟨found, searched, listed⟩
  · rintro ⟨list, again, listed⟩
    cases searched.symm.trans again
    exact listed

theorem select_exact_eq_ok {name : String}
    (searched : select t inside (.exact name :: segments) p = .ok found) :
    found = [] ∨ select t inside segments (child p name) = .ok found := by
  rw [select_exact] at searched
  obtain ⟨there, -, goesOn⟩ := Fault.bind_eq_ok_iff.mp searched
  cases there with
  | true => exact .inr goesOn
  | false => exact .inl (Except.ok.inj goesOn).symm

theorem select_wild_eq_ok {pieces : List Piece}
    (searched : select t inside (.wild pieces :: segments) p = .ok found) :
    ∃ place names lists, names.Sublist (t.namesIn place) ∧ found = lists.flatten ∧
      List.Forall₂ (fun name list => select t inside segments (child p name) = .ok list)
        names lists := by
  rw [select] at searched
  obtain ⟨place, -, goesOn⟩ := Fault.bind_eq_ok_iff.mp searched
  obtain ⟨lists, gathered, given⟩ := Fault.bind_eq_ok_iff.mp goesOn
  exact ⟨place, _, lists, List.filter_sublist, (Except.ok.inj given).symm,
    mapM_eq_ok_iff.mp gathered⟩

theorem select_deep_eq_ok (searched : select t inside (.deep :: segments) p = .ok found) :
    ∃ place lists, found = distinct lists.flatten ∧
      List.Forall₂ (fun q list => select t inside segments q = .ok list)
        (directoriesFrom t p place) lists := by
  rw [select] at searched
  obtain ⟨place, -, goesOn⟩ := Fault.bind_eq_ok_iff.mp searched
  obtain ⟨lists, gathered, given⟩ := Fault.bind_eq_ok_iff.mp goesOn
  exact ⟨place, lists, (Except.ok.inj given).symm, mapM_eq_ok_iff.mp gathered⟩

/-- A search lists each path once, and none but those that lead on. -/
theorem nodup_select (legible : t.IsLegible) (named : ∀ s ∈ segments, s.IsLegible)
    (searched : select t inside segments p = .ok found) :
    found.Nodup ∧ ∀ q ∈ found, LeadsOn p q := by
  induction segments generalizing p found with
  | nil =>
      cases searched
      refine ⟨List.nodup_singleton p, fun q listed => ?_⟩
      rw [List.mem_singleton.mp listed]
      exact .refl p
  | cons segment rest ih =>
      have others : ∀ s ∈ rest, s.IsLegible := fun s listed =>
        named s (List.mem_cons_of_mem _ listed)
      cases segment with
      | above =>
          obtain ⟨once, leads⟩ := ih others searched
          exact ⟨once, fun q listed => (leadsOn_child (by decide)).trans (leads q listed)⟩
      | exact name =>
          have first : Path.AreRead [name] := named (.exact name) List.mem_cons_self
          rcases select_exact_eq_ok searched with rfl | goesOn
          · exact ⟨List.nodup_nil, nofun⟩
          · obtain ⟨once, leads⟩ := ih others goesOn
            exact ⟨once, fun q listed => (leadsOn_child first).trans (leads q listed)⟩
      | wild pieces =>
          obtain ⟨place, names, lists, known, rfl, gathered⟩ := select_wild_eq_ok searched
          have each : List.Forall₂ (fun name list => list.Nodup ∧
              ∀ q, q ∈ list ↔ Finds t inside rest (child p name) q) names lists :=
            gathered.imp fun name list done => ⟨(ih others done).1, fun q => mem_iff_finds done⟩
          refine ⟨nodup_flatten_of_forall₂ each ((nodup_namesIn legible.nodup place).sublist known)
            ?_, fun q listed => ?_⟩
          · rintro name other q ⟨list, done, listed⟩ ⟨more, again, relisted⟩
            exact eq_of_leadsOn_child ((ih others done).2 q listed) ((ih others again).2 q relisted)
          · obtain ⟨name, inside, list, done, inList⟩ :=
              (mem_flatten_of_forall₂ (each.imp fun _ _ spec => spec.2)).mp listed
            have first := leadsOn_of_mem_namesIn (p := p) legible (known.subset inside)
            exact first.trans ((ih others done).2 q inList)
      | deep =>
          obtain ⟨place, lists, rfl, gathered⟩ := select_deep_eq_ok searched
          have each : List.Forall₂ (fun start list =>
              ∀ q, q ∈ list ↔ Finds t inside rest start q) _ lists :=
            gathered.imp fun start list done q => mem_iff_finds done
          refine ⟨nodup_distinct _, fun q listed => ?_⟩
          obtain ⟨start, known, list, done, inList⟩ :=
            (mem_flatten_of_forall₂ each).mp (mem_distinct.mp listed)
          exact (leadsOn_of_mem_directoriesFrom legible known).trans ((ih others done).2 q inList)

theorem eq_of_segments_eq {first second : Path} (leads : LeadsOn p first)
    (alsoLeads : LeadsOn p second) (same : first.segments = second.segments) : first = second := by
  obtain ⟨names, rfl, -⟩ := leads
  obtain ⟨more, rfl, -⟩ := alsoLeads
  exact congrArg (below p) (List.append_cancel_left same)

/-- What a pattern matches is listed once, in strict order, and leads on from the directory. -/
theorem strict_paths (legible : t.IsLegible) {directory : Path} {pattern : String}
    (searched : paths t directory pattern = .ok found) :
    (found.Pairwise fun p q => p.segments < q.segments) ∧ found.Nodup ∧
      ∀ q ∈ found, LeadsOn directory q := by
  obtain ⟨read, parsed, asked⟩ := Fault.bind_eq_ok_iff.mp searched
  obtain ⟨there, -, goesOn⟩ := Fault.bind_eq_ok_iff.mp asked
  cases there with
  | false =>
      cases goesOn
      exact ⟨.nil, List.nodup_nil, nofun⟩
  | true =>
      obtain ⟨selected, listed, given⟩ := Fault.bind_eq_ok_iff.mp goesOn
      cases given
      obtain ⟨once, leads⟩ := nodup_select legible (isLegible_of_mem parsed) listed
      have sorted := inOrder_mergeSort selected
      have perm := List.mergeSort_perm selected fun p q => !(q.segments < p.segments)
      have distinct := perm.nodup_iff.mpr once
      have leadsOn := fun q inOrder => leads q (perm.mem_iff.mp inOrder)
      refine ⟨?_, distinct, leadsOn⟩
      refine (sorted.and distinct).imp_of_mem fun {p q} first second apart => ?_
      by_contra behind
      have same := List.le_antisymm (List.not_lt.mp apart.1) (List.not_lt.mp behind)
      exact apart.2 (eq_of_segments_eq (leadsOn p first) (leadsOn q second) same)

end Glob

end Bindery
