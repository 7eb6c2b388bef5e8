import Bindery.Proofs.SoundTrees
import Bindery.Proofs.Spelling

/-!
# Writing the same files again

Two trees have one shape if directories and files stand at the same places. What can be made and
written depends on the shape alone. Once files were written, their directories stand and their
places are files, so that writing them again makes nothing new: it stores the texts that are there
and stops where it stopped before.
-/

namespace Bindery

/-- A path gets no longer on the way up. -/
theorem Path.utf8ByteSize_text_le {anchor : Anchor} {names : List String} {last : String}
    (absolute : (Path.mk anchor (names ++ [last])).isAbsolute) :
    (Path.mk anchor names).text.utf8ByteSize ≤
      (Path.mk anchor (names ++ [last])).text.utf8ByteSize := by
  have above : (Path.mk anchor names).isAbsolute := absolute
  rw [text_of_absolute above, text_of_absolute absolute, String.utf8ByteSize_append,
    String.utf8ByteSize_append]
  refine Nat.add_le_add_left ?_ _
  induction names using List.reverseRecOn with
  | nil => exact Nat.zero_le _
  | append_singleton front name _ =>
      have whole : Text.joinWith '/' (front ++ (name ++ "") :: [last]) =
          Text.joinWith '/' (front ++ [name]) ++ Text.joinWith '/' ["", last] :=
        Text.joinWith_append_cons front [last] name ""
      rw [String.append_empty] at whole
      rw [List.append_assoc, List.singleton_append, whole, String.utf8ByteSize_append]
      exact Nat.le_add_right _ _

namespace FileTree

theorem at?_store (t : FileTree) (place other : Place) (stored : Stored) :
    (t.store place stored).at? other =
      if other ≠ [] ∧ other = place then some stored else t.at? other := by
  split
  · next there =>
      obtain ⟨filled, rfl⟩ := there
      exact at?_store_self t filled stored
  · next elsewhere =>
      by_cases root : other = []
      · rw [root]
        rfl
      · exact at?_store_of_ne t (fun same => elsewhere ⟨root, same⟩) stored

/-! ## Shapes -/

/-- Do directories and files stand at the same places? -/
structure SameShape (t u : FileTree) : Prop where
  directory_iff : ∀ place, t.at? place = some .directory ↔ u.at? place = some .directory
  isSome_iff : ∀ place, (t.at? place).isSome ↔ (u.at? place).isSome

/-- Do both outcomes have one shape, or one fault? -/
inductive Alike : Except Fault FileTree → Except Fault FileTree → Prop
  | ok {t u : FileTree} (shape : t.SameShape u) : Alike (.ok t) (.ok u)
  | error (fault : Fault) : Alike (.error fault) (.error fault)

namespace SameShape

variable {t u : FileTree}

theorem refl (t : FileTree) : t.SameShape t := ⟨fun _ => .rfl, fun _ => .rfl⟩

theorem symm (shape : t.SameShape u) : u.SameShape t :=
  ⟨fun place => (shape.directory_iff place).symm, fun place => (shape.isSome_iff place).symm⟩

theorem trans {v : FileTree} (first : t.SameShape u) (second : u.SameShape v) : t.SameShape v :=
  ⟨fun place => (first.directory_iff place).trans (second.directory_iff place),
    fun place => (first.isSome_iff place).trans (second.isSome_iff place)⟩

variable (shape : t.SameShape u)

include shape

theorem at? (place : Place) :
    t.at? place = none ∧ u.at? place = none ∨
      t.at? place = some .directory ∧ u.at? place = some .directory ∨
      ∃ old new, t.at? place = some (.file old) ∧ u.at? place = some (.file new) := by
  have directories := shape.directory_iff place
  have stored := shape.isSome_iff place
  cases here : t.at? place with
  | none =>
      rw [here] at stored
      exact .inl ⟨rfl, by simpa using stored⟩
  | some one =>
      cases there : u.at? place with
      | none => simp [here, there] at stored
      | some other =>
          rw [here, there] at directories
          cases one <;> cases other <;> simp_all

theorem keepsDirectories : t.KeepsDirectories u := fun place => (shape.directory_iff place).mp

omit shape in
/-- A file that takes the place of another one leaves the shape as it is. -/
theorem store_file {place : Place} (stored : (t.at? place).isSome)
    (free : t.at? place ≠ some .directory) (content : ByteArray) :
    (t.store place (.file content)).SameShape t := by
  constructor
  · intro other
    rw [at?_store]
    split
    · next there =>
        rw [there.2]
        exact iff_of_false (by simp) free
    · rfl
  · intro other
    rw [at?_store]
    split
    · next there =>
        rw [there.2]
        exact iff_of_true rfl stored
    · rfl

theorem store (place : Place) (stored : Stored) :
    (t.store place stored).SameShape (u.store place stored) := by
  constructor
  · intro other
    rw [at?_store, at?_store]
    split
    · rfl
    · exact shape.directory_iff other
  · intro other
    rw [at?_store, at?_store]
    split
    · rfl
    · exact shape.isSome_iff other

theorem follow (whole : Path) (place : Place) (names : List String) :
    t.follow whole place names = u.follow whole place names := by
  induction names generalizing place with
  | nil => rfl
  | cons name rest ih =>
      rw [FileTree.follow, FileTree.follow]
      rcases shape.at? place with ⟨here, there⟩ | ⟨here, there⟩ | ⟨old, new, here, there⟩
      · rw [here, there]
      · rw [here, there]
        dsimp only
        rw [ih, ih]
      · rw [here, there]

theorem find {p : Path} (absolute : p.isAbsolute) : t.find p = u.find p := by
  rw [FileTree.find, FileTree.find, absolute, if_pos rfl, if_pos rfl, shape.follow]

theorem isDirectory {p : Path} (absolute : p.isAbsolute) : t.isDirectory p = u.isDirectory p := by
  have found := shape.find absolute
  cases led : t.find p with
  | error fault =>
      have stopped : u.find p = .error fault := found ▸ led
      simp only [FileTree.isDirectory, storedIfAny, stored, led, stopped]
      rfl
  | ok place =>
      rw [FileTree.isDirectory, FileTree.isDirectory, storedIfAny_of_find led,
        storedIfAny_of_find (found ▸ led)]
      rcases shape.at? place with ⟨here, there⟩ | ⟨here, there⟩ | ⟨old, new, here, there⟩
      · rw [here, there]
      · rw [here, there]
      · rw [here, there]
        rfl

theorem makeOne {p : Path} (absolute : p.isAbsolute) : Alike (t.makeOne p) (u.makeOne p) := by
  have same := shape.find absolute
  cases led : t.find p with
  | error fault =>
      rw [FileTree.makeOne, FileTree.makeOne, ← same, led]
      exact .error fault
  | ok place =>
      rw [makeOne_of_find led, makeOne_of_find (same ▸ led)]
      rcases shape.at? place with ⟨here, there⟩ | ⟨here, there⟩ | ⟨old, new, here, there⟩
      · rw [here, there]
        exact .ok (shape.store place _)
      · rw [here, there]
        exact .error _
      · rw [here, there]
        exact .error _

theorem makeOneOrKeep {p : Path} (absolute : p.isAbsolute) :
    Alike (t.makeOneOrKeep p) (u.makeOneOrKeep p) := by
  have made := shape.makeOne absolute
  unfold FileTree.makeOneOrKeep
  rw [shape.isDirectory absolute]
  generalize t.makeOne p = one at made
  generalize u.makeOne p = other at made
  cases made with
  | ok alike => exact .ok alike
  | error fault =>
      have kept (cause : FileFault) : Alike
          (u.isDirectory p >>= fun found => if found then .ok t else .error (.file cause))
          (u.isDirectory p >>= fun found => if found then .ok u else .error (.file cause)) := by
        cases u.isDirectory p with
        | error fault => exact .error fault
        | ok found =>
            cases found with
            | true => exact .ok shape
            | false => exact .error _
      cases fault with
      | file cause =>
          cases cause with
          | missing path => exact .error _
          | _ => exact kept _
      | _ => exact .error _

theorem write {p : Path} (absolute : p.isAbsolute) (content : ByteArray) :
    Alike (t.write p content) (u.write p content) := by
  have same := shape.find absolute
  cases led : t.find p with
  | error fault =>
      rw [FileTree.write, FileTree.write, writable, writable, ← same, led]
      exact .error fault
  | ok place =>
      have stored := shape.store place (.file content)
      rw [FileTree.write, FileTree.write, writable_of_find led, writable_of_find (same ▸ led)]
      rcases shape.at? place with ⟨here, there⟩ | ⟨here, there⟩ | ⟨old, new, here, there⟩
      · rw [here, there]
        exact .ok stored
      · rw [here, there]
        exact .error _
      · rw [here, there]
        exact .ok stored

/-- A file stays one while others are written, and is one in every tree of the shape that is left. -/
theorem holds_file_of_grows {files : Table Path String} {before : FileTree}
    (grows : Grows files before u) {place : Place} {content : ByteArray}
    (there : before.at? place = some (.file content)) :
    (t.at? place).isSome ∧ t.at? place ≠ some .directory := by
  have stood : (before.at? place).isSome := by rw [there]; rfl
  refine ⟨(shape.isSome_iff place).mpr (grows.isSome stood), ?_⟩
  rw [Ne, shape.directory_iff, grows.directory_iff stood, there]
  simp

end SameShape

/-! ## Directories that stand -/

variable {t u : FileTree}

/-- Does the path lead to a directory? -/
def Holds (t : FileTree) (p : Path) : Prop :=
  ∃ place, t.find p = .ok place ∧ t.at? place = some .directory

theorem Holds.mono {p : Path} (holds : t.Holds p) (kept : t.KeepsDirectories u)
    (absolute : p.isAbsolute) : u.Holds p := by
  obtain ⟨place, led, stands⟩ := holds
  exact ⟨place, kept.find absolute led, kept place stands⟩

theorem Holds.makeOneOrKeep {p : Path} (holds : t.Holds p) : t.makeOneOrKeep p = .ok t := by
  obtain ⟨place, led, stands⟩ := holds
  have present : t.makeOne p = .error (.file .present) := by
    rw [makeOne_of_find led, stands]
  have directory : t.isDirectory p = .ok true := by
    rw [isDirectory, storedIfAny_of_find led, stands]
    rfl
  rw [FileTree.makeOneOrKeep, present]
  show (t.isDirectory p >>= fun found => if found then .ok t else _) = _
  rw [directory]
  rfl

theorem holds_of_makeOneOrKeep {p : Path} (absolute : p.isAbsolute)
    (made : t.makeOneOrKeep p = .ok u) : u.Holds p := by
  rcases makeOneOrKeep_eq_ok made with ⟨stands, rfl⟩ | made
  · exact (stands ▸ isDirectory_spec u p).of_eq_ok.mp rfl
  · have grows : Grows [] t u := .directory .refl absolute made
    obtain ⟨place, led, free, rfl⟩ := makeOne_eq_ok made
    have below : place ≠ [] := by
      rintro rfl
      cases free
    exact ⟨place, grows.wrote.directories.find absolute led, at?_store_self t below _⟩

theorem find_of_makeOneOrKeep {p : Path} (made : t.makeOneOrKeep p = .ok u) :
    ∃ place, t.find p = .ok place := by
  rcases makeOneOrKeep_eq_ok made with ⟨stands, rfl⟩ | made
  · obtain ⟨place, led, -⟩ := (stands ▸ isDirectory_spec u p).of_eq_ok.mp rfl
    exact ⟨place, led⟩
  · obtain ⟨place, led, -⟩ := makeOne_eq_ok made
    exact ⟨place, led⟩

theorem follow_append_eq_ok {whole : Path} {place target : Place} {names more : List String}
    (found : t.follow whole place (names ++ more) = .ok target) :
    ∃ middle, t.Walks place names middle ∧ t.follow whole middle more = .ok target := by
  induction names generalizing place with
  | nil => exact ⟨place, walks_nil place, found⟩
  | cons name rest ih =>
      obtain ⟨directory, step⟩ := follow_cons_eq_ok_iff.mp found
      rcases step with ⟨dots, above⟩ | ⟨named, short, below⟩
      · obtain ⟨middle, walks, others⟩ := ih above
        exact ⟨middle,
          fun other => follow_cons_eq_ok_iff.mpr ⟨directory, .inl ⟨dots, walks other⟩⟩, others⟩
      · obtain ⟨middle, walks, others⟩ := ih below
        exact ⟨middle, fun other => follow_cons_eq_ok_iff.mpr
          ⟨directory, .inr ⟨named, short, walks other⟩⟩, others⟩

/-- Above a path that leads somewhere stands a directory. -/
theorem holds_parent {p : Path} (absolute : p.isAbsolute) {place : Place}
    (led : t.find p = .ok place) : t.Holds p.parent := by
  obtain ⟨anchor, segments⟩ := p
  obtain ⟨valid, short, followed⟩ := find_eq_ok_iff.mp led
  induction segments using List.reverseRecOn with
  | nil =>
      rw [origin_of_absolute absolute] at followed
      refine ⟨place, led, ?_⟩
      cases followed
      rfl
  | append_singleton names last _ =>
      have parent : Path.parent ⟨anchor, names ++ [last]⟩ = ⟨anchor, names⟩ := by
        rw [Path.parent, List.dropLast_concat]
      obtain ⟨middle, walks, step⟩ := follow_append_eq_ok followed
      rw [parent]
      refine ⟨middle, find_eq_ok_iff.mpr ⟨?_, ?_, walks _⟩,
        (follow_cons_eq_ok_iff.mp step).1⟩
      · intro nul
        refine valid ?_
        rw [Path.holdsNul] at nul ⊢
        rw [List.any_append, nul, Bool.true_or]
      · exact Nat.le_trans (Path.utf8ByteSize_text_le absolute) short

end FileTree

namespace Run

open FileTree (Grows Holds SameShape Alike)

variable {p : Path} {s v : Session} {above : Nat}

theorem makeUpTo_of_holds (holds : s.files.Holds p) (above : Nat) :
    (makeUpTo p above).on s = (s, .ok ()) := by
  have kept := holds.makeOneOrKeep
  cases above with
  | zero => rw [makeUpTo, on_change, kept]
  | succ above =>
      rw [makeUpTo, on_bind, on_files]
      dsimp only
      rw [kept]
      dsimp only
      rw [on_change]

/-- A directory that was made stands. -/
theorem holds_of_makeUpTo (absolute : p.isAbsolute)
    (made : ((makeUpTo p above).on s).2 = .ok ()) :
    ((makeUpTo p above).on s).1.files.Holds p := by
  have last {s : Session} (made : ((change fun t => t.makeOneOrKeep p).on s).2 = .ok ()) :
      ((change fun t => t.makeOneOrKeep p).on s).1.files.Holds p := by
    obtain ⟨t, kept, left⟩ := change_eq_ok made
    rw [left]
    exact FileTree.holds_of_makeOneOrKeep absolute kept
  rcases makeUpTo_cases p above s with ⟨-, once⟩ | ⟨further, path, -, -, upwards⟩
  · rw [once] at made ⊢
    exact last made
  · rw [upwards] at made ⊢
    obtain ⟨-, -, rest⟩ := bind_eq_ok made
    rw [rest] at made ⊢
    exact last made

/-- A step that fails leaves the files alone, and fails alike in trees of one shape. -/
theorem makeOneOrKeep_again {fault : Fault} (absolute : p.isAbsolute)
    (stopped : ((change fun t => t.makeOneOrKeep p).on s).2 = .error fault)
    (shape : v.files.SameShape ((change fun t => t.makeOneOrKeep p).on s).1.files) :
    s.files.makeOneOrKeep p = .error fault ∧ v.files.makeOneOrKeep p = .error fault := by
  rw [on_change] at stopped shape
  cases kept : s.files.makeOneOrKeep p with
  | ok t =>
      rw [kept] at stopped
      cases stopped
  | error cause =>
      rw [kept] at stopped shape
      cases stopped
      have alike := shape.makeOneOrKeep absolute
      rw [kept] at alike
      generalize v.files.makeOneOrKeep p = outcome at alike
      cases alike
      exact ⟨rfl, rfl⟩

/-- A directory that cannot be made is not made, and neither is anything above it, if those above it
are as they stay. -/
theorem makeUpTo_of_fails {fault : Fault} (fails : v.files.makeOneOrKeep p = .error fault)
    (parents : ∀ further path, above = further + 1 → fault = .file (.missing path) →
      ∃ outcome, (makeUpTo p.parent further).on v = (v, outcome)) :
    ∃ other, (makeUpTo p above).on v = (v, .error other) := by
  have last : (change fun t => t.makeOneOrKeep p).on v = (v, .error fault) := by
    rw [on_change, fails]
  rcases makeUpTo_cases p above v with ⟨-, once⟩ | ⟨further, path, counted, missing, upwards⟩
  · exact ⟨fault, once.trans last⟩
  · rw [fails] at missing
    obtain ⟨outcome, left⟩ := parents further path counted (Except.error.inj missing)
    rw [upwards, on_bind, left]
    cases outcome with
    | error other => exact ⟨other, rfl⟩
    | ok done => exact ⟨fault, last⟩

/-- Where a directory could not be made, another try makes nothing more. -/
theorem makeUpTo_again {fault : Fault} (absolute : p.isAbsolute)
    (stopped : ((makeUpTo p above).on s).2 = .error fault)
    (shape : v.files.SameShape ((makeUpTo p above).on s).1.files) :
    ∃ other, (makeUpTo p above).on v = (v, .error other) := by
  induction above using Nat.strongRecOn generalizing p s fault with
  | ind above ih =>
      rcases makeUpTo_cases p above s with ⟨direct, once⟩ | ⟨further, -, rfl, -, upwards⟩
      · rw [once] at stopped shape
        obtain ⟨kept, fails⟩ := makeOneOrKeep_again absolute stopped shape
        refine makeUpTo_of_fails fails fun further path counted missing => ?_
        exact absurd (missing ▸ kept) (direct path (by omega))
      · have higher : p.parent.isAbsolute := absolute
        rw [upwards, on_bind] at stopped shape
        cases left : (makeUpTo p.parent further).on s with
        | mk after outcome =>
            rw [left] at stopped shape
            cases outcome with
            | error cause =>
                obtain ⟨other, again⟩ := ih further (Nat.lt_succ_self _) (s := s) higher
                  (by rw [left]) (by rwa [left])
                cases kept : v.files.makeOneOrKeep p with
                | error fault =>
                    refine makeUpTo_of_fails kept fun _ _ counted _ => ?_
                    cases counted
                    exact ⟨_, again⟩
                | ok t =>
                    -- The parents would stand, and could have been made.
                    obtain ⟨place, led⟩ := FileTree.find_of_makeOneOrKeep kept
                    rw [makeUpTo_of_holds (FileTree.holds_parent absolute led)] at again
                    cases again
            | ok done =>
                have ended : ((makeUpTo p.parent further).on s).2 = .ok done := by rw [left]
                have stands := holds_of_makeUpTo higher ended
                rw [left] at stands
                obtain ⟨kept, fails⟩ := makeOneOrKeep_again absolute stopped shape
                dsimp only at shape stands
                rw [on_change, kept] at shape
                have holds := stands.mono shape.symm.keepsDirectories higher
                refine makeUpTo_of_fails fails fun _ _ counted _ => ?_
                cases counted
                exact ⟨_, makeUpTo_of_holds holds further⟩

end Run

/-! ## Files that were written -/

namespace Book

open FileTree (Grows SameShape)

variable {p : Path} {text : String} {s v : Session}

theorem write_of_find {t : FileTree} {place : Place} (led : t.find p = .ok place)
    (free : t.at? place ≠ some .directory) (content : ByteArray) :
    t.write p content = .ok (t.store place (.file content)) := by
  have writable : t.writable p = .ok place := by
    rw [FileTree.writable_of_find led]
    split
    · next directory => exact absurd directory free
    · rfl
  rw [FileTree.write, writable]
  rfl

theorem eq_of_writeFile {q : Path} (done : ((writeFile p text).on s).2 = .ok q) : q = p := by
  rw [on_writeFile] at done
  split at done
  · split at done
    · exact (Except.ok.inj done).symm
    · cases done
  · cases done

/-- A file that could be written can be written again, wherever what stood then still stands. -/
theorem writeFile_again (absolute : p.isAbsolute) {q : Path}
    (done : ((writeFile p text).on s).2 = .ok q)
    (kept : ((writeFile p text).on s).1.files.KeepsDirectories v.files)
    (free : v.files.at? (Path.settle p.segments) ≠ some .directory) :
    (writeFile p text).on v =
      ({ v with files := v.files.store (Path.settle p.segments) (.file text.toUTF8) }, .ok q) := by
  have led := kept.find absolute (writeFile_eq_ok absolute done).1
  have parents : (Run.makeDirectory p.parent).on v = (v, .ok ()) :=
    Run.makeUpTo_of_holds (FileTree.holds_parent absolute led) _
  rw [on_writeFile, parents, eq_of_writeFile done]
  dsimp only
  rw [write_of_find led free]

/-- Where a file could not be written, another try changes nothing. -/
theorem writeFile_stops_again (absolute : p.isAbsolute) {fault : Fault}
    (stopped : ((writeFile p text).on s).2 = .error fault)
    (shape : v.files.SameShape ((writeFile p text).on s).1.files) :
    Grows [] s.files ((writeFile p text).on s).1.files ∧
      ∃ other, (writeFile p text).on v = (v, .error other) := by
  have higher : p.parent.isAbsolute := absolute
  obtain ⟨t, grows, left⟩ : ∃ t, Grows [] s.files t ∧
      ((Run.makeDirectory p.parent).on s).1 = { s with files := t } :=
    Run.grows_makeDirectory higher s
  rw [on_writeFile] at stopped shape ⊢
  rw [on_writeFile]
  cases parents : (Run.makeDirectory p.parent).on s with
  | mk after outcome =>
      have ended : ((Run.makeDirectory p.parent).on s).2 = outcome := by rw [parents]
      rw [parents] at stopped shape left
      cases left
      cases outcome with
      | error cause =>
          have again := Run.makeUpTo_again (v := v) higher ended
          rw [← Run.makeDirectory, parents] at again
          obtain ⟨other, stops⟩ := again shape
          rw [stops]
          exact ⟨grows, other, rfl⟩
      | ok done =>
          have stands := Run.holds_of_makeUpTo higher ended
          rw [← Run.makeDirectory, parents] at stands
          dsimp only at stopped shape stands ⊢
          cases written : t.write p text.toUTF8 with
          | ok u =>
              rw [written] at stopped
              cases stopped
          | error cause =>
              rw [written] at shape
              have holds := stands.mono shape.symm.keepsDirectories higher
              have alike := shape.write absolute text.toUTF8
              rw [written] at alike
              rw [Run.makeDirectory, Run.makeUpTo_of_holds holds]
              dsimp only
              generalize v.files.write p text.toUTF8 = outcome at alike ⊢
              cases alike
              exact ⟨grows, cause, rfl⟩

variable {files : Table Path String}

/-- Does a second run, from `v` to `w`, leave each place as the first one left it, from `t` to `u`,
or alone if the first one left it alone? -/
def Repeats (t u v w : FileTree) : Prop :=
  ∀ place, w.at? place = u.at? place ∨ w.at? place = v.at? place ∧ u.at? place = t.at? place

/-- One more file in front of both runs. -/
theorem Repeats.cons {t after u v w : FileTree} (grows : Grows [(p, text)] t after)
    (there : after.at? (Path.settle p.segments) = some (.file text.toUTF8))
    (shape : v.SameShape u)
    (rest : Repeats after u (v.store (Path.settle p.segments) (.file text.toUTF8)) w) :
    Repeats t u v w := by
  intro place
  rcases rest place with equal | ⟨alone, before⟩
  · exact .inl equal
  · rw [FileTree.at?_store] at alone
    split at alone
    · next here =>
        rw [here.2] at alone before ⊢
        exact .inl (alone.trans (there.symm.trans before.symm))
    · next elsewhere =>
        rcases grows.at? place with old | ⟨-, made⟩ | ⟨-, file, listed, leads, -⟩
        · exact .inr ⟨alone, before.trans old⟩
        · have directory := before.trans made
          refine .inl (alone.trans ?_)
          rw [directory, shape.directory_iff, directory]
        · rw [List.mem_singleton.mp listed] at leads
          refine absurd ⟨?_, leads.symm⟩ elsewhere
          rintro rfl
          rw [leads] at there
          cases there

theorem Repeats.of_stopped {t u v : FileTree} (grows : Grows [] t u) (shape : v.SameShape u) :
    Repeats t u v v := by
  intro place
  rcases grows.at? place with same | ⟨-, made⟩ | ⟨-, file, listed, -⟩
  · exact .inr ⟨rfl, same⟩
  · exact .inl (((shape.directory_iff place).mpr made).trans made.symm)
  · cases listed

/-- Writing files again where they were written gives the same result, if there was one, and repeats
the first run. -/
theorem writeFiles_again (absolute : ∀ file ∈ files, file.1.isAbsolute)
    (shape : v.files.SameShape ((writeFiles files).on s).1.files) :
    (∀ paths, ((writeFiles files).on s).2 = .ok paths → ((writeFiles files).on v).2 = .ok paths) ∧
      Repeats s.files ((writeFiles files).on s).1.files v.files
        ((writeFiles files).on v).1.files := by
  induction files generalizing s v with
  | nil => exact ⟨fun _ => id, fun _ => .inr ⟨rfl, rfl⟩⟩
  | cons file rest ih =>
      obtain ⟨p, text⟩ := file
      have first : p.isAbsolute := absolute _ List.mem_cons_self
      have others : ∀ file ∈ rest, file.1.isAbsolute := fun file listed =>
        absolute file (List.mem_cons_of_mem _ listed)
      rw [on_writeFiles_cons] at shape ⊢
      rw [on_writeFiles_cons]
      obtain ⟨t, grows, written⟩ := grows_writeFile first text s
      cases outcome : (writeFile p text).on s with
      | mk after result =>
          have ended : ((writeFile p text).on s).2 = result := by rw [outcome]
          have left : ((writeFile p text).on s).1 = after := by rw [outcome]
          rw [outcome] at shape
          cases result with
          | error fault =>
              obtain ⟨directories, other, stops⟩ :=
                writeFile_stops_again first ended (by rwa [left])
              rw [stops]
              exact ⟨fun paths done => (by cases done), .of_stopped (left ▸ directories) shape⟩
          | ok q =>
              obtain ⟨u, more, final⟩ := grows_writeFiles others after
              have there := (writeFile_eq_ok first ended).2
              rw [left] at written there
              rw [final] at shape
              cases written
              dsimp only at shape there more
              obtain ⟨stands, free⟩ := shape.holds_file_of_grows more there
              have kept : t.KeepsDirectories v.files := fun place directory =>
                shape.symm.keepsDirectories place (more.wrote.directories place directory)
              have same := FileTree.SameShape.store_file stands free text.toUTF8
              have again := writeFile_again first ended (by rwa [left]) free
              have next : (v.files.store (Path.settle p.segments) (.file text.toUTF8)).SameShape
                  ((writeFiles rest).on { s with files := t }).1.files := by
                rw [final]
                exact same.trans shape
              obtain ⟨ends, repeats⟩ := ih others
                (v := { v with files := v.files.store (Path.settle p.segments) (.file text.toUTF8) })
                next
              rw [final] at repeats ⊢
              rw [again]
              refine ⟨fun paths done => ?_, repeats.cons grows there shape⟩
              dsimp only at done ⊢
              cases remaining : ((writeFiles rest).on { s with files := t }).2 with
              | error fault =>
                  rw [remaining] at done
                  cases done
              | ok found =>
                  rw [remaining] at done
                  rw [ends found remaining]
                  exact done

/-- Writing files again right away changes nothing. -/
theorem at?_writeFiles_again (absolute : ∀ file ∈ files, file.1.isAbsolute)
    (files_eq : v.files = ((writeFiles files).on s).1.files) (place : Place) :
    ((writeFiles files).on v).1.files.at? place = v.files.at? place := by
  have shape : v.files.SameShape ((writeFiles files).on s).1.files := by
    rw [files_eq]
    exact .refl _
  obtain ⟨-, repeats⟩ := writeFiles_again absolute shape
  rcases repeats place with same | ⟨alone, -⟩
  · rw [same, files_eq]
  · exact alone

end Book

end Bindery
