import Bindery.Compiler
import Bindery.Proofs.Drafting
import Bindery.Proofs.Grouping

/-!
# What writing a book does to the files

A path leads to the place at which its segments settle, and goes on leading there while directories
stay directories. A tree that is written to grows: step by step a directory is made where nothing
stood, or a file is stored where its path leads. So each file of a book can be read back, unless a
later one leads to its place.
-/

namespace Bindery

namespace FileTree

/-! ## Finding places -/

/-- Do all directories of the first tree stand in the second one? -/
def KeepsDirectories (t u : FileTree) : Prop :=
  ∀ place, t.at? place = some .directory → u.at? place = some .directory

/-- The step of a walk along names. -/
theorem follow_cons_eq_ok_iff {t : FileTree} {whole : Path} {place target : Place} {name : String}
    {rest : List String} :
    t.follow whole place (name :: rest) = .ok target ↔
      t.at? place = some .directory ∧
        ((name = ".." ∧ t.follow whole place.dropLast rest = .ok target) ∨
          (name ≠ ".." ∧ name.utf8ByteSize ≤ longestName ∧
            t.follow whole (place ++ [name]) rest = .ok target)) := by
  rw [follow]
  split
  · next missing => simp [missing]
  · next file => simp [file]
  · next directory =>
      by_cases dots : name = ".."
      · simp [directory, dots]
      · by_cases long : longestName < name.utf8ByteSize
        · simp [directory, dots, long, Nat.not_le_of_lt long]
        · simp [directory, dots, long, Nat.le_of_not_lt long]

theorem follow_eq_ok {t : FileTree} {whole : Path} {place target : Place} {names : List String}
    (found : t.follow whole place names = .ok target) :
    target = Path.settleFrom place.reverse names := by
  induction names generalizing place with
  | nil =>
      cases found
      rw [Path.settleFrom, List.reverse_reverse]
  | cons name rest ih =>
      rw [Path.settleFrom]
      rcases follow_cons_eq_ok_iff.mp found with ⟨-, ⟨dots, above⟩ | ⟨named, -, below⟩⟩
      · rw [if_pos dots, ih above, List.tail_reverse]
      · rw [if_neg named, ih below, List.reverse_append]
        rfl

theorem KeepsDirectories.follow {t u : FileTree} (kept : t.KeepsDirectories u) {whole : Path}
    {place target : Place} {names : List String} (found : t.follow whole place names = .ok target) :
    u.follow whole place names = .ok target := by
  induction names generalizing place with
  | nil => exact found
  | cons name rest ih =>
      obtain ⟨directory, step⟩ := follow_cons_eq_ok_iff.mp found
      refine follow_cons_eq_ok_iff.mpr ⟨kept place directory, ?_⟩
      rcases step with ⟨dots, above⟩ | ⟨named, short, below⟩
      · exact .inl ⟨dots, ih above⟩
      · exact .inr ⟨named, short, ih below⟩

/-- The place from which a path is followed. -/
def origin (t : FileTree) (p : Path) : Place := if p.isAbsolute then [] else t.start

theorem origin_of_absolute {t : FileTree} {p : Path} (absolute : p.isAbsolute) : t.origin p = [] :=
  if_pos absolute

theorem find_eq_ok_iff {t : FileTree} {p : Path} {place : Place} :
    t.find p = .ok place ↔
      ¬ p.holdsNul ∧ p.text.utf8ByteSize ≤ longestPath ∧
        t.follow p (t.origin p) p.segments = .ok place := by
  rw [find, origin]
  by_cases nul : p.holdsNul
  · simp [nul]
  · by_cases long : longestPath < p.text.utf8ByteSize
    · simp [nul, long, Nat.not_le_of_lt long]
    · simp [nul, long, Nat.le_of_not_lt long]

/-- A path from the root leads where its segments settle. -/
theorem find_eq_ok {t : FileTree} {p : Path} (absolute : p.isAbsolute) {place : Place}
    (found : t.find p = .ok place) : place = Path.settle p.segments :=
  follow_eq_ok (origin_of_absolute absolute ▸ (find_eq_ok_iff.mp found).2.2)

theorem KeepsDirectories.find {t u : FileTree} (kept : t.KeepsDirectories u) {p : Path}
    (absolute : p.isAbsolute) {place : Place} (found : t.find p = .ok place) :
    u.find p = .ok place := by
  obtain ⟨valid, short, followed⟩ := find_eq_ok_iff.mp found
  rw [origin_of_absolute absolute] at followed
  refine find_eq_ok_iff.mpr ⟨valid, short, ?_⟩
  rw [origin_of_absolute absolute]
  exact kept.follow followed

/-! ## Operations at a place -/

theorem stored_of_find {t : FileTree} {p : Path} {place : Place} (found : t.find p = .ok place) :
    t.stored p = match t.at? place with
      | some stored => .ok stored
      | none => .error (.file (.missing p.text)) := by
  rw [stored, found]
  rfl

theorem makeOne_of_find {t : FileTree} {p : Path} {place : Place} (found : t.find p = .ok place) :
    t.makeOne p = match t.at? place with
      | some _ => .error (.file .present)
      | none => .ok (t.store place .directory) := by
  rw [makeOne, found]
  rfl

theorem writable_of_find {t : FileTree} {p : Path} {place : Place} (found : t.find p = .ok place) :
    t.writable p = match t.at? place with
      | some .directory => .error (.file .isDirectory)
      | _ => .ok place := by
  rw [writable, found]
  rfl

/-! ## Making one directory, writing one file -/

theorem makeOne_eq_ok {t u : FileTree} {p : Path} (made : t.makeOne p = .ok u) :
    ∃ place, t.find p = .ok place ∧ t.at? place = none ∧ u = t.store place .directory := by
  obtain ⟨place, found, result⟩ := Fault.bind_eq_ok_iff.mp made
  split at result
  · cases result
  · next free =>
      cases result
      exact ⟨place, found, free, rfl⟩

theorem makeOneOrKeep_eq_ok {t u : FileTree} {p : Path} (made : t.makeOneOrKeep p = .ok u) :
    (t.isDirectory p = .ok true ∧ u = t) ∨ t.makeOne p = .ok u := by
  unfold makeOneOrKeep at made
  split at made
  · split at made
    · cases made
    · obtain ⟨present, asked, result⟩ := Fault.bind_eq_ok_iff.mp made
      split at result
      · next stands => exact .inl ⟨by rw [asked, stands], (Except.ok.inj result).symm⟩
      · cases result
  · exact .inr made

theorem write_eq_ok {t u : FileTree} {p : Path} {content : ByteArray}
    (written : t.write p content = .ok u) :
    ∃ place, t.find p = .ok place ∧ t.at? place ≠ some .directory ∧
      u = t.store place (.file content) := by
  obtain ⟨place, writable, result⟩ := Fault.bind_eq_ok_iff.mp written
  obtain ⟨target, found, free⟩ := Fault.bind_eq_ok_iff.mp writable
  cases result
  split at free
  · cases free
  · next free_or_file =>
      cases free
      exact ⟨place, found, free_or_file, rfl⟩

theorem readBytes_eq_ok_iff {t : FileTree} {p : Path} {place : Place} (found : t.find p = .ok place)
    {content : ByteArray} :
    t.readBytes p = .ok content ↔ t.at? place = some (.file content) := by
  rw [readBytes, stored_of_find found]
  cases t.at? place with
  | none => simp [bind, Except.bind]
  | some stored => cases stored <;> simp [bind, Except.bind]

/-! ## Growth -/

/-- What writing files does to a tree, step by step. -/
inductive Grows (files : Table Path String) (t : FileTree) : FileTree → Prop
  | refl : Grows files t t
  | directory {u v : FileTree} {p : Path} (before : Grows files t u) (absolute : p.isAbsolute)
      (made : u.makeOne p = .ok v) : Grows files t v
  | file {u v : FileTree} {p : Path} {text : String} (before : Grows files t u)
      (absolute : p.isAbsolute) (listed : (p, text) ∈ files)
      (written : u.write p text.toUTF8 = .ok v) : Grows files t v

/-- What writing files may have done to a tree: directories stay, files stay where no path leads,
and nothing is stored but the files, where their paths lead. -/
structure Wrote (files : Table Path String) (t u : FileTree) : Prop where
  directories : t.KeepsDirectories u
  kept : ∀ place content, (∀ file ∈ files, Path.settle file.1.segments ≠ place) →
    t.at? place = some (.file content) → u.at? place = some (.file content)
  stored : ∀ place content, u.at? place = some (.file content) →
    t.at? place = some (.file content) ∨
      ∃ file ∈ files, Path.settle file.1.segments = place ∧ file.2.toUTF8 = content

namespace Grows

variable {files more : Table Path String} {t u v : FileTree}

theorem trans (first : Grows files t u) (second : Grows files u v) : Grows files t v := by
  induction second with
  | refl => exact first
  | directory _ absolute made ih => exact .directory ih absolute made
  | file _ absolute listed written ih => exact .file ih absolute listed written

theorem mono (grows : Grows files t u) (subset : files ⊆ more) : Grows more t u := by
  induction grows with
  | refl => exact .refl
  | directory _ absolute made ih => exact .directory ih absolute made
  | file _ absolute listed written ih => exact .file ih absolute (subset listed) written

theorem makeOneOrKeep {p : Path} (absolute : p.isAbsolute) (made : t.makeOneOrKeep p = .ok u) :
    Grows files t u := by
  rcases makeOneOrKeep_eq_ok made with ⟨-, rfl⟩ | made
  · exact .refl
  · exact .directory .refl absolute made

/-- A place becomes a new directory, or one of the files, or stays as it was. -/
theorem at? (grows : Grows files t u) (place : Place) :
    u.at? place = t.at? place ∨
      (t.at? place = none ∧ u.at? place = some .directory) ∨
      (t.at? place ≠ some .directory ∧ ∃ file ∈ files, Path.settle file.1.segments = place ∧
        u.at? place = some (.file file.2.toUTF8)) := by
  induction grows with
  | refl => exact .inl rfl
  | @directory u v p _ absolute made ih =>
      obtain ⟨target, -, free, rfl⟩ := makeOne_eq_ok made
      by_cases same : place = target
      · subst same
        have below : place ≠ [] := by
          rintro rfl
          cases free
        refine .inr (.inl ⟨?_, at?_store_self u below _⟩)
        rw [free] at ih
        rcases ih with kept | ⟨-, made⟩ | ⟨-, _, _, _, stored⟩
        · exact kept.symm
        · cases made
        · cases stored
      · rwa [at?_store_of_ne u same]
  | @file u v p text _ absolute listed written ih =>
      obtain ⟨target, found, free, rfl⟩ := write_eq_ok written
      obtain rfl := find_eq_ok absolute found
      by_cases same : place = Path.settle p.segments
      · subst same
        have below : Path.settle p.segments ≠ [] := by
          intro root
          exact free (by rw [root]; rfl)
        refine .inr (.inr ⟨?_, (p, text), listed, rfl, at?_store_self u below _⟩)
        intro directory
        rcases ih with kept | ⟨missing, -⟩ | ⟨differs, -⟩
        · exact free (kept.trans directory)
        · rw [directory] at missing
          cases missing
        · exact differs directory
      · rwa [at?_store_of_ne u same]

theorem wrote (grows : Grows files t u) : Wrote files t u where
  directories place directory := by
    rcases grows.at? place with same | ⟨free, -⟩ | ⟨differs, -⟩
    · rw [same, directory]
    · rw [directory] at free
      cases free
    · exact absurd directory differs
  kept place content elsewhere there := by
    rcases grows.at? place with same | ⟨free, -⟩ | ⟨-, file, listed, leads, -⟩
    · rw [same, there]
    · rw [there] at free
      cases free
    · exact absurd leads (elsewhere file listed)
  stored place content there := by
    rcases grows.at? place with same | ⟨-, made⟩ | ⟨-, file, listed, leads, written⟩
    · exact .inl (same ▸ there)
    · rw [made] at there
      cases there
    · rw [written] at there
      exact .inr ⟨file, listed, leads, by simpa using there⟩

end Grows

end FileTree

/-! ## Runs that write -/

namespace Run

open FileTree (Grows)

/-- The two ways in which a directory is made: at once, or after those above it. -/
theorem makeUpTo_cases (p : Path) (above : Nat) (s : Session) :
    ((∀ path, above ≠ 0 → s.files.makeOneOrKeep p ≠ .error (.file (.missing path))) ∧
        (makeUpTo p above).on s = (change fun t => t.makeOneOrKeep p).on s) ∨
      ∃ further path, above = further + 1 ∧
        s.files.makeOneOrKeep p = .error (.file (.missing path)) ∧ (makeUpTo p above).on s =
          (makeUpTo p.parent further >>= fun _ => change fun t => t.makeOneOrKeep p).on s := by
  cases above with
  | zero => exact .inl ⟨fun _ more => absurd rfl more, rfl⟩
  | succ further =>
      rw [makeUpTo, on_bind, on_files]
      dsimp only
      split
      · next path missing => exact .inr ⟨further, path, rfl, missing, rfl⟩
      · next direct => exact .inl ⟨fun path _ missing => direct path missing, rfl⟩

/-- Making directories changes the files of a session alone, however it ends. -/
theorem grows_makeUpTo {files : Table Path String} {p : Path} (absolute : p.isAbsolute)
    (above : Nat) (s : Session) :
    ∃ t, Grows files s.files t ∧ ((makeUpTo p above).on s).1 = { s with files := t } := by
  have makeOneOrKeep {p : Path} (absolute : p.isAbsolute) (s : Session) :
      ∃ t, Grows files s.files t ∧
        ((change fun t => t.makeOneOrKeep p).on s).1 = { s with files := t } := by
    rw [on_change]
    cases made : s.files.makeOneOrKeep p with
    | error fault => exact ⟨s.files, .refl, rfl⟩
    | ok t => exact ⟨t, .makeOneOrKeep absolute made, rfl⟩
  induction above generalizing p s with
  | zero => exact makeOneOrKeep absolute s
  | succ above ih =>
      rcases makeUpTo_cases p (above + 1) s with ⟨-, direct⟩ | ⟨_, _, ⟨⟩, -, stepwise⟩
      · rw [direct]
        exact makeOneOrKeep absolute s
      · rw [stepwise, on_bind]
        obtain ⟨t, parents, left⟩ := ih (p := p.parent) absolute s
        cases outcome : (makeUpTo p.parent above).on s with
        | mk after result =>
            rw [outcome] at left
            cases left
            cases result with
            | error fault => exact ⟨t, parents, rfl⟩
            | ok done =>
                obtain ⟨u, made, left⟩ := makeOneOrKeep absolute { s with files := t }
                exact ⟨u, parents.trans made, left⟩

theorem grows_makeDirectory {files : Table Path String} {p : Path} (absolute : p.isAbsolute)
    (s : Session) :
    ∃ t, Grows files s.files t ∧ ((makeDirectory p).on s).1 = { s with files := t } :=
  grows_makeUpTo absolute p.segments.length s

end Run

namespace Book

open FileTree (Grows Wrote)

/-- The two steps of writing a file. -/
theorem on_writeFile (p : Path) (text : String) (s : Session) :
    (writeFile p text).on s = match (Run.makeDirectory p.parent).on s with
      | (after, .ok _) =>
          match after.files.write p text.toUTF8 with
          | .ok t => ({ after with files := t }, .ok p)
          | .error fault => (after, .error fault)
      | (after, .error fault) => (after, .error fault) := by
  rw [writeFile, Run.on_bind]
  cases (Run.makeDirectory p.parent).on s with
  | mk after outcome =>
      cases outcome with
      | error fault => rfl
      | ok done =>
          dsimp only
          rw [Run.on_bind, Run.on_change]
          cases after.files.write p text.toUTF8 <;> rfl

theorem grows_writeFile {p : Path} (absolute : p.isAbsolute) (text : String) (s : Session) :
    ∃ t, Grows [(p, text)] s.files t ∧ ((writeFile p text).on s).1 = { s with files := t } := by
  obtain ⟨t, directories, left⟩ := Run.grows_makeDirectory (p := p.parent) absolute s
  rw [on_writeFile]
  cases outcome : (Run.makeDirectory p.parent).on s with
  | mk after result =>
      rw [outcome] at left
      cases left
      cases result with
      | error fault => exact ⟨t, directories, rfl⟩
      | ok done =>
          dsimp only
          cases written : t.write p text.toUTF8 with
          | error fault => exact ⟨t, directories, rfl⟩
          | ok u => exact ⟨u, directories.file absolute (List.mem_singleton_self _) written, rfl⟩

/-- A file that was written is found where its path leads. -/
theorem writeFile_eq_ok {p q : Path} (absolute : p.isAbsolute) {text : String} {s : Session}
    (done : ((writeFile p text).on s).2 = .ok q) :
    ((writeFile p text).on s).1.files.find p = .ok (Path.settle p.segments) ∧
      ((writeFile p text).on s).1.files.at? (Path.settle p.segments) =
        some (.file text.toUTF8) := by
  obtain ⟨⟨⟩, -, rest⟩ := Run.bind_eq_ok done
  change ((writeFile p text).on s) = _ at rest
  rw [rest] at done ⊢
  obtain ⟨⟨⟩, stored, given⟩ := Run.bind_eq_ok done
  obtain ⟨u, written, files⟩ := Run.change_eq_ok stored
  rw [given, files, Run.on_pure]
  have grows : Grows [(p, text)] ((Run.makeDirectory p.parent).on s).1.files u :=
    .file .refl absolute (List.mem_singleton_self _) written
  obtain ⟨place, found, free, rfl⟩ := FileTree.write_eq_ok written
  obtain rfl := FileTree.find_eq_ok absolute found
  have below : Path.settle p.segments ≠ [] := by
    intro root
    exact free (by rw [root]; rfl)
  exact ⟨grows.wrote.directories.find absolute found, FileTree.at?_store_self _ below _⟩

variable {files : Table Path String} {s : Session}

/-- The first file is written, and the others after it if that ended well. -/
theorem on_writeFiles_cons (p : Path) (text : String) (files : Table Path String) (s : Session) :
    (writeFiles ((p, text) :: files)).on s = match (writeFile p text).on s with
      | (after, .ok q) =>
          (((writeFiles files).on after).1, ((writeFiles files).on after).2.map (q :: ·))
      | (after, .error fault) => (after, .error fault) := by
  rw [writeFiles, Run.on_bind]
  cases (writeFile p text).on s with
  | mk after outcome =>
      cases outcome with
      | error fault => rfl
      | ok q =>
          dsimp only
          rw [Run.on_bind]
          cases (writeFiles files).on after with
          | mk final outcome => cases outcome <;> rfl

/-- Writing files changes the files of a session alone, however it ends. -/
theorem grows_writeFiles (absolute : ∀ file ∈ files, file.1.isAbsolute) (s : Session) :
    ∃ t, Grows files s.files t ∧ ((writeFiles files).on s).1 = { s with files := t } := by
  induction files generalizing s with
  | nil => exact ⟨s.files, .refl, rfl⟩
  | cons file rest ih =>
      obtain ⟨p, text⟩ := file
      obtain ⟨t, grown, left⟩ := grows_writeFile (absolute _ List.mem_cons_self) text s
      have first : Grows ((p, text) :: rest) s.files t := grown.mono (by simp)
      rw [on_writeFiles_cons]
      cases outcome : (writeFile p text).on s with
      | mk after result =>
          rw [outcome] at left
          cases left
          cases result with
          | error fault => exact ⟨t, first, rfl⟩
          | ok place =>
              have others : ∀ file ∈ rest, file.1.isAbsolute := fun file listed =>
                absolute file (List.mem_cons_of_mem _ listed)
              obtain ⟨u, more, left⟩ := ih others { s with files := t }
              exact ⟨u, first.trans (more.mono (List.subset_cons_self _ _)), left⟩

theorem wrote_writeFiles (absolute : ∀ file ∈ files, file.1.isAbsolute) (s : Session) :
    Wrote files s.files ((writeFiles files).on s).1.files := by
  obtain ⟨t, grows, left⟩ := grows_writeFiles absolute s
  rw [left]
  exact grows.wrote

theorem writeFiles_cons_eq_ok {p : Path} {text : String} {paths : List Path}
    (done : ((writeFiles ((p, text) :: files)).on s).2 = .ok paths) :
    ∃ q more, ((writeFile p text).on s).2 = .ok q ∧
      ((writeFiles files).on ((writeFile p text).on s).1).2 = .ok more ∧
      ((writeFiles ((p, text) :: files)).on s).1 =
        ((writeFiles files).on ((writeFile p text).on s).1).1 := by
  obtain ⟨q, first, rest⟩ := Run.bind_eq_ok done
  change (writeFiles ((p, text) :: files)).on s = _ at rest
  rw [rest] at done ⊢
  obtain ⟨more, remaining, given⟩ := Run.bind_eq_ok done
  refine ⟨q, more, first, remaining, ?_⟩
  rw [given, Run.on_pure]

/-- After a run that ends well each file is found where its path leads. -/
theorem find_writeFiles (absolute : ∀ file ∈ files, file.1.isAbsolute) {paths : List Path}
    (done : ((writeFiles files).on s).2 = .ok paths) {file : Path × String}
    (listed : file ∈ files) :
    ((writeFiles files).on s).1.files.find file.1 = .ok (Path.settle file.1.segments) := by
  induction files generalizing s paths with
  | nil => cases listed
  | cons first rest ih =>
      obtain ⟨p, text⟩ := first
      have others : ∀ file ∈ rest, file.1.isAbsolute := fun file later =>
        absolute file (List.mem_cons_of_mem _ later)
      obtain ⟨q, more, written, remaining, final⟩ := writeFiles_cons_eq_ok done
      rw [final]
      rcases List.mem_cons.mp listed with rfl | later
      · have found := (writeFile_eq_ok (absolute _ List.mem_cons_self) written).1
        exact (wrote_writeFiles others _).directories.find (absolute _ List.mem_cons_self) found
      · exact ih others remaining later

/-- The last file that leads to a place is what is stored there. -/
theorem at?_writeFiles {before after : Table Path String} {p : Path} {text : String}
    (absolute : ∀ file ∈ before ++ (p, text) :: after, file.1.isAbsolute) {paths : List Path}
    (done : ((writeFiles (before ++ (p, text) :: after)).on s).2 = .ok paths)
    (last : ∀ file ∈ after, Path.settle file.1.segments ≠ Path.settle p.segments) :
    ((writeFiles (before ++ (p, text) :: after)).on s).1.files.at? (Path.settle p.segments) =
      some (.file text.toUTF8) := by
  induction before generalizing s paths with
  | nil =>
      obtain ⟨q, more, written, remaining, final⟩ := writeFiles_cons_eq_ok done
      have there := (writeFile_eq_ok (absolute _ List.mem_cons_self) written).2
      have others : ∀ file ∈ after, file.1.isAbsolute := fun file later =>
        absolute file (List.mem_cons_of_mem _ later)
      rw [List.nil_append, final]
      -- The files behind lead elsewhere and leave the text alone.
      exact (wrote_writeFiles others _).kept _ _ last there
  | cons first rest ih =>
      obtain ⟨other, otherText⟩ := first
      rw [List.cons_append] at done ⊢
      obtain ⟨q, more, -, remaining, final⟩ := writeFiles_cons_eq_ok done
      rw [final]
      exact ih (fun file later => absolute file (List.mem_cons_of_mem _ later)) remaining

/-- After a run that ends well every file reads back exactly if files that lead to one place have
one text. -/
theorem readBytes_writeFiles_iff (absolute : ∀ file ∈ files, file.1.isAbsolute) {paths : List Path}
    (done : ((writeFiles files).on s).2 = .ok paths) :
    (∀ file ∈ files,
        ((writeFiles files).on s).1.files.readBytes file.1 = .ok file.2.toUTF8) ↔
      ∀ file ∈ files, ∀ other ∈ files,
        Path.settle file.1.segments = Path.settle other.1.segments → file.2 = other.2 := by
  constructor
  · intro read file listed other present same
    have one := (FileTree.readBytes_eq_ok_iff (find_writeFiles absolute done listed)).mp
      (read file listed)
    have two := (FileTree.readBytes_eq_ok_iff (find_writeFiles absolute done present)).mp
      (read other present)
    rw [same, two] at one
    simpa [String.toByteArray_inj, eq_comm] using one
  · intro alike file listed
    rw [FileTree.readBytes_eq_ok_iff (find_writeFiles absolute done listed)]
    obtain ⟨before, ⟨p, text⟩, after, rfl, leads, last⟩ := exists_last_of_mem
      (fun other => Path.settle other.1.segments = Path.settle file.1.segments) listed rfl
    have there := at?_writeFiles absolute done fun other later => leads ▸ last other later
    rw [alike file listed (p, text) (by simp) leads.symm, ← leads]
    exact there

end Book

end Bindery
