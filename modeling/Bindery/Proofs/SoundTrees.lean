import Bindery.Proofs.Tables
import Bindery.Proofs.Writing

/-!
# Trees that files and directories form

In a sound tree every place is entered once, has names that a path can step to, and stands in a
directory. So whatever stands at a place is found along its names, and a path below a directory that
is found fails for one reason only: its length. A sound tree that grows stays sound.
-/

namespace Bindery

/-! ## Questions that length alone can stop -/

/-- Does the outcome have the property, unless a name or a path was too long? -/
def UnlessTooLong {α : Type} (outcome : Except Fault α) (holds : α → Prop) : Prop :=
  outcome = .error (.file .tooLong) ∨ ∃ a, outcome = .ok a ∧ holds a

namespace UnlessTooLong

variable {α β : Type}

theorem ok {a : α} {holds : α → Prop} (held : holds a) : UnlessTooLong (.ok a) holds :=
  .inr ⟨a, rfl, held⟩

theorem mono {outcome : Except Fault α} {holds more : α → Prop}
    (settled : UnlessTooLong outcome holds) (weaker : ∀ a, holds a → more a) :
    UnlessTooLong outcome more := by
  rcases settled with long | ⟨a, same, held⟩
  · exact .inl long
  · exact .inr ⟨a, same, weaker a held⟩

theorem bind {outcome : Except Fault α} {next : α → Except Fault β} {holds : α → Prop}
    {more : β → Prop} (settled : UnlessTooLong outcome holds)
    (follows : ∀ a, holds a → UnlessTooLong (next a) more) :
    UnlessTooLong (outcome >>= next) more := by
  rcases settled with rfl | ⟨a, rfl, held⟩
  · exact .inl rfl
  · exact follows a held

theorem mapM {f : α → Except Fault β} {holds : α → β → Prop} {items : List α}
    (settled : ∀ a ∈ items, UnlessTooLong (f a) (holds a)) :
    UnlessTooLong (items.mapM f) (List.Forall₂ holds items) := by
  induction items with
  | nil => exact ok .nil
  | cons a rest ih =>
      rw [List.mapM_cons]
      refine (settled a List.mem_cons_self).bind fun b first => ?_
      refine (ih fun other listed => settled other (List.mem_cons_of_mem _ listed)).bind ?_
      exact fun bs others => ok (.cons first others)

/-- Steps that nothing but length can stop are stopped exactly if one of them is. -/
theorem mapM_eq_tooLong_iff {f : α → Except Fault β} {holds : α → β → Prop} {items : List α}
    (settled : ∀ a ∈ items, UnlessTooLong (f a) (holds a)) :
    items.mapM f = .error (.file .tooLong) ↔ ∃ a ∈ items, f a = .error (.file .tooLong) := by
  induction items with
  | nil => exact iff_of_false nofun fun ⟨_, listed, _⟩ => nomatch listed
  | cons a rest ih =>
      have others := ih fun other listed => settled other (List.mem_cons_of_mem _ listed)
      rw [List.mapM_cons, Fault.bind_eq_error_iff]
      rcases settled a List.mem_cons_self with long | ⟨b, done, -⟩
      · exact iff_of_true (.inl long) ⟨a, List.mem_cons_self, long⟩
      · simp only [done, List.mem_cons, exists_eq_or_imp, ← others, Except.ok.injEq,
          exists_eq_left', Fault.bind_pure_eq_error_iff]

/-- An outcome with a result has the property. -/
theorem of_eq_ok {a : α} {holds : α → Prop} (settled : UnlessTooLong (.ok a) holds) : holds a := by
  rcases settled with long | ⟨b, same, held⟩
  · cases long
  · exact Except.ok.inj same ▸ held

end UnlessTooLong

namespace FileTree

/-! ## Sound trees -/

/-- Can a path step to the name? -/
def IsName (name : String) : Prop :=
  name ≠ ".." ∧ name.utf8ByteSize ≤ longestName ∧ '\x00' ∉ name.toList

/-- Is every place entered once, in a directory, under names that paths can step to? -/
structure IsSound (t : FileTree) : Prop where
  nodup : t.entries.keys.Nodup
  parent : ∀ place ∈ t.entries.keys, t.at? place.dropLast = some .directory
  names : ∀ place ∈ t.entries.keys, ∀ name ∈ place, IsName name

instance (name : String) : Decidable (IsName name) := inferInstanceAs (Decidable (_ ∧ _ ∧ _))

instance (t : FileTree) : Decidable t.IsSound :=
  decidable_of_iff (t.entries.keys.Nodup ∧
      (∀ place ∈ t.entries.keys, t.at? place.dropLast = some .directory) ∧
      ∀ place ∈ t.entries.keys, ∀ name ∈ place, IsName name)
    ⟨fun ⟨nodup, parent, names⟩ => ⟨nodup, parent, names⟩,
      fun ⟨nodup, parent, names⟩ => ⟨nodup, parent, names⟩⟩

variable {t u v : FileTree}

theorem isSome_at?_iff {place : Place} (below : place ≠ []) :
    (t.at? place).isSome ↔ place ∈ t.entries.keys := by
  have filled : place.isEmpty = false := by simpa using below
  rw [at?, filled, if_neg Bool.false_ne_true]
  have known := Table.has_eq_elem_keys place t.entries
  rw [Table.has] at known
  rw [known, List.elem_eq_mem, decide_eq_true_iff]

theorem at?_nil : t.at? [] = some .directory := rfl

namespace IsSound

variable (sound : t.IsSound)

include sound

theorem at?_dropLast {place : Place} (stored : (t.at? place).isSome) :
    t.at? place.dropLast = some .directory := by
  by_cases root : place = []
  · rw [root]
    exact at?_nil
  · exact sound.parent place ((isSome_at?_iff root).mp stored)

/-- Whatever stands at a place stands in directories all the way. -/
theorem at?_of_append {place : Place} {name : String} {names : List String}
    (stored : (t.at? (place ++ name :: names)).isSome) : t.at? place = some .directory := by
  induction names using List.reverseRecOn with
  | nil =>
      have above := sound.at?_dropLast stored
      rwa [List.dropLast_concat] at above
  | append_singleton names last ih =>
      have above := sound.at?_dropLast stored
      rw [← List.cons_append, ← List.append_assoc, List.dropLast_concat] at above
      exact ih (by rw [above]; rfl)

/-- Whatever a directory stands in is a directory. -/
theorem directory_of_append {place : Place} {names : List String}
    (stands : t.at? (place ++ names) = some .directory) : t.at? place = some .directory := by
  cases names with
  | nil => rwa [List.append_nil] at stands
  | cons name rest => exact sound.at?_of_append (by rw [stands]; rfl)

theorem isName {place : Place} (stored : (t.at? place).isSome) {name : String}
    (listed : name ∈ place) : IsName name :=
  sound.names place ((isSome_at?_iff (List.ne_nil_of_mem listed)).mp stored) name listed

end IsSound

/-! ## Walks -/

/-- Do names lead from one place to another? -/
def Walks (t : FileTree) (place : Place) (names : List String) (target : Place) : Prop :=
  ∀ whole, t.follow whole place names = .ok target

theorem walks_of_follow {whole : Path} {place target : Place} {names : List String}
    (found : t.follow whole place names = .ok target) : t.Walks place names target := by
  intro other
  induction names generalizing place with
  | nil => exact found
  | cons name rest ih =>
      obtain ⟨directory, step⟩ := follow_cons_eq_ok_iff.mp found
      refine follow_cons_eq_ok_iff.mpr ⟨directory, ?_⟩
      rcases step with ⟨dots, above⟩ | ⟨named, short, below⟩
      · exact .inl ⟨dots, ih above⟩
      · exact .inr ⟨named, short, ih below⟩

/-- A walk that goes on goes on from where it was. -/
theorem Walks.follow_append {place middle : Place} {names : List String}
    (walks : t.Walks place names middle) (whole : Path) (more : List String) :
    t.follow whole place (names ++ more) = t.follow whole middle more := by
  induction names generalizing place with
  | nil =>
      cases walks whole
      rfl
  | cons name rest ih =>
      obtain ⟨directory, step⟩ := follow_cons_eq_ok_iff.mp (walks whole)
      rw [List.cons_append, follow, directory]
      dsimp only
      rcases step with ⟨dots, above⟩ | ⟨named, short, below⟩
      · rw [if_pos dots]
        exact ih (walks_of_follow above)
      · rw [if_neg named, if_neg (Nat.not_lt_of_le short)]
        exact ih (walks_of_follow below)

theorem Walks.append {place middle target : Place} {names more : List String}
    (first : t.Walks place names middle) (second : t.Walks middle more target) :
    t.Walks place (names ++ more) target :=
  fun whole => (first.follow_append whole more).trans (second whole)

theorem Walks.eq_settle {names : List String} {target : Place} (walks : t.Walks [] names target) :
    target = Path.settle names := follow_eq_ok (walks default)

theorem walks_nil (place : Place) : t.Walks place [] place := fun _ => rfl

/-- One step down from a directory. -/
theorem walks_singleton {place : Place} {name : String} (directory : t.at? place = some .directory)
    (named : name ≠ "..") (short : name.utf8ByteSize ≤ longestName) :
    t.Walks place [name] (place ++ [name]) :=
  fun _ => follow_cons_eq_ok_iff.mpr ⟨directory, .inr ⟨named, short, rfl⟩⟩

/-- What stands below a place is found along its names. -/
theorem IsSound.walks (sound : t.IsSound) {place : Place} {names : List String}
    (stored : (t.at? (place ++ names)).isSome) : t.Walks place names (place ++ names) := by
  induction names generalizing place with
  | nil =>
      rw [List.append_nil]
      exact walks_nil place
  | cons name rest ih =>
      obtain ⟨named, short, -⟩ : IsName name := sound.isName stored (by simp)
      have first := walks_singleton (sound.at?_of_append stored) named short
      rw [List.append_cons] at stored ⊢
      exact first.append (ih stored)

/-! ## What is stored where a path leads -/

theorem storedIfAny_of_find {p : Path} {place : Place} (found : t.find p = .ok place) :
    t.storedIfAny p = .ok (t.at? place) := by
  rw [storedIfAny, stored_of_find found]
  cases t.at? place <;> rfl

theorem isFile_of_find {p : Path} {place : Place} (led : t.find p = .ok place) :
    t.isFile p = .ok (t.at? place matches some (.file _)) := by
  rw [isFile, storedIfAny_of_find led]
  cases t.at? place with
  | none => rfl
  | some stored => cases stored <;> rfl

theorem storedIfAny_of_tooLong {p : Path} (long : t.find p = .error (.file .tooLong)) :
    t.storedIfAny p = .error (.file .tooLong) := by
  rw [storedIfAny, stored, long]
  rfl

theorem storedIfAny_of_holdsNul {p : Path} (nul : p.holdsNul) : t.storedIfAny p = .ok none := by
  rw [storedIfAny, stored, find, if_pos nul]
  rfl

theorem follow_eq_error {whole : Path} {place : Place} {names : List String} {fault : Fault}
    (stopped : t.follow whole place names = .error fault) :
    fault = .file (.missing whole.text) ∨ fault = .file .notDirectory ∨ fault = .file .tooLong := by
  induction names generalizing place with
  | nil => cases stopped
  | cons name rest ih =>
      rw [follow] at stopped
      split at stopped
      · cases stopped
        exact .inl rfl
      · cases stopped
        exact .inr (.inl rfl)
      · split at stopped
        · exact ih stopped
        · split at stopped
          · cases stopped
            exact .inr (.inr rfl)
          · exact ih stopped

theorem storedIfAny_eq_tooLong_iff {p : Path} :
    t.storedIfAny p = .error (.file .tooLong) ↔ t.find p = .error (.file .tooLong) := by
  refine ⟨fun long => ?_, storedIfAny_of_tooLong⟩
  cases led : t.find p with
  | ok place =>
      rw [storedIfAny_of_find led] at long
      cases long
  | error fault =>
      rw [storedIfAny, stored, led] at long
      dsimp only [bind, Except.bind] at long
      split at long
      · next same => cases same
      · cases long
      · cases long
      · cases long
      · next same =>
          cases same
          cases long
          rfl

/-- Only a path that is too long cannot be asked about. -/
theorem storedIfAny_spec (t : FileTree) (p : Path) :
    UnlessTooLong (t.storedIfAny p) fun found =>
      ∀ stored, found = some stored ↔ ∃ place, t.find p = .ok place ∧ t.at? place = some stored := by
  cases led : t.find p with
  | ok place => exact .inr ⟨_, storedIfAny_of_find led, fun stored => by simp⟩
  | error fault =>
      have nothing (passed : t.storedIfAny p = .ok none) : UnlessTooLong (t.storedIfAny p)
          fun found => ∀ stored, found = some stored ↔
            ∃ place, (Except.error fault : Except Fault Place) = .ok place ∧
              t.at? place = some stored :=
        .inr ⟨none, passed, fun stored => by simp⟩
      have stopped := led
      unfold find at stopped
      split at stopped
      · next nul => exact nothing (storedIfAny_of_holdsNul nul)
      · split at stopped
        · cases stopped
          exact .inl (storedIfAny_of_tooLong led)
        · rcases follow_eq_error stopped with rfl | rfl | rfl
          · refine nothing ?_
            rw [storedIfAny, stored, led]
            rfl
          · refine nothing ?_
            rw [storedIfAny, stored, led]
            rfl
          · exact .inl (storedIfAny_of_tooLong led)

theorem isDirectory_spec (t : FileTree) (p : Path) :
    UnlessTooLong (t.isDirectory p) fun found =>
      found = true ↔ ∃ place, t.find p = .ok place ∧ t.at? place = some .directory := by
  refine (storedIfAny_spec t p).bind fun found spec => ?_
  rw [← spec .directory]
  cases found with
  | none => exact .ok (by simp)
  | some stored => cases stored <;> exact .ok (by simp)

theorem isDirectory_eq_tooLong_iff {p : Path} :
    t.isDirectory p = .error (.file .tooLong) ↔ t.find p = .error (.file .tooLong) := by
  rw [isDirectory, Fault.bind_eq_error_iff, storedIfAny_eq_tooLong_iff]
  refine or_iff_left ?_
  rintro ⟨found, -, stops⟩
  split at stops <;> cases stops

/-! ## Paths below a directory -/

/-- A path that goes on from another one. -/
def below (p : Path) (names : List String) : Path := { p with segments := p.segments ++ names }

theorem below_nil (p : Path) : below p [] = p := by rw [below, List.append_nil]

theorem below_below (p : Path) (names more : List String) :
    below (below p names) more = below p (names ++ more) := by
  rw [below, below, below, List.append_assoc]

theorem below_injective {p : Path} {names more : List String}
    (same : below p names = below p more) : names = more :=
  List.append_cancel_left (Path.mk.inj same).2

theorem holdsNul_below (p : Path) (names : List String) :
    (below p names).holdsNul = (p.holdsNul || names.any fun s => s.toList.contains '\x00') :=
  List.any_append

/-- Does the path lead to a directory, as far as its length lets it be asked about? -/
structure Opens (t : FileTree) (p : Path) (place : Place) : Prop where
  valid : ¬ p.holdsNul
  walks : t.Walks (t.origin p) p.segments place
  directory : t.at? place = some .directory

theorem opens_of_find {p : Path} {place : Place} (found : t.find p = .ok place)
    (directory : t.at? place = some .directory) : t.Opens p place := by
  obtain ⟨valid, -, followed⟩ := find_eq_ok_iff.mp found
  exact ⟨valid, walks_of_follow followed, directory⟩

/-- A path that can be walked is found unless it is too long. -/
theorem find_of_walks {p : Path} (valid : ¬ p.holdsNul) {place : Place}
    (walks : t.Walks (t.origin p) p.segments place) : UnlessTooLong (t.find p) (· = place) := by
  by_cases short : p.text.utf8ByteSize ≤ longestPath
  · exact .inr ⟨place, find_eq_ok_iff.mpr ⟨valid, short, walks p⟩, rfl⟩
  · refine .inl ?_
    rw [find, if_neg valid, if_pos (Nat.lt_of_not_le short)]

namespace Opens

variable {p : Path} {place : Place} (opens : t.Opens p place)

include opens

theorem find : UnlessTooLong (t.find p) (· = place) :=
  find_of_walks opens.valid opens.walks

theorem walks_below (sound : t.IsSound) {names : List String}
    (stored : (t.at? (place ++ names)).isSome) :
    ¬ (FileTree.below p names).holdsNul ∧
      t.Walks (t.origin p) (FileTree.below p names).segments (place ++ names) := by
  refine ⟨?_, opens.walks.append (sound.walks stored)⟩
  rw [holdsNul_below, Bool.or_eq_true, not_or]
  refine ⟨opens.valid, fun nul => ?_⟩
  obtain ⟨name, listed, held⟩ := List.any_eq_true.mp nul
  have named := sound.isName stored (List.mem_append_right place listed)
  exact named.2.2 (List.contains_iff_mem.mp held)

/-- What stands below the directory stands where its path settles. -/
theorem settle_below (absolute : p.isAbsolute) (sound : t.IsSound) {names : List String}
    (stored : (t.at? (place ++ names)).isSome) :
    Path.settle (FileTree.below p names).segments = place ++ names := by
  have walks := (opens.walks_below sound stored).2
  rw [origin_of_absolute absolute] at walks
  exact walks.eq_settle.symm

theorem find_below (sound : t.IsSound) {names : List String}
    (stored : (t.at? (place ++ names)).isSome) :
    UnlessTooLong (t.find (FileTree.below p names)) (· = place ++ names) := by
  obtain ⟨valid, walks⟩ := opens.walks_below sound stored
  exact find_of_walks valid walks

theorem below (sound : t.IsSound) {names : List String}
    (directory : t.at? (place ++ names) = some .directory) :
    t.Opens (FileTree.below p names) (place ++ names) := by
  obtain ⟨valid, walks⟩ := opens.walks_below sound (by rw [directory]; rfl)
  exact ⟨valid, walks, directory⟩

/-- A name below the directory that is too long is not found. -/
theorem find_child_of_long {name : String} (named : name ≠ "..")
    (valid : ¬ (FileTree.below p [name]).holdsNul) (long : longestName < name.utf8ByteSize) :
    t.find (FileTree.below p [name]) = .error (.file .tooLong) := by
  have stops : t.follow (FileTree.below p [name]) (t.origin p) (p.segments ++ [name]) =
      .error (.file .tooLong) := by
    rw [opens.walks.follow_append, follow, opens.directory]
    dsimp only
    rw [if_neg named, if_pos long]
  rw [FileTree.find, if_neg valid]
  split
  · rfl
  · exact stops

/-- What is stored one name further is what stands there. -/
theorem storedIfAny_child (sound : t.IsSound) {name : String} (named : name ≠ "..") :
    UnlessTooLong (t.storedIfAny (FileTree.below p [name])) (· = t.at? (place ++ [name])) := by
  by_cases nul : (FileTree.below p [name]).holdsNul
  · -- No tree holds such a name.
    have free : t.at? (place ++ [name]) = none := by
      rw [← Option.not_isSome_iff_eq_none]
      exact fun stored => (opens.walks_below sound stored).1 nul
    rw [free]
    exact .inr ⟨none, storedIfAny_of_holdsNul nul, rfl⟩
  · by_cases short : name.utf8ByteSize ≤ longestName
    · have walks := opens.walks.append (walks_singleton opens.directory named short)
      rcases find_of_walks nul walks with long | ⟨target, found, rfl⟩
      · exact .inl (storedIfAny_of_tooLong long)
      · exact .inr ⟨_, storedIfAny_of_find found, rfl⟩
    · have long := opens.find_child_of_long named nul (Nat.lt_of_not_le short)
      exact .inl (storedIfAny_of_tooLong long)

end Opens

/-! ## Sound trees stay sound -/

namespace IsSound

variable (sound : t.IsSound)

include sound

/-- A walk leads into a directory, along names. -/
theorem follow {whole : Path} {place target : Place} {names : List String}
    (found : t.follow whole place names = .ok target)
    (valid : ∀ name ∈ names, '\x00' ∉ name.toList)
    (above : t.at? place.dropLast = some .directory) (named : ∀ name ∈ place, IsName name) :
    t.at? target.dropLast = some .directory ∧ ∀ name ∈ target, IsName name := by
  induction names generalizing place with
  | nil =>
      cases found
      exact ⟨above, named⟩
  | cons name rest ih =>
      obtain ⟨directory, step⟩ := follow_cons_eq_ok_iff.mp found
      have others : ∀ name ∈ rest, '\x00' ∉ name.toList := fun other listed =>
        valid other (List.mem_cons_of_mem _ listed)
      rcases step with ⟨-, up⟩ | ⟨plain, short, down⟩
      · exact ih up others (sound.at?_dropLast (by rw [above]; rfl)) fun other listed =>
          named other (List.dropLast_subset _ listed)
      · refine ih down others (by rwa [List.dropLast_concat]) fun other listed => ?_
        rcases List.mem_append.mp listed with before | last
        · exact named other before
        · rw [List.mem_singleton.mp last]
          exact ⟨plain, short, valid name List.mem_cons_self⟩

theorem find {p : Path} (absolute : p.isAbsolute) {place : Place} (found : t.find p = .ok place) :
    t.at? place.dropLast = some .directory ∧ ∀ name ∈ place, IsName name := by
  obtain ⟨valid, -, followed⟩ := find_eq_ok_iff.mp found
  rw [origin_of_absolute absolute] at followed
  refine sound.follow followed ?_ at?_nil fun name listed => absurd listed List.not_mem_nil
  intro name listed nul
  exact valid (List.any_eq_true.mpr ⟨name, listed, List.contains_iff_mem.mpr nul⟩)

theorem store {place : Place} {stored : Stored} (filled : place ≠ [])
    (parent : t.at? place.dropLast = some .directory) (named : ∀ name ∈ place, IsName name)
    (kept : stored = .directory ∨ t.at? place ≠ some .directory) :
    (t.store place stored).IsSound := by
  have keys : (t.store place stored).entries.keys =
      if t.entries.has place then t.entries.keys else t.entries.keys ++ [place] :=
    Table.keys_alter place _ t.entries
  have listed_iff (other : Place) : other ∈ (t.store place stored).entries.keys ↔
      other ∈ t.entries.keys ∨ other = place := by
    rw [keys]
    split
    · next known =>
        rw [Table.has_eq_elem_keys, List.elem_eq_mem, decide_eq_true_iff] at known
        exact ⟨.inl, fun either => either.elim id fun same => same ▸ known⟩
    · rw [List.mem_append, List.mem_singleton]
  constructor
  · rw [keys]
    split
    · exact sound.nodup
    · next unknown =>
        rw [Table.has_eq_elem_keys, List.elem_eq_mem, decide_eq_true_iff] at unknown
        refine List.nodup_append.mpr ⟨sound.nodup, by simp, ?_⟩
        rintro a known b last rfl
        exact unknown (List.mem_singleton.mp last ▸ known)
  · intro other listed
    by_cases inside : other.dropLast = place
    · rw [inside, at?_store_self t filled]
      rcases (listed_iff other).mp listed with known | rfl
      · rcases kept with rfl | free
        · rfl
        · exact absurd (inside ▸ sound.parent other known) free
      · -- No place but the root is its own parent.
        have shorter : other.length - 1 = other.length := by
          rw [← List.length_dropLast, inside]
        have positive := List.length_pos_of_ne_nil filled
        omega
    · rw [at?_store_of_ne t inside]
      rcases (listed_iff other).mp listed with known | rfl
      · exact sound.parent other known
      · exact parent
  · intro other listed
    rcases (listed_iff other).mp listed with known | rfl
    · exact sound.names other known
    · exact named

theorem makeOne {p : Path} (absolute : p.isAbsolute) (made : t.makeOne p = .ok u) :
    u.IsSound := by
  obtain ⟨place, found, free, rfl⟩ := makeOne_eq_ok made
  obtain ⟨parent, named⟩ := sound.find absolute found
  refine sound.store ?_ parent named (.inl rfl)
  rintro rfl
  cases free

theorem write {p : Path} (absolute : p.isAbsolute) {content : ByteArray}
    (written : t.write p content = .ok u) : u.IsSound := by
  obtain ⟨place, found, free, rfl⟩ := write_eq_ok written
  obtain ⟨parent, named⟩ := sound.find absolute found
  refine sound.store ?_ parent named (.inr free)
  rintro rfl
  exact free at?_nil

end IsSound

/-! ## Growth of sound trees -/

namespace Grows

variable {files : Table Path String}

theorem isSound (grows : Grows files t u) (sound : t.IsSound) : u.IsSound := by
  induction grows with
  | refl => exact sound
  | directory _ absolute made ih => exact ih.makeOne absolute made
  | file _ absolute _ written ih => exact ih.write absolute written

/-- What stands at a place stays a directory or a file. -/
theorem directory_iff (grows : Grows files t u) {place : Place} (stored : (t.at? place).isSome) :
    u.at? place = some .directory ↔ t.at? place = some .directory := by
  rcases grows.at? place with same | ⟨free, -⟩ | ⟨differs, _, _, _, written⟩
  · rw [same]
  · rw [free] at stored
    cases stored
  · rw [written]
    constructor
    · intro directory
      cases directory
    · exact fun directory => absurd directory differs

theorem isSome (grows : Grows files t u) {place : Place} (stored : (t.at? place).isSome) :
    (u.at? place).isSome := by
  rcases grows.at? place with same | ⟨-, made⟩ | ⟨-, _, _, _, written⟩
  · rwa [same]
  · rw [made]
    rfl
  · rw [written]
    rfl

end Grows

end FileTree

end Bindery
