import Bindery.Proofs.Rebuilding

/-!
# What a book without example pages is refused for

The search for example pages looks into the directory of the book, into its directory of examples
and into the directories in there. Nothing but the length of their paths can stop it. A record of
texts is therefore refused for its structure alone, or else because one of these paths is too long
to be asked about.
-/

namespace Bindery

open FileTree (IsSound Opens below)

namespace Example

/-- The directories that the search for example pages asks about. -/
inductive Asked (t : FileTree) (directory : Path) : Path → Prop
  | directory : Asked t directory directory
  | examples {place : Place} (led : t.find directory = .ok place)
      (stands : t.at? place = some .directory) : Asked t directory (below directory ["examples"])
  | inside {place : Place} {names : List String} (led : t.find directory = .ok place)
      (stands : t.at? (place ++ "examples" :: names) = some .directory) :
      Asked t directory (below directory ("examples" :: names))

/-- Is a path that the search asks about too long? -/
def AsksTooLong (t : FileTree) (directory : Path) : Prop :=
  ∃ p, Asked t directory p ∧ t.find p = .error (.file .tooLong)

/-- Does no file stand among the examples of the directory under a name that ends as those of pages
do? -/
def IsLacking (t : FileTree) (directory : Path) : Prop :=
  ∀ place, t.find directory = .ok place → ∀ names name content,
    t.at? (place ++ "examples" :: names ++ [name]) = some (.file content) →
      ¬ ".md".toList <:+ name.toList

variable {t : FileTree} {directory : Path}

theorem asksTooLong_iff_of_directory {place : Place} (led : t.find directory = .ok place)
    (stands : t.at? place = some .directory) :
    AsksTooLong t directory ↔ t.find (below directory ["examples"]) = .error (.file .tooLong) ∨
      ∃ names, t.at? (place ++ "examples" :: names) = some .directory ∧
        t.find (below directory ("examples" :: names)) = .error (.file .tooLong) := by
  constructor
  · rintro ⟨_, asked, long⟩
    cases asked with
    | directory => cases led.symm.trans long
    | examples => exact .inl long
    | inside found inner =>
        obtain rfl := Except.ok.inj (led.symm.trans found)
        exact .inr ⟨_, inner, long⟩
  · rintro (long | ⟨names, inner, long⟩)
    · exact ⟨_, .examples led stands, long⟩
    · exact ⟨_, .inside led inner, long⟩

/-- Where no directory is, nothing else is asked about. -/
theorem asksTooLong_iff_of_not_directory (sound : t.IsSound)
    (lost : ∀ place, t.find directory = .ok place → t.at? place ≠ some .directory) :
    AsksTooLong t directory ↔ t.find directory = .error (.file .tooLong) := by
  refine ⟨?_, fun long => ⟨_, .directory, long⟩⟩
  rintro ⟨_, asked, long⟩
  cases asked with
  | directory => exact long
  | examples led stands => exact absurd stands (lost _ led)
  | inside led inner => exact absurd (sound.directory_of_append inner) (lost _ led)

end Example

/-! ## The usual pattern -/

namespace Glob

variable {t : FileTree} {directory p : Path} {place : Place}

/-- The pieces of the names of pages. -/
def pagePieces : List Piece := .star :: ".md".toList.map .one

theorem ofString_usualExamples : Pattern.ofString Settings.usualExamples =
    .ok ⟨[.exact "examples", .deep, .wild pagePieces], false⟩ := rfl

theorem isDownward_usualExamples :
    ∀ s ∈ [Segment.exact "examples", .deep, .wild pagePieces], s.IsDownward := by
  simp [Segment.IsDownward]

theorem eq_of_isMatch_ones {word cs : List Char} (matched : isMatch (word.map .one) cs) :
    cs = word := by
  induction word generalizing cs with
  | nil => simpa [isMatch] using matched
  | cons c rest ih =>
      cases cs with
      | nil => simp [isMatch] at matched
      | cons d more =>
          simp only [List.map_cons, isMatch, Piece.fits, Bool.and_eq_true, beq_iff_eq] at matched
          rw [matched.1, ih matched.2]

theorem suffix_of_isMatch_star {word cs : List Char}
    (matched : isMatch (.star :: word.map .one) cs) : word <:+ cs := by
  induction cs with
  | nil =>
      rw [isMatch] at matched
      obtain rfl := eq_of_isMatch_ones matched
      exact List.suffix_refl _
  | cons c rest ih =>
      rw [isMatch, Bool.or_eq_true] at matched
      rcases matched with here | later
      · obtain rfl := eq_of_isMatch_ones here
        exact List.suffix_refl _
      · exact (ih later).trans (List.suffix_cons c rest)

/-- What the usual pattern matches stands among the examples. -/
theorem Matches.of_usual {names : List String}
    (fits : Matches t false [.exact "examples", .deep, .wild pagePieces] place names) :
    ∃ inner name, names = "examples" :: inner ++ [name] ∧ ".md".toList <:+ name.toList := by
  obtain ⟨_, rfl, -, inner, _, rfl, -, name, _, rfl, matched, -, rfl⟩ := fits
  exact ⟨inner, name, rfl, suffix_of_isMatch_star matched⟩

theorem select_wild_eq_error_iff {pieces : List Piece} {fault : Fault} :
    select t false [.wild pieces] p = .error fault ↔ t.find p = .error fault := by
  rw [select, Fault.bind_eq_error_iff]
  refine or_iff_left ?_
  rintro ⟨place, -, stops⟩
  have each (names : List String) : names.mapM (fun name => select t false [] (child p name)) =
      .ok (names.map fun name => [child p name]) := by
    induction names with
    | nil => rfl
    | cons name rest ih =>
        rw [List.mapM_cons, ih]
        rfl
  dsimp only at stops
  rw [each] at stops
  cases stops

theorem select_deep_eq_tooLong_iff (sound : t.IsSound) (opens : t.Opens p place)
    {pieces : List Piece} :
    select t false [.deep, .wild pieces] p = .error (.file .tooLong) ↔
      ∃ names, t.at? (place ++ names) = some .directory ∧
        t.find (below p names) = .error (.file .tooLong) := by
  have reaches {q : Path} := mem_directoriesFrom_iff sound opens.directory (p := p) (q := q)
  have each : ∀ q ∈ directoriesFrom t p place,
      UnlessTooLong (select t false [.wild pieces] q) fun _ => True := by
    intro q listed
    obtain ⟨names, rfl, directory⟩ := reaches.mp listed
    have leadsDown : ∀ s ∈ [Segment.wild pieces], s.IsDownward := by simp [Segment.IsDownward]
    exact (lists_select sound leadsDown fun _ => opens.below sound directory).mono
      fun _ _ => trivial
  rw [select]
  rcases opens.find with long | ⟨_, found, rfl⟩
  · rw [long]
    refine iff_of_true rfl ⟨[], ?_, ?_⟩
    · rw [List.append_nil]
      exact opens.directory
    · rw [FileTree.below_nil]
      exact long
  · rw [found]
    show ((directoriesFrom t p _).mapM (select t false [.wild pieces]) >>=
      fun lists => pure (distinct lists.flatten)) = _ ↔ _
    rw [Fault.bind_pure_eq_error_iff, UnlessTooLong.mapM_eq_tooLong_iff each]
    simp only [select_wild_eq_error_iff, reaches]
    constructor
    · rintro ⟨_, ⟨names, rfl, stands⟩, long⟩
      exact ⟨names, stands, long⟩
    · rintro ⟨names, stands, long⟩
      exact ⟨_, ⟨names, rfl, stands⟩, long⟩

/-- Below a directory the search is stopped exactly by a path that is too long. -/
theorem select_eq_tooLong_iff (sound : t.IsSound) (led : t.find directory = .ok place)
    (stands : t.at? place = some .directory) :
    select t false [.exact "examples", .deep, .wild pagePieces] directory =
        .error (.file .tooLong) ↔ Example.AsksTooLong t directory := by
  have opens := FileTree.opens_of_find led stands
  rw [select_exact]
  show (t.isDirectory (below directory ["examples"]) >>= _) = _ ↔ _
  rw [Fault.bind_eq_error_iff, FileTree.isDirectory_eq_tooLong_iff,
    Example.asksTooLong_iff_of_directory led stands]
  refine or_congr_right' fun short => ?_
  have asked := admits_child sound opens (show "examples" ≠ ".." by decide) false
  rcases asked with long | ⟨found, done, admits⟩
  · exact absurd (FileTree.isDirectory_eq_tooLong_iff.mp long) short
  have done : t.isDirectory (below directory ["examples"]) = .ok found := done
  simp only [done, Except.ok.injEq, exists_eq_left']
  cases found with
  | false =>
      refine iff_of_false (fun ended => by cases ended) ?_
      rintro ⟨names, inner, -⟩
      rw [List.append_cons] at inner
      have directory := sound.directory_of_append inner
      cases admits.mpr ⟨by rw [directory]; rfl, fun _ => directory⟩
  | true =>
      have directory : t.at? (place ++ ["examples"]) = some .directory := (admits.mp rfl).2 rfl
      rw [if_pos rfl, select_deep_eq_tooLong_iff sound (opens.below sound directory)]
      refine exists_congr fun names => ?_
      rw [List.append_assoc, FileTree.below_below]
      rfl

/-- The search for the usual pattern is stopped exactly by a path that is too long. -/
theorem paths_eq_tooLong_iff (sound : t.IsSound) :
    paths t directory Settings.usualExamples = .error (.file .tooLong) ↔
      Example.AsksTooLong t directory := by
  rw [paths, ofString_usualExamples]
  show (t.isDirectory directory >>= _) = _ ↔ _
  rw [Fault.bind_eq_error_iff]
  rcases FileTree.isDirectory_spec t directory with long | ⟨found, done, stands⟩
  · have here := FileTree.isDirectory_eq_tooLong_iff.mp long
    exact iff_of_true (.inl long) ⟨_, .directory, here⟩
  simp only [done, reduceCtorEq, false_or, Except.ok.injEq, exists_eq_left']
  cases found with
  | false =>
      have lost : ∀ place, t.find directory = .ok place → t.at? place ≠ some .directory :=
        fun place led directory => Bool.false_ne_true (stands.mpr ⟨place, led, directory⟩)
      refine iff_of_false (fun ended => by cases ended) ?_
      rw [Example.asksTooLong_iff_of_not_directory sound lost,
        ← FileTree.isDirectory_eq_tooLong_iff, done]
      exact fun ended => by cases ended
  | true =>
      obtain ⟨place, led, directory⟩ := stands.mp rfl
      rw [if_pos rfl, Fault.bind_pure_eq_error_iff]
      exact select_eq_tooLong_iff sound led directory

end Glob

/-! ## The search without pages -/

namespace Example

variable {t : FileTree} {directory p : Path}

/-- Where pages are lacking the pattern matches directories alone. -/
theorem isFile_of_isLacking (sound : t.IsSound) (lacking : IsLacking t directory)
    (short : ¬ AsksTooLong t directory) {found : List Path}
    (searched : Glob.paths t directory Settings.usualExamples = .ok found) (listed : p ∈ found) :
    t.isFile p = .ok false := by
  have matched : UnlessTooLong (Glob.paths t directory Settings.usualExamples) _ :=
    Glob.paths_spec sound Glob.ofString_usualExamples Glob.isDownward_usualExamples
  obtain ⟨-, -, spec⟩ := (searched ▸ matched).of_eq_ok
  obtain ⟨place, names, led, stands, rfl, fits⟩ := (spec p).mp listed
  have stored := fits.isSome (by rw [stands]; rfl)
  obtain ⟨inner, name, rfl, page⟩ := fits.of_usual
  have inside : t.at? (place ++ ("examples" :: inner ++ [name])) = some .directory := by
    obtain ⟨here, there⟩ := Option.isSome_iff_exists.mp stored
    cases here with
    | directory => exact there
    | file content =>
        rw [← List.append_assoc] at there
        exact absurd page (lacking place led inner name content there)
  have opens := FileTree.opens_of_find led stands
  rcases opens.find_below sound stored with long | ⟨_, found, rfl⟩
  · exact absurd ⟨_, .inside led inside, long⟩ short
  · rw [FileTree.isFile_of_find found, inside]

/-- Where pages are lacking the search finds none, unless a path that it asks about is too long. -/
theorem discover_of_isLacking (sound : t.IsSound) (lacking : IsLacking t directory) :
    (AsksTooLong t directory ∧
        (discover t directory Settings.usualExamples).outcome = .error (.file .tooLong)) ∨
      ¬ AsksTooLong t directory ∧
        (discover t directory Settings.usualExamples).outcome = .ok [] := by
  by_cases long : AsksTooLong t directory
  · have stops := (Glob.paths_eq_tooLong_iff sound).mpr long
    refine .inl ⟨long, ?_⟩
    rw [discover, Draft.bind_of_error stops]
  · rcases Glob.paths_spec sound Glob.ofString_usualExamples Glob.isDownward_usualExamples with
      stops | ⟨found, searched, -⟩
    · exact absurd ((Glob.paths_eq_tooLong_iff sound).mp stops) long
    have passed : ∀ p ∈ found, ∃ e, (ofPath? t directory p).outcome = .ok e ∧ e = none :=
      fun p listed => by
        have noFile := isFile_of_isLacking sound lacking long searched listed
        exact ⟨none, ofPath?_of_isFile_eq_false noFile, rfl⟩
    obtain ⟨examples, done, empty⟩ := Draft.each_of_all passed
    refine .inr ⟨long, ?_⟩
    rw [discover, Draft.outcome_bind_of_ok searched, Draft.outcome_bind_of_ok done]
    exact congrArg Except.ok (List.filterMap_eq_nil_iff.mpr empty)

theorem isLacking_of_directories (only : ∀ entry ∈ t.entries, entry.2 = .directory) :
    IsLacking t directory := by
  intro place _ names name content there
  rw [FileTree.at?, if_neg (by simp)] at there
  cases only _ (Table.mem_of_get? there)

end Example

/-! ## Refusals -/

namespace Compiler

variable {c : Compiler}

/-- How a record of texts ends where pages are lacking. -/
theorem compile_of_isLacking {t : FileTree} {root : Node} (sound : t.IsSound)
    (textual : root.isTextual) (usual : c.examples = Settings.usualExamples)
    (lacking : Example.IsLacking t c.directory) (packaged : c.templates = none) :
    (∀ cause, (c.compile t root).outcome = .error (.record cause) ↔ c.defect? root = some cause) ∧
      ((∃ b, (c.compile t root).outcome = .ok b) ↔
        c.defect? root = none ∧ ¬ Example.AsksTooLong t c.directory) ∧
      ((c.compile t root).outcome = .error (.file .tooLong) ↔
        c.defect? root = none ∧ Example.AsksTooLong t c.directory) := by
  have searched := Example.discover_of_isLacking sound lacking
  rw [← usual] at searched
  rcases searched with ⟨long, stops⟩ | ⟨short, done⟩
  · have ended : (Example.discover t c.directory c.examples).StopsAt
        (some (.file .tooLong)) := stops
    have compiled := stopsAt_compile textual ended packaged
    simp only [compiled.eq_error_iff, compiled.eq_ok_iff]
    cases c.defect? root <;> simp [long]
  · have ended : (Example.discover t c.directory c.examples).StopsAt none := ⟨_, done⟩
    have compiled := stopsAt_compile textual ended packaged
    simp only [compiled.eq_error_iff, compiled.eq_ok_iff]
    cases c.defect? root <;> simp [short]

/-- Where pages are lacking, of the records of texts exactly those without a module and those with a
defective entity are refused for their structure; every other one gives a book, unless a path that
the search for pages asks about is too long. -/
theorem fails_exactly_on_defects_and_long_paths {s : Session} {root : Node}
    (sound : s.files.IsSound) (textual : root.isTextual)
    (usual : c.examples = Settings.usualExamples)
    (lacking : Example.IsLacking s.files c.directory) (packaged : c.templates = none) :
    (((c.process root).on s).2 = .error (.record (.missingModule c.moduleName)) ↔
        ∀ child ∈ root.children, child.name ≠ c.moduleName) ∧
      ∀ module, root.children.find? (fun child => child.name == c.moduleName) = some module →
        ((∃ cause, cause.isOfEntity ∧ ((c.process root).on s).2 = .error (.record cause)) ↔
          ∃ child ∈ module.children, Entity.IsDefective child) ∧
        ((¬∃ child ∈ module.children, Entity.IsDefective child) →
          ((∃ b, ((c.process root).on s).2 = .ok b) ↔
              ¬ Example.AsksTooLong s.files c.directory) ∧
            (((c.process root).on s).2 = .error (.file .tooLong) ↔
              Example.AsksTooLong s.files c.directory)) := by
  obtain ⟨refused, made, stopped⟩ := compile_of_isLacking sound textual usual lacking packaged
  rw [outcome_process]
  constructor
  · exact (refused _).trans defect?_eq_missingModule_iff
  · intro module found
    have first : c.defect? root = module.children.findSome? Entity.defect? := by
      rw [defect?, found]
    rw [made, stopped, first, ← Entity.isSome_findSome?_defect?]
    constructor
    · rw [Option.isSome_iff_exists]
      refine exists_congr fun cause => ?_
      rw [refused, first]
      exact and_iff_right_of_imp Entity.isOfEntity_of_findSome?
    · intro sane
      have none := Option.not_isSome_iff_eq_none.mp sane
      exact ⟨and_iff_right none, and_iff_right none⟩

/-- A book with a directory of examples that holds nothing. -/
def withoutPages : Session :=
  .start ⟨[(["book"], .directory), (["book", "examples"], .directory)], []⟩ ""

/-- A class, and an interface whose method has no signatures. -/
def unfinished : List Node :=
  [selfClass "Driver",
    .mk "Engine" (.string "Interface") none
      [.mk "stop" (.string "Method") none [] [] [] none false none] [] [] none false none]

theorem unfinished_refused :
    ∃ cause, cause.isOfEntity ∧
      (((plain ["book"]).process (recordOf unfinished)).on withoutPages).2 =
        .error (.record cause) := by
  have sound : withoutPages.files.IsSound := by decide
  have textual : (recordOf unfinished).isTextual := by decide
  have lacking : Example.IsLacking withoutPages.files (plain ["book"]).directory :=
    Example.isLacking_of_directories (by decide)
  have ends := fails_exactly_on_defects_and_long_paths sound textual rfl lacking rfl
  exact (ends.2 (moduleOf unfinished) rfl).1.mpr (by decide)

/-- A book whose directory has a name that no directory can hold. -/
def longPlaced : Compiler := plain [longName]

/-- Nothing is wrong with a record without entities, and there are no pages; but the directory of
the book cannot be asked about. -/
theorem longPlaced_stops_without_defects :
    (recordOf []).isTextual ∧ longPlaced.examples = Settings.usualExamples ∧
      longPlaced.templates = none ∧ emptySession.files.IsSound ∧
      Example.IsLacking emptySession.files longPlaced.directory ∧
      (recordOf []).children.find? (fun child => child.name == longPlaced.moduleName) =
        some (moduleOf []) ∧
      (¬∃ child ∈ (moduleOf []).children, Entity.IsDefective child) ∧
      ((longPlaced.process (recordOf [])).on emptySession).2 = .error (.file .tooLong) := by
  have sound : emptySession.files.IsSound := by decide
  have textual : (recordOf []).isTextual := by decide
  have lacking : Example.IsLacking emptySession.files longPlaced.directory :=
    Example.isLacking_of_directories (by decide)
  have root : emptySession.files.Opens ⟨.root, []⟩ [] :=
    ⟨by decide, FileTree.walks_nil _, rfl⟩
  have valid : ¬ (below ⟨.root, []⟩ [longName]).holdsNul := by
    simpa [Path.holdsNul, below] using isWord_longName.not_mem (c := '\x00') rfl
  have long : emptySession.files.find longPlaced.directory = .error (.file .tooLong) :=
    root.find_child_of_long (isWord_longName.ne rfl rfl) valid (by decide +kernel)
  obtain ⟨-, -, stopped⟩ := compile_of_isLacking sound textual rfl lacking rfl
  refine ⟨textual, rfl, rfl, sound, lacking, rfl, by decide, ?_⟩
  rw [outcome_process]
  exact stopped.mpr ⟨rfl, _, .directory, long⟩

end Compiler

end Bindery
