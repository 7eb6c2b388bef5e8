import Bindery.CommandLine
import Bindery.Proofs.BrokenPages

/-!
# Broken settings

A text that is to hold the settings of a project makes settings or is refused as bad settings,
unless it stops the build with another fault: at a scalar of its YAML, as front matter does, or at a
number that a field is to be made of and that has too many digits to be shown. Where it stops is
told from the text alone. Bad settings are reported as such on the command line; texts that stop are
reported as unexpected failures.
-/

namespace Bindery

namespace Settings

/-- The fault at which making a text of a value stops, if it does. -/
def wordStop? (v : Value) : Option Fault :=
  if isTextOrNumber v && !v.isShowable then some (.value .longNumber) else none

/-- The fault at which an entry of the references stops the reading. -/
def pairStop? (entry : Value × Value) : Option Fault := (wordStop? entry.1).or (wordStop? entry.2)

/-- The keys that name a text, in the order in which they are read. -/
def textKeys : List String :=
  ["input", "book_dir", "readme", "module", "examples_glob", "templates_dir"]

/-- The fault at which references stop the reading. What is no mapping is refused instead. -/
def referencesStop? : Value → Option Fault
  | .map found => found.findSome? pairStop?
  | _ => none

/-- The fault at which the entries of a file stop the reading. -/
def entriesStop? (entries : List (Value × Value)) : Option Fault :=
  (textKeys.findSome? fun key => wordStop? (Value.get key entries)).or
    (referencesStop? (Value.get "references" entries))

/-- The fault at which the value of a file stops the reading. -/
def valueStop? : Value → Option Fault
  | .map entries => entriesStop? entries
  | _ => none

/-- The fault, other than one of bad settings, at which reading a text stops. -/
def stop? (text : String) : Option Fault :=
  if Text.isBlankText text then none
  else (Yaml.stop? text).or ((Yaml.load text).toOption.bind valueStop?)

/-! ## Readings that stop -/

/-- Does the reading stop with the fault or, where there is none, give a result or refuse the
settings? -/
inductive StopsAt {α : Type} : Option Fault → Except Fault α → Prop
  | stopped (cause : Fault) : StopsAt (some cause) (.error cause)
  | ok (a : α) : StopsAt none (.ok a)
  | refused (cause : SettingsFault) : StopsAt none (.error (.settings cause))

section StopsAt

variable {α β : Type} {stop : Option Fault}

theorem StopsAt.eq_some {r : Except Fault α} (stops : StopsAt stop r) {cause : Fault}
    (stopped : r = .error cause) (other : ∀ bad, cause ≠ .settings bad) : stop = some cause := by
  cases stops with
  | stopped found => rw [Except.error.inj stopped]
  | ok a => cases stopped
  | refused bad => exact absurd (Except.error.inj stopped).symm (other bad)

theorem StopsAt.eq_error {r : Except Fault α} {cause : Fault} (stops : StopsAt (some cause) r) :
    r = .error cause := by
  cases stops
  rfl

theorem StopsAt.of_none {r : Except Fault α} (stops : StopsAt none r) :
    (∃ a, r = .ok a) ∨ ∃ cause, r = .error (.settings cause) := by
  cases stops with
  | ok a => exact .inl ⟨a, rfl⟩
  | refused cause => exact .inr ⟨cause, rfl⟩

theorem StopsAt.map {r : Except Fault α} (stops : StopsAt stop r) (f : α → β) :
    StopsAt stop (r >>= fun a => pure (f a)) := by
  cases stops with
  | stopped cause => exact .stopped cause
  | ok a => exact .ok (f a)
  | refused cause => exact .refused cause

theorem stopsAt_word_bind (v : Value) {next : Option String → Except Fault α}
    (goesOn : ∀ found, StopsAt stop (next found)) :
    StopsAt ((wordStop? v).or stop) (word v >>= next) := by
  unfold wordStop? word
  cases kind : isTextOrNumber v with
  | false => exact goesOn none
  | true =>
      cases showable : v.isShowable with
      | false => exact .stopped _
      | true => exact goesOn _

theorem stopsAt_pair?_bind (entry : Value × Value)
    {next : Option (String × String) → Except Fault α}
    (goesOn : ∀ found, StopsAt stop (next found)) :
    StopsAt ((pairStop? entry).or stop) (pair? entry >>= next) := by
  rw [pairStop?, pair?, Option.or_assoc, bind_assoc]
  refine stopsAt_word_bind _ fun name => ?_
  rw [bind_assoc]
  exact stopsAt_word_bind _ fun target => goesOn _

/-- The first entry that stops decides. -/
theorem stopsAt_pairs_bind (entries : List (Value × Value))
    {next : List (Option (String × String)) → Except Fault α}
    (goesOn : ∀ found, StopsAt stop (next found)) :
    StopsAt ((entries.findSome? pairStop?).or stop) (entries.mapM pair? >>= next) := by
  induction entries generalizing next with
  | nil => exact goesOn []
  | cons entry rest ih =>
      rw [findSome?_cons_eq_or, Option.or_assoc, List.mapM_cons, bind_assoc]
      refine stopsAt_pair?_bind entry fun found => ?_
      rw [bind_assoc]
      exact ih fun more => goesOn (found :: more)

end StopsAt

theorem stopsAt_referencesOf (entries : List (Value × Value)) :
    StopsAt (referencesStop? (Value.get "references" entries)) (referencesOf entries) := by
  unfold referencesOf
  split
  · next absent =>
      rw [absent]
      exact .ok _
  · next found named =>
      rw [named, referencesStop?, ← Option.or_none (o := found.findSome? _)]
      exact stopsAt_pairs_bind found fun _ => .ok _
  · next notNull notMap =>
      unfold referencesStop?
      split
      · next found same => exact (notMap found same).elim
      · exact .refused _

theorem stopsAt_ofEntries (root : Path) (entries : List (Value × Value)) :
    StopsAt (entriesStop? entries) (ofEntries root entries) := by
  rw [entriesStop?, textKeys]
  simp only [findSome?_cons_eq_or, List.findSome?_nil, Option.or_assoc, Option.none_or]
  unfold ofEntries
  refine stopsAt_word_bind _ fun input => stopsAt_word_bind _ fun directory =>
    stopsAt_word_bind _ fun readme => stopsAt_word_bind _ fun moduleName =>
    stopsAt_word_bind _ fun examples => stopsAt_word_bind _ fun templates => ?_
  exact (stopsAt_referencesOf entries).map _

/-- What reading the text of a file comes to, as told from the text. -/
theorem stopsAt_ofText (root : Path) (file text : String) :
    StopsAt (stop? text) (ofText root file text) := by
  unfold ofText valueOf stop?
  split
  · exact stopsAt_ofEntries root []
  · cases stop : Yaml.stop? text with
    | some cause =>
        rw [Yaml.load_eq_fault_iff.mpr stop]
        exact .stopped cause
    | none =>
        rw [Option.none_or]
        cases loaded : Yaml.load text with
        | ok v =>
            cases v with
            | null => exact stopsAt_ofEntries root []
            | map entries => exact stopsAt_ofEntries root entries
            | _ => exact .refused _
        | error failure =>
            cases failure with
            | malformed => exact .refused _
            | fault cause =>
                rw [Yaml.load_eq_fault_iff.mp loaded] at stop
                cases stop

/-! ## What stops a reading -/

/-- Is the value a whole number with more digits than can be shown? -/
def IsLong (v : Value) : Prop := ∃ i : Int, v = .int i ∧ Nat.pow 10 Decimal.digitLimit ≤ i.natAbs

theorem wordStop?_eq_some {v : Value} {cause : Fault} (stops : wordStop? v = some cause) :
    IsLong v ∧ cause = .value .longNumber := by
  unfold wordStop? at stops
  split at stops
  · next long =>
      cases stops
      refine ⟨?_, rfl⟩
      cases v with
      | int i => exact ⟨i, rfl, by simpa [isTextOrNumber, Value.isShowable] using long⟩
      | _ => cases long
  · cases stops

theorem wordStop?_eq_none_iff {v : Value} : wordStop? v = none ↔ ¬IsLong v := by
  constructor
  · rintro passes ⟨i, rfl, long⟩
    have tooLong : Value.isShowable (.int i) = false := by
      rw [Value.isShowable]
      exact decide_eq_false (Nat.not_lt.mpr long)
    rw [wordStop?, tooLong] at passes
    cases passes
  · intro short
    cases stops : wordStop? v with
    | none => rfl
    | some cause => exact absurd (wordStop?_eq_some stops).1 short

/-- Is a text to be made of the value, as a setting or in the references? -/
inductive IsUsed (entries : List (Value × Value)) : Value → Prop
  | text {key : String} (known : key ∈ textKeys) : IsUsed entries (Value.get key entries)
  | name {found : List (Value × Value)} {entry : Value × Value}
      (references : Value.get "references" entries = .map found) (listed : entry ∈ found) :
      IsUsed entries entry.1
  | target {found : List (Value × Value)} {entry : Value × Value}
      (references : Value.get "references" entries = .map found) (listed : entry ∈ found) :
      IsUsed entries entry.2

theorem entriesStop?_eq_some {entries : List (Value × Value)} {cause : Fault}
    (stops : entriesStop? entries = some cause) :
    cause = .value .longNumber ∧ ∃ v, IsUsed entries v ∧ IsLong v := by
  rcases Option.or_eq_some_iff.mp stops with text | ⟨-, references⟩
  · obtain ⟨key, known, stops⟩ := List.exists_of_findSome?_eq_some text
    obtain ⟨long, same⟩ := wordStop?_eq_some stops
    exact ⟨same, _, .text known, long⟩
  · unfold referencesStop? at references
    split at references
    · next found named =>
        obtain ⟨entry, listed, stops⟩ := List.exists_of_findSome?_eq_some references
        rcases Option.or_eq_some_iff.mp stops with name | ⟨-, target⟩
        · obtain ⟨long, same⟩ := wordStop?_eq_some name
          exact ⟨same, _, .name named listed, long⟩
        · obtain ⟨long, same⟩ := wordStop?_eq_some target
          exact ⟨same, _, .target named listed, long⟩
    · cases references

/-- Nothing stops the reading if no number that a text is to be made of is too long. -/
theorem entriesStop?_eq_none_iff {entries : List (Value × Value)} :
    entriesStop? entries = none ↔ ∀ v, IsUsed entries v → ¬IsLong v := by
  constructor
  · intro passes v used
    obtain ⟨texts, references⟩ := Option.or_eq_none_iff.mp passes
    have pairsPass : ∀ {found}, Value.get "references" entries = .map found →
        ∀ entry ∈ found, wordStop? entry.1 = none ∧ wordStop? entry.2 = none := by
      intro found named entry listed
      rw [named, referencesStop?, List.findSome?_eq_none_iff] at references
      exact Option.or_eq_none_iff.mp (references entry listed)
    cases used with
    | text known => exact wordStop?_eq_none_iff.mp (List.findSome?_eq_none_iff.mp texts _ known)
    | name named listed => exact wordStop?_eq_none_iff.mp (pairsPass named _ listed).1
    | target named listed => exact wordStop?_eq_none_iff.mp (pairsPass named _ listed).2
  · intro short
    cases stops : entriesStop? entries with
    | none => rfl
    | some cause =>
        obtain ⟨-, v, used, long⟩ := entriesStop?_eq_some stops
        exact absurd long (short v used)

theorem entriesStop?_eq_some_iff {entries : List (Value × Value)} {cause : Fault} :
    entriesStop? entries = some cause ↔
      cause = .value .longNumber ∧ ∃ v, IsUsed entries v ∧ IsLong v := by
  refine ⟨entriesStop?_eq_some, ?_⟩
  rintro ⟨rfl, v, used, long⟩
  cases stops : entriesStop? entries with
  | none => exact absurd long (entriesStop?_eq_none_iff.mp stops v used)
  | some cause =>
      obtain ⟨rfl, -⟩ := entriesStop?_eq_some stops
      rfl

/-- Does a text have a mapping of settings, with a number among what they are made of that is too
long to be shown? -/
def StopsAtLength (text : String) (cause : Fault) : Prop :=
  cause = .value .longNumber ∧ ∃ entries, Yaml.load text = .ok (.map entries) ∧
    ∃ v, IsUsed entries v ∧ IsLong v

/-- Where reading a text stops. -/
theorem stop?_eq_some_iff {text : String} {cause : Fault} :
    stop? text = some cause ↔ Text.isBlankText text = false ∧
      (Yaml.stop? text = some cause ∨ StopsAtLength text cause) := by
  unfold stop?
  cases Text.isBlankText text with
  | true => simp
  | false =>
      rw [if_neg Bool.false_ne_true, Option.or_eq_some_iff]
      constructor
      · rintro (loading | ⟨-, reading⟩)
        · exact ⟨rfl, .inl loading⟩
        · obtain ⟨v, loaded, stops⟩ := Option.bind_eq_some_iff.mp reading
          cases v with
          | map entries =>
              obtain ⟨same, long⟩ := entriesStop?_eq_some stops
              exact ⟨rfl, .inr ⟨same, entries, eq_ok_of_toOption loaded, long⟩⟩
          | _ => cases stops
      · rintro ⟨-, loading | ⟨same, entries, loaded, long⟩⟩
        · exact .inl loading
        · refine .inr ⟨?_, ?_⟩
          · cases stops : Yaml.stop? text with
            | none => rfl
            | some other =>
                rw [Yaml.load_eq_fault_iff.mpr stops] at loaded
                cases loaded
          · rw [loaded]
            exact entriesStop?_eq_some_iff.mpr ⟨same, long⟩

end Settings

/-! ## On the command line -/

theorem Run.on_tryCatch {α : Type} (r : Run α) (handle : Fault → Run α) (s : Session) :
    (tryCatch r handle).on s = match r.on s with
      | (after, .ok a) => (after, .ok a)
      | (after, .error fault) => (handle fault).on after := by
  show on (ExceptT.tryCatch r handle) s = _
  unfold on ExceptT.tryCatch
  rw [ExceptT.run_mk, StateT.run_bind]
  cases ran : r.run.run s with
  | mk outcome after =>
      have same : StateT.run r s = (outcome, after) := ran
      rw [same]
      cases outcome <;> rfl

namespace CommandLine

/-- Is the call reported as failed, with the message in the last entry and the notice last on the
console? -/
def FailsWith (message notice : String) (after : Session × Except Fault Outcome) : Prop :=
  after.2 = .ok ⟨1, ""⟩ ∧
    after.1.entries.getLast? = some ⟨.error, Log.loggerName component, message⟩ ∧
    ∃ before, after.1.console = before ++ notice

/-- Is the call reported as failed for no reason that users are told? -/
def FailsUnexpectedly : Session × Except Fault Outcome → Prop :=
  FailsWith "Unexpected failure" "apibook build failed. Run with --verbose for more details.\n"

/-- Is the call reported as failed for bad settings? -/
def FailsForSettings (cause : SettingsFault) : Session × Except Fault Outcome → Prop :=
  FailsWith ("Invalid configuration: " ++ cause.message)
    "apibook build failed: invalid configuration\n"

theorem failsWith_fail (cause : Fault) (s : Session) :
    FailsWith (failureMessage cause) (failureNotice cause) ((fail cause).on s) := by
  refine ⟨rfl, ?_, _, rfl⟩
  show (s.record _).entries.getLast? = _
  rw [Session.entries_record, List.getLast?_concat]

/-- A request whose settings cannot be loaded fails for what stopped the loading. -/
theorem failsWith_answer {r : Request} {s ready : Session} {reporting : Reporting} {cause : Fault}
    (setUp : (Run.setUp r.verbose (r.logFile.map Path.ofString)).on s = (ready, .ok reporting))
    (failed : Settings.load ready.files (Path.ofString r.project) = .error cause) :
    FailsWith (failureMessage cause) (failureNotice cause) ((answer r).on s) := by
  have stopped : (build r).on ready = (ready, .error cause) := by
    rw [build, Run.on_bind, Run.on_files]
    dsimp only
    rw [Run.on_bind, Run.on_ofExcept, failed]
  rw [answer, Run.on_bind, setUp]
  dsimp only
  rw [Run.on_tryCatch, Run.on_bind, stopped]
  exact failsWith_fail cause ready

theorem failsUnexpectedly_of_stop? {text : String} {cause : Fault}
    (stops : Settings.stop? text = some cause) {after : Session × Except Fault Outcome}
    (fails : FailsWith (failureMessage cause) (failureNotice cause) after) :
    FailsUnexpectedly after := by
  obtain ⟨-, loading | ⟨rfl, -⟩⟩ := Settings.stop?_eq_some_iff.mp stops
  · rcases Yaml.stop?_eq_some_iff.mp loading with ⟨lexical, -⟩ | ⟨ofScalar, -⟩
    · cases lexical <;> exact fails
    · cases ofScalar <;> exact fails
  · exact fails

end CommandLine

/-! ## Files with settings -/

namespace Settings

/-- Does the path lead to a file with settings that holds the text? -/
def LeadsTo (t : FileTree) (p : Path) (text : String) : Prop :=
  ∃ f, file t p = .ok f ∧ t.exists? f = .ok true ∧ t.readText f = .ok text

theorem load_eq_ofText {t : FileTree} {p f : Path} {text : String} (found : file t p = .ok f)
    (present : t.exists? f = .ok true) (read : t.readText f = .ok text) :
    load t p = ofText f.parent f.name text := by
  rw [load, found]
  show (t.exists? f >>= fun there => if there then t.readText f >>= ofText f.parent f.name
    else return usual f.parent) = _
  rw [present]
  show (t.readText f >>= ofText f.parent f.name) = _
  rw [read]
  rfl

theorem stopsAt_load {t : FileTree} {p : Path} {text : String} (leads : LeadsTo t p text) :
    StopsAt (stop? text) (load t p) := by
  obtain ⟨f, found, present, read⟩ := leads
  rw [load_eq_ofText found present read]
  exact stopsAt_ofText _ _ _

open CommandLine

/-- What a file with settings comes to, whatever text it holds. Its settings are loaded or refused
as bad ones, and the command line says so, unless the text stops. A text that is not blank stops
exactly at a number in its lexemes, at the first word of its document that has no value, or at a
whole number that a setting or reference is to be made of and that has too many digits; then the
failure is reported as unexpected. -/
theorem settings_stop_only_at_faulty_values (text : String) :
    (∀ t p, LeadsTo t p text → StopsAt (stop? text) (load t p)) ∧
      (∀ cause, stop? text = some cause ↔ Text.isBlankText text = false ∧
        (Yaml.StopsAtLexeme text cause ∨ Yaml.StopsAtWord text cause ∨
          StopsAtLength text cause)) ∧
      ∀ (r : Request) (s ready : Session) (reporting : Reporting),
        (Run.setUp r.verbose (r.logFile.map Path.ofString)).on s = (ready, .ok reporting) →
        LeadsTo ready.files (Path.ofString r.project) text →
        (stop? text = none →
          (∃ settings, load ready.files (Path.ofString r.project) = .ok settings) ∨
            ∃ cause, FailsForSettings cause ((answer r).on s)) ∧
          ∀ cause, stop? text = some cause → FailsUnexpectedly ((answer r).on s) := by
  refine ⟨fun t p leads => stopsAt_load leads, ?_, ?_⟩
  · intro cause
    rw [stop?_eq_some_iff, Yaml.stop?_eq_some_iff, or_assoc]
  · intro r s ready reporting setUp leads
    have ends := stopsAt_load leads
    constructor
    · intro passes
      rw [passes] at ends
      rcases ends.of_none with loaded | ⟨cause, refused⟩
      · exact .inl loaded
      · exact .inr ⟨cause, failsWith_answer setUp refused⟩
    · intro cause stops
      rw [stops] at ends
      exact failsUnexpectedly_of_stop? stops (failsWith_answer setUp ends.eq_error)

/-- Settings with a day that no calendar has. -/
def impossibleInput : String := "input: 2020-13-45\n"

/-- A project with these settings. -/
def withImpossibleInput : Session :=
  .start ⟨[(["project"], .directory),
    (["project", ".apibook.yml"], .file impossibleInput.toUTF8)], ["project"]⟩ ""

/-- A request to build the project. -/
def buildHere : Request := ⟨false, none, ".", none, none, none⟩

theorem leadsTo_impossibleInput :
    LeadsTo withImpossibleInput.files (Path.ofString ".") impossibleInput :=
  ⟨⟨.root, ["project", ".apibook.yml"]⟩, eq_ok_of_toOption (by decide +kernel),
    eq_ok_of_toOption (by decide +kernel), eq_ok_of_toOption (by decide +kernel)⟩

theorem load_impossibleInput :
    load withImpossibleInput.files (Path.ofString ".") = .error (.value .impossibleDate) :=
  Compiler.eq_of_isImpossibleDate (by decide +kernel)

/-- Such settings are neither loaded nor refused as bad ones. -/
theorem impossibleInput_neither_loaded_nor_refused :
    LeadsTo withImpossibleInput.files (Path.ofString ".") impossibleInput ∧
      ∀ loaded, load withImpossibleInput.files (Path.ofString ".") = loaded →
        (∀ settings, loaded ≠ .ok settings) ∧ ∀ cause, loaded ≠ .error (.settings cause) := by
  refine ⟨leadsTo_impossibleInput, ?_⟩
  rintro _ rfl
  rw [load_impossibleInput]
  exact ⟨nofun, nofun⟩

/-- On the command line they are an unexpected failure. -/
theorem impossibleInput_fails_unexpectedly :
    stop? impossibleInput = some (.value .impossibleDate) ∧
      FailsUnexpectedly ((answer buildHere).on withImpossibleInput) := by
  obtain ⟨loads, -, answered⟩ := settings_stop_only_at_faulty_values impossibleInput
  have stops : stop? impossibleInput = some (.value .impossibleDate) :=
    (loads _ _ leadsTo_impossibleInput).eq_some load_impossibleInput nofun
  let reporting : Reporting := ⟨.info, .info, none⟩
  let ready : Session := { withImpossibleInput with reporting := some reporting }
  have setUp : (Run.setUp buildHere.verbose (buildHere.logFile.map Path.ofString)).on
      withImpossibleInput = (ready, .ok reporting) := rfl
  have leads : LeadsTo ready.files (Path.ofString buildHere.project) impossibleInput :=
    leadsTo_impossibleInput
  exact ⟨stops, (answered buildHere withImpossibleInput ready reporting setUp leads).2 _ stops⟩

end Settings

end Bindery
