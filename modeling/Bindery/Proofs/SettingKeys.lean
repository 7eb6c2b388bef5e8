import Bindery.Proofs.BrokenSettings
import Bindery.Proofs.PlainMappings
import Bindery.Proofs.Rebuilding

/-!
# The keys of settings

Each key of a file with settings acts for itself: the settings are made of what stands under each
known key, wherever it stands and whatever stands beside it. The order of the keys, unknown keys and
keys whose values are no texts make no difference, and another value under a key changes one field.

A whole number that is too long to be shown stops the reading before the references are looked at,
so that references that are no mapping are not always refused.
-/

namespace Bindery

/-! ## Entries under a key -/

namespace Value

variable {key : String} {v : Value} {before after entries others : List (Value × Value)}

theorem find?_append : find? key (before ++ after) = (find? key before).or (find? key after) := by
  induction before with
  | nil => rfl
  | cons first rest ih =>
      obtain ⟨k, w⟩ := first
      cases k with
      | string s =>
          rw [List.cons_append, find?, find?]
          split
          · rfl
          · exact ih
      | _ =>
          rw [List.cons_append, find?, find?, ih]
          · rintro _ _ ⟨⟩
          · rintro _ _ ⟨⟩

/-- Other keys do not see an entry. -/
theorem get_of_ne {other : String} (differ : other ≠ key) :
    get other (before ++ (.string key, v) :: after) = get other (before ++ after) := by
  rw [get, get, find?_append, find?_append, find?, if_neg (Ne.symm differ)]

/-- Nor do they see another value in it. -/
theorem get_of_replaced {other : String} (differ : other ≠ key) {w : Value} :
    get other (before ++ (.string key, v) :: after) =
      get other (before ++ (.string key, w) :: after) := by
  rw [get_of_ne differ, get_of_ne differ]

theorem get_of_once (once : BindsOnce (before ++ (.string key, v) :: after)) :
    get key (before ++ (.string key, v) :: after) = v := by
  rw [get, find?_of_mem once (List.mem_append_right _ List.mem_cons_self)]
  rfl

/-- Without its entry nothing stands under a key. -/
theorem get_of_removed (once : BindsOnce (before ++ (.string key, v) :: after)) :
    get key (before ++ after) = null := by
  obtain ⟨-, behind, across⟩ := List.pairwise_append.mp once
  have twice : (key == key) ≠ false := by simp
  cases found : find? key (before ++ after) with
  | none => rw [get, found, Option.getD_none]
  | some w =>
      rcases List.mem_append.mp (mem_of_find? found) with inFront | later
      · exact absurd (across _ inFront _ List.mem_cons_self) twice
      · exact absurd (List.rel_of_pairwise_cons behind later) twice

theorem get_of_perm (once : BindsOnce entries) (alsoOnce : BindsOnce others)
    (reordered : entries.Perm others) : get key others = get key entries := by
  rw [get, find?_of_perm once alsoOnce reordered, ← get]

end Value

namespace Settings

/-! ## Readings that may stop first -/

/-- The result, unless a fault stops the reading first. -/
def unlessStopped {α : Type} (stop : Option Fault) (r : Except Fault α) : Except Fault α :=
  match stop with
  | some cause => .error cause
  | none => r

section unlessStopped

variable {α β : Type} {stop : Option Fault} {r : Except Fault α}

theorem unlessStopped_or (first : Option Fault) :
    unlessStopped (first.or stop) r = unlessStopped first (unlessStopped stop r) := by
  cases first <;> rfl

theorem unlessStopped_bind (next : α → Except Fault β) :
    unlessStopped stop r >>= next = unlessStopped stop (r >>= next) := by
  cases stop <;> rfl

theorem unlessStopped_eq_ok_iff {a : α} :
    unlessStopped stop r = .ok a ↔ stop = none ∧ r = .ok a := by
  cases stop <;> simp [unlessStopped]

end unlessStopped

/-! ## What entries make -/

/-- The text that a value converts to; an empty one counts for none. -/
def textOf? (v : Value) : Option String :=
  if isTextOrNumber v ∧ v.display ≠ "" then some v.display else none

theorem word_eq (v : Value) : word v = unlessStopped (wordStop? v) (.ok (textOf? v)) := by
  unfold word wordStop? textOf?
  by_cases empty : v.display = "" <;> cases isTextOrNumber v <;> cases v.isShowable <;>
    simp [empty, unlessStopped]

theorem word_bind {α : Type} (v : Value) (next : Option String → Except Fault α) :
    word v >>= next = unlessStopped (wordStop? v) (next (textOf? v)) := by
  rw [word_eq, unlessStopped_bind]
  rfl

/-- The fault at which the keys that name a text stop the reading. -/
def textStop? (entries : List (Value × Value)) : Option Fault :=
  textKeys.findSome? fun key => wordStop? (Value.get key entries)

theorem textStop?_eq_none_iff {entries : List (Value × Value)} :
    textStop? entries = none ↔ ∀ key ∈ textKeys, ¬IsLong (Value.get key entries) := by
  rw [textStop?, List.findSome?_eq_none_iff]
  exact forall₂_congr fun key _ => wordStop?_eq_none_iff

/-- The settings of a root with what stands under the keys that name a text, and the references. -/
def make (root : Path) (found : String → Option String) (references : Table String String) :
    Settings where
  root := root
  input := ((found "input").map (root / ·)).getD (usual root).input
  directory := ((found "book_dir").map (root / ·)).getD (usual root).directory
  readme := ((found "readme").map (root / ·)).getD (usual root).readme
  moduleName := (found "module").getD usualModule
  examples := (found "examples_glob").getD usualExamples
  templates := (found "templates_dir").map (root / ·)
  references := references

/-- The outcome of entries by what stands under the known keys. -/
theorem ofEntries_eq (root : Path) (entries : List (Value × Value)) :
    ofEntries root entries = unlessStopped (textStop? entries) ((referencesOf entries).map
      (make root fun key => textOf? (Value.get key entries))) := by
  simp only [textStop?, textKeys, findSome?_cons_eq_or, List.findSome?_nil, Option.or_none,
    unlessStopped_or]
  unfold ofEntries under
  simp only [word_bind]
  cases referencesOf entries <;> rfl

theorem ofEntries_eq_ok_iff {root : Path} {entries : List (Value × Value)} {s : Settings} :
    ofEntries root entries = .ok s ↔ textStop? entries = none ∧ ∃ references,
      referencesOf entries = .ok references ∧
        make root (fun key => textOf? (Value.get key entries)) references = s := by
  rw [ofEntries_eq, unlessStopped_eq_ok_iff]
  cases referencesOf entries <;> simp [Except.map]

theorem referencesOf_congr {entries others : List (Value × Value)}
    (same : Value.get "references" others = Value.get "references" entries) :
    referencesOf others = referencesOf entries := by
  unfold referencesOf
  rw [same]

/-- Only the texts under the known keys and the references count. -/
theorem ofEntries_congr (root : Path) {entries others : List (Value × Value)}
    (texts : ∀ key ∈ textKeys, word (Value.get key others) = word (Value.get key entries))
    (references : Value.get "references" others = Value.get "references" entries) :
    ofEntries root others = ofEntries root entries := by
  unfold ofEntries under
  rw [texts "input" (by decide), texts "book_dir" (by decide), texts "readme" (by decide),
    texts "module" (by decide), texts "examples_glob" (by decide),
    texts "templates_dir" (by decide), referencesOf_congr references]

/-! ## References -/

/-- The name and the target that an entry converts to. -/
def pairOf? (entry : Value × Value) : Option (String × String) :=
  (textOf? entry.1).bind fun name => (textOf? entry.2).map fun target => (name, target)

theorem pair?_eq (entry : Value × Value) :
    pair? entry = unlessStopped (pairStop? entry) (.ok (pairOf? entry)) := by
  rw [pair?, word_bind, word_bind, pairStop?, unlessStopped_or]
  rfl

theorem pairs_eq (found : List (Value × Value)) :
    pairs found = unlessStopped (found.findSome? pairStop?)
      (.ok (Table.ofList (found.filterMap pairOf?))) := by
  have each : found.mapM pair? =
      unlessStopped (found.findSome? pairStop?) (.ok (found.map pairOf?)) := by
    induction found with
    | nil => rfl
    | cons entry rest ih =>
        rw [List.mapM_cons, pair?_eq, unlessStopped_bind, ih, findSome?_cons_eq_or,
          unlessStopped_or]
        refine congrArg _ ?_
        show (unlessStopped _ _ >>= _) = _
        rw [unlessStopped_bind]
        rfl
  rw [pairs, each, unlessStopped_bind]
  show unlessStopped _ (Except.ok (Table.ofList ((found.map pairOf?).filterMap id))) = _
  rw [List.filterMap_map]
  rfl

/-- Is the value, as references, refused? -/
def IsRefused (v : Value) : Prop := v ≠ .null ∧ ∀ found, v ≠ .map found

theorem referencesOf_of_isRefused {entries : List (Value × Value)}
    (refused : IsRefused (Value.get "references" entries)) :
    referencesOf entries = .error (.settings .referencesNotMapping) := by
  unfold referencesOf
  split
  · next absent => exact absurd absent refused.1
  · next found named => exact absurd named (refused.2 found)
  · rfl

theorem references_ne_of_mem_textKeys {key : String} (text : key ∈ textKeys) :
    "references" ≠ key := by
  rintro rfl
  exact absurd text (by decide)

theorem pairStop?_eq_some {entry : Value × Value} {cause : Fault}
    (stops : pairStop? entry = some cause) : cause = .value .longNumber := by
  rcases Option.or_eq_some_iff.mp stops with name | ⟨-, target⟩
  · exact (wordStop?_eq_some name).2
  · exact (wordStop?_eq_some target).2

theorem isRefused_of_referencesOf {entries : List (Value × Value)} {cause : SettingsFault}
    (failed : referencesOf entries = .error (.settings cause)) :
    IsRefused (Value.get "references" entries) := by
  unfold referencesOf at failed
  split at failed
  · cases failed
  · next found named =>
      rw [pairs_eq] at failed
      cases stops : found.findSome? pairStop? with
      | none => rw [stops] at failed; cases failed
      | some other =>
          rw [stops] at failed
          cases failed
          obtain ⟨entry, -, stopped⟩ := List.exists_of_findSome?_eq_some stops
          cases pairStop?_eq_some stopped
  · next notNull notMap => exact ⟨notNull, notMap⟩

/-- Settings are refused as bad ones if the references are, unless a number stops the reading. -/
theorem ofEntries_refused_iff {root : Path} {entries : List (Value × Value)} :
    (∃ cause, ofEntries root entries = .error (.settings cause)) ↔
      IsRefused (Value.get "references" entries) ∧
        ∀ key ∈ textKeys, ¬IsLong (Value.get key entries) := by
  rw [ofEntries_eq, ← textStop?_eq_none_iff]
  cases stops : textStop? entries with
  | some cause =>
      obtain ⟨key, -, stopped⟩ := List.exists_of_findSome?_eq_some stops
      obtain ⟨-, rfl⟩ := wordStop?_eq_some stopped
      simp [unlessStopped]
  | none =>
      constructor
      · rintro ⟨cause, failed⟩
        cases read : referencesOf entries with
        | ok references => rw [read] at failed; cases failed
        | error other =>
            rw [read] at failed
            cases failed
            exact ⟨isRefused_of_referencesOf read, rfl⟩
      · rintro ⟨refused, -⟩
        rw [referencesOf_of_isRefused refused]
        exact ⟨_, rfl⟩

theorem StopsAt.eq_none {α : Type} {stop : Option Fault} {r : Except Fault α}
    (stops : StopsAt stop r) {a : α} (made : r = .ok a) : stop = none := by
  cases stops with
  | ok b => rfl
  | stopped cause => cases made
  | refused cause => cases made

/-- Entries make settings if nothing stops the reading and the references are not refused. -/
theorem ofEntries_makes_iff {root : Path} {entries : List (Value × Value)} :
    (∃ s, ofEntries root entries = .ok s) ↔
      ¬IsRefused (Value.get "references" entries) ∧ ∀ v, IsUsed entries v → ¬IsLong v := by
  have stops := stopsAt_ofEntries root entries
  rw [← entriesStop?_eq_none_iff]
  -- What does not stop is made or refused, and what is refused passes the texts first.
  constructor
  · rintro ⟨s, made⟩
    have passes := stops.eq_none made
    refine ⟨fun refused => ?_, passes⟩
    have short := textStop?_eq_none_iff.mp (Option.or_eq_none_iff.mp passes).1
    obtain ⟨cause, failed⟩ : ∃ cause, ofEntries root entries = .error (.settings cause) :=
      ofEntries_refused_iff.mpr ⟨refused, short⟩
    rw [failed] at made
    cases made
  · rintro ⟨accepted, passes⟩
    rw [passes] at stops
    rcases stops.of_none with made | refused
    · exact made
    · exact absurd (ofEntries_refused_iff.mp refused).1 accepted

/-- Does the value convert to the text, which is not empty? -/
def Converts (v : Value) (text : String) : Prop :=
  isTextOrNumber v ∧ v.display = text ∧ text ≠ ""

theorem textOf?_eq_some_iff {v : Value} {text : String} :
    textOf? v = some text ↔ Converts v text := by
  unfold textOf? Converts
  constructor
  · intro converted
    split at converted
    · next usable =>
        cases converted
        exact ⟨usable.1, rfl, usable.2⟩
    · cases converted
  · rintro ⟨usable, rfl, filled⟩
    rw [if_pos ⟨usable, filled⟩]

theorem pairOf?_eq_some_iff {entry : Value × Value} {name target : String} :
    pairOf? entry = some (name, target) ↔ Converts entry.1 name ∧ Converts entry.2 target := by
  rw [← textOf?_eq_some_iff, ← textOf?_eq_some_iff, pairOf?]
  cases textOf? entry.1 <;> cases textOf? entry.2 <;> simp

/-- The references hold a pair if an entry converts to it and no later one to the same name. -/
theorem mem_references_iff {found : List (Value × Value)} {references : Table String String}
    (made : pairs found = .ok references) {name target : String} :
    (name, target) ∈ references ↔ ∃ before entry after, found = before ++ entry :: after ∧
      Converts entry.1 name ∧ Converts entry.2 target ∧
      ∀ later ∈ after, ∀ other, ¬(Converts later.1 name ∧ Converts later.2 other) := by
  rw [pairs_eq, unlessStopped_eq_ok_iff] at made
  obtain rfl := Except.ok.inj made.2
  constructor
  · intro bound
    obtain ⟨front, back, split, last⟩ := Table.exists_last_of_mem_ofList bound
    obtain ⟨before, others, rfl, -, inBack⟩ := List.filterMap_eq_append_iff.mp split
    obtain ⟨skipped, entry, after, rfl, -, converts, rfl⟩ := List.filterMap_eq_cons_iff.mp inBack
    obtain ⟨toName, toTarget⟩ := pairOf?_eq_some_iff.mp converts
    refine ⟨before ++ skipped, entry, after, by rw [List.append_assoc], toName, toTarget, ?_⟩
    intro later listed other alsoConverts
    exact last _ (List.mem_filterMap.mpr ⟨later, listed, pairOf?_eq_some_iff.mpr alsoConverts⟩) rfl
  · rintro ⟨before, entry, after, rfl, toName, toTarget, last⟩
    have converts := pairOf?_eq_some_iff.mpr ⟨toName, toTarget⟩
    rw [List.filterMap_append, List.filterMap_cons_some converts]
    refine Table.mem_ofList _ fun pair listed same => ?_
    obtain ⟨later, inAfter, alsoConverts⟩ := List.mem_filterMap.mp listed
    obtain ⟨otherName, other⟩ := pair
    cases same
    exact last later inAfter other (pairOf?_eq_some_iff.mp alsoConverts)

theorem nodup_references {found : List (Value × Value)} {references : Table String String}
    (made : pairs found = .ok references) : (references.map Prod.fst).Nodup := by
  rw [pairs_eq, unlessStopped_eq_ok_iff] at made
  obtain rfl := Except.ok.inj made.2
  rw [Table.keys_ofList]
  exact Table.nodup_eraseDups _

/-! ## Entries that differ -/

/-- The keys that count. -/
def knownKeys : List String := textKeys ++ ["references"]

def isKnown (entry : Value × Value) : Bool :=
  match entry.1 with
  | .string key => knownKeys.contains key
  | _ => false

/-- Is the value an empty text, or neither a text nor a number? -/
def IsIdle (v : Value) : Prop := v = .string "" ∨ isTextOrNumber v = false

/-- Do settings agree in every field but the one that the key sets? -/
structure AgreeBut (key : String) (s s' : Settings) : Prop where
  root : s.root = s'.root
  input : key ≠ "input" → s.input = s'.input
  directory : key ≠ "book_dir" → s.directory = s'.directory
  readme : key ≠ "readme" → s.readme = s'.readme
  moduleName : key ≠ "module" → s.moduleName = s'.moduleName
  examples : key ≠ "examples_glob" → s.examples = s'.examples
  templates : key ≠ "templates_dir" → s.templates = s'.templates
  references : key ≠ "references" → s.references = s'.references

section Entries

variable {root : Path} {key : String} {v w : Value}
  {before after entries others : List (Value × Value)}

theorem ofEntries_of_perm (once : Value.BindsOnce entries) (alsoOnce : Value.BindsOnce others)
    (reordered : entries.Perm others) : ofEntries root others = ofEntries root entries :=
  ofEntries_congr root
    (fun _ _ => congrArg word (Value.get_of_perm once alsoOnce reordered))
    (Value.get_of_perm once alsoOnce reordered)

theorem get_filter_isKnown (known : key ∈ knownKeys) :
    Value.get key (entries.filter isKnown) = Value.get key entries := by
  have same : Value.find? key (entries.filter isKnown) = Value.find? key entries := by
    induction entries with
    | nil => rfl
    | cons entry rest ih =>
        obtain ⟨k, v⟩ := entry
        cases k with
        | string other =>
            rw [Value.find?]
            by_cases here : other = key
            · subst here
              have kept : isKnown (.string other, v) = true := List.contains_iff_mem.mpr known
              rw [List.filter_cons_of_pos kept, Value.find?, if_pos rfl, if_pos rfl]
            · rw [if_neg here, List.filter_cons]
              split
              · rw [Value.find?, if_neg here, ih]
              · exact ih
        | _ =>
            rw [List.filter_cons_of_neg (by exact Bool.false_ne_true), ih, Value.find?]
            rintro _ _ ⟨⟩
  rw [Value.get, same, ← Value.get]

/-- Keys that are not known make no difference. -/
theorem ofEntries_of_known (same : others.filter isKnown = entries.filter isKnown) :
    ofEntries root others = ofEntries root entries := by
  have unchanged : ∀ key ∈ knownKeys, Value.get key others = Value.get key entries := by
    intro key known
    rw [← get_filter_isKnown known, same, get_filter_isKnown known]
  exact ofEntries_congr root
    (fun key known => congrArg word (unchanged key (List.mem_append_left _ known)))
    (unchanged "references" (by decide))

theorem word_of_isIdle (idle : IsIdle v) : word v = .ok none := by
  rcases idle with rfl | other
  · rfl
  · rw [word, other]
    rfl

/-- A key whose value is no text makes no difference. -/
theorem ofEntries_of_removed (once : Value.BindsOnce (before ++ (.string key, v) :: after))
    (text : key ∈ textKeys) (idle : IsIdle v) :
    ofEntries root (before ++ after) = ofEntries root (before ++ (.string key, v) :: after) := by
  refine ofEntries_congr root (fun other _ => ?_) ?_
  · by_cases same : other = key
    · subst same
      rw [Value.get_of_removed once, Value.get_of_once once, word_of_isIdle idle]
      rfl
    · rw [Value.get_of_ne same]
  · rw [Value.get_of_ne (references_ne_of_mem_textKeys text)]

/-- Another value under a key changes one field at most. -/
theorem agreeBut_of_replaced {s s' : Settings}
    (made : ofEntries root (before ++ (.string key, v) :: after) = .ok s)
    (alsoMade : ofEntries root (before ++ (.string key, w) :: after) = .ok s') :
    AgreeBut key s s' := by
  obtain ⟨-, references, read, rfl⟩ := ofEntries_eq_ok_iff.mp made
  obtain ⟨-, others, alsoRead, rfl⟩ := ofEntries_eq_ok_iff.mp alsoMade
  constructor
  case root => rfl
  case references =>
    intro differ
    rw [referencesOf_congr (Value.get_of_replaced differ.symm), alsoRead] at read
    exact (Except.ok.inj read).symm
  -- Each of the other fields is made of the text under its own key.
  all_goals
    intro differ
    simp only [make, Value.get_of_replaced differ.symm (v := v) (w := w)]

/-- Another text under a key neither makes nor mends a failure. -/
theorem ofEntries_fails_iff_of_replaced
    (once : Value.BindsOnce (before ++ (.string key, v) :: after))
    (alsoOnce : Value.BindsOnce (before ++ (.string key, w) :: after)) (text : key ∈ textKeys)
    (short : ¬IsLong v) (alsoShort : ¬IsLong w) {cause : Fault} :
    ofEntries root (before ++ (.string key, v) :: after) = .error cause ↔
      ofEntries root (before ++ (.string key, w) :: after) = .error cause := by
  -- A short text stops nothing, and the references stand under another key.
  have texts : textStop? (before ++ (.string key, v) :: after) =
      textStop? (before ++ (.string key, w) :: after) := by
    refine congrArg (List.findSome? · textKeys) (funext fun other => ?_)
    by_cases same : other = key
    · subst same
      rw [Value.get_of_once once, Value.get_of_once alsoOnce, wordStop?_eq_none_iff.mpr short,
        wordStop?_eq_none_iff.mpr alsoShort]
    · rw [Value.get_of_replaced same]
  have references : referencesOf (before ++ (.string key, v) :: after) =
      referencesOf (before ++ (.string key, w) :: after) :=
    referencesOf_congr (Value.get_of_replaced (references_ne_of_mem_textKeys text))
  rw [ofEntries_eq, ofEntries_eq, texts, references]
  cases textStop? (before ++ (.string key, w) :: after) with
  | some other => exact Iff.rfl
  | none =>
      cases referencesOf (before ++ (.string key, w) :: after) with
      | error other => exact Iff.rfl
      | ok made => exact ⟨nofun, nofun⟩

end Entries

/-! ## Files -/

/-- Does the path lead to a file with settings, in a root, whose text loads to the entries? -/
def Holds (t : FileTree) (p root : Path) (entries : List (Value × Value)) : Prop :=
  ∃ f text, file t p = .ok f ∧ t.exists? f = .ok true ∧ f.parent = root ∧
    t.readText f = .ok text ∧ valueOf f.name text = .ok (.map entries)

section Holds

variable {t : FileTree} {p root : Path} {entries : List (Value × Value)}

theorem load_of_holds (holds : Holds t p root entries) : load t p = ofEntries root entries := by
  obtain ⟨f, text, found, present, rfl, read, loaded⟩ := holds
  rw [load_eq_ofText found present read, ofText, loaded]
  rfl

theorem bindsOnce_of_holds (holds : Holds t p root entries) : Value.BindsOnce entries := by
  obtain ⟨f, text, -, -, -, -, loaded⟩ := holds
  unfold valueOf at loaded
  split at loaded
  · cases loaded
    exact .nil
  · split at loaded
    · cases loaded
      exact .nil
    · next v same =>
        cases loaded
        exact Yaml.bindsOnce_of_load same
    · cases loaded
    · cases loaded

end Holds

/-! ## Projects of plain lines -/

open Yaml

/-- A project whose file with settings holds the text. -/
def projectOf (text : String) : FileTree :=
  ⟨[(["project"], .directory), (["project", ".apibook.yml"], .file text.toUTF8)], ["project"]⟩

theorem holds_projectOf {text : String} (feeds : Text.withFeeds text = text)
    {entries : List (Value × Value)} (loaded : valueOf fileName text = .ok (.map entries)) :
    Holds (projectOf text) (Path.ofString ".") ⟨.root, ["project"]⟩ entries := by
  let f : Path := ⟨.root, ["project", ".apibook.yml"]⟩
  have led : (projectOf text).find f = .ok ["project", ".apibook.yml"] := rfl
  have read : (projectOf text).readText f = .ok text :=
    (FileTree.readText_of_find led rfl).trans (congrArg Except.ok feeds)
  exact ⟨f, text, rfl, rfl, rfl, read, loaded⟩

theorem holds_ofLines {lines : List (List Char × List Char)} (filled : lines ≠ [])
    (each : ∀ entry ∈ lines, IsLine entry) {entries : List (Value × Value)}
    (means : List.Forall₂ LineMeans lines entries) (once : Value.BindsOnce entries) :
    Holds (projectOf (ofLines lines)) (Path.ofString ".") ⟨.root, ["project"]⟩ entries := by
  refine holds_projectOf (withFeeds_ofLines each) ?_
  rw [valueOf, isBlankText_ofLines filled, load_ofLines filled each means once]
  rfl

/-- The keys of settings act independently. For two files in one root the settings are the same, or
fail for the same reason, if the entries of one are those of the other in another order, with other
keys that are not known, or without a key whose value is no text. Another value under one key
changes the field of the key at most; a text in place of another one changes nothing else at all.
Settings are refused exactly if references are there that are no mapping and no number that is too
long stops the reading before; they are made exactly if nothing is refused and no number stops the
reading. The references are the pairs that the entries convert to, the last one of each name. -/
theorem setting_keys_act_independently {t u : FileTree} {p q root : Path}
    {entries others : List (Value × Value)} (holds : Holds t p root entries)
    (alsoHolds : Holds u q root others) :
    (entries.Perm others → load u q = load t p) ∧
    (others.filter isKnown = entries.filter isKnown → load u q = load t p) ∧
    (∀ key v before after, entries = before ++ (.string key, v) :: after →
      others = before ++ after → key ∈ textKeys → IsIdle v → load u q = load t p) ∧
    (∀ key v w before after, entries = before ++ (.string key, v) :: after →
      others = before ++ (.string key, w) :: after →
      (∀ s s', load t p = .ok s → load u q = .ok s' → AgreeBut key s s') ∧
      (key ∈ textKeys → ¬IsLong v → ¬IsLong w →
        ∀ cause, load t p = .error cause ↔ load u q = .error cause)) ∧
    ((∃ cause, load t p = .error (.settings cause)) ↔
      IsRefused (Value.get "references" entries) ∧
        ∀ key ∈ textKeys, ¬IsLong (Value.get key entries)) ∧
    ((∃ s, load t p = .ok s) ↔
      ¬IsRefused (Value.get "references" entries) ∧ ∀ v, IsUsed entries v → ¬IsLong v) ∧
    ∀ found s, Value.get "references" entries = .map found → load t p = .ok s →
      (s.references.map Prod.fst).Nodup ∧
      ∀ name target, (name, target) ∈ s.references ↔
        ∃ before entry after, found = before ++ entry :: after ∧
          Converts entry.1 name ∧ Converts entry.2 target ∧
          ∀ later ∈ after, ∀ other, ¬(Converts later.1 name ∧ Converts later.2 other) := by
  have once := bindsOnce_of_holds holds
  have alsoOnce := bindsOnce_of_holds alsoHolds
  rw [load_of_holds holds, load_of_holds alsoHolds]
  refine ⟨ofEntries_of_perm once alsoOnce, ofEntries_of_known, ?_, ?_, ofEntries_refused_iff,
    ofEntries_makes_iff, ?_⟩
  · rintro key v before after rfl rfl text idle
    exact ofEntries_of_removed once text idle
  · rintro key v w before after rfl rfl
    exact ⟨fun s s' => agreeBut_of_replaced, fun text short alsoShort cause =>
      ofEntries_fails_iff_of_replaced once alsoOnce text short alsoShort⟩
  · intro found s named made
    obtain ⟨-, references, read, rfl⟩ := ofEntries_eq_ok_iff.mp made
    unfold referencesOf at read
    rw [named] at read
    exact ⟨nodup_references read, fun name target => mem_references_iff read⟩

/-- Settings with a key that is not known and references that are no mapping. -/
def settingLines : List (List Char × List Char) :=
  [("input".toList, "records".toList), ("author".toList, "me".toList),
    ("references".toList, "a".toList)]

/-- What these settings stand for. -/
def settingEntries : List (Value × Value) :=
  [(.string "input", .string "records"), (.string "author", .string "me"),
    (.string "references", .string "a")]

/-- The settings are refused in either order. -/
theorem reordered_settings_refused_alike :
    Holds (projectOf (ofLines settingLines)) (Path.ofString ".") ⟨.root, ["project"]⟩
        settingEntries ∧
      Holds (projectOf (ofLines settingLines.reverse)) (Path.ofString ".") ⟨.root, ["project"]⟩
        settingEntries.reverse ∧
      load (projectOf (ofLines settingLines.reverse)) (Path.ofString ".") =
        load (projectOf (ofLines settingLines)) (Path.ofString ".") ∧
      ∃ cause, load (projectOf (ofLines settingLines)) (Path.ofString ".") =
        .error (.settings cause) := by
  have means : List.Forall₂ LineMeans settingLines settingEntries := by
    refine .cons ⟨?_, ?_⟩ (.cons ⟨?_, ?_⟩ (.cons ⟨?_, ?_⟩ .nil))
    all_goals exact means_text (by decide +kernel)
  have holds := holds_ofLines (by decide) (by decide) means (by decide)
  have reversed := holds_ofLines (by decide) (by decide) (List.rel_reverse means) (by decide)
  obtain ⟨reordered, -, -, -, refused, -, -⟩ := setting_keys_act_independently holds reversed
  exact ⟨holds, reversed, reordered (List.reverse_perm _).symm,
    refused.mpr ⟨⟨nofun, nofun⟩, textStop?_eq_none_iff.mp rfl⟩⟩

/-- References that are no mapping, and an input with more digits than can be shown. -/
def hiddenLines : List (List Char × List Char) :=
  [("references".toList, "a".toList), ("input".toList, hexadecimal (List.replicate 3600 'f'))]

/-- What these settings stand for. -/
def hiddenEntries : List (Value × Value) :=
  [(.string "references", .string "a"),
    (.string "input", .int (Decimal.natOfBase 16 (List.replicate 3600 'f')))]

theorem holds_hiddenEntries : Holds (projectOf (ofLines hiddenLines)) (Path.ofString ".")
    ⟨.root, ["project"]⟩ hiddenEntries := by
  have hex : ∀ c ∈ List.replicate 3600 'f', Quoted.isHexDigit c := by
    intro c listed
    rw [(List.mem_replicate.mp listed).2]
    decide
  have lines : ∀ entry ∈ hiddenLines, IsLine entry := by
    refine List.forall_mem_cons.mpr ⟨by decide, ?_⟩
    exact List.forall_mem_singleton.mpr ⟨by decide, isWord_hexadecimal hex, by decide⟩
  refine holds_ofLines (List.cons_ne_nil _ _) lines (.cons ⟨?_, ?_⟩ (.cons ⟨?_, ?_⟩ .nil))
    (by decide)
  · exact means_text (by decide +kernel)
  · exact means_text (by decide +kernel)
  · exact means_text (by decide +kernel)
  · exact means_hexadecimal (by decide) hex

/-- Behind a number that is too long, references that are no mapping are not refused. -/
theorem long_input_hides_bad_references :
    Holds (projectOf (ofLines hiddenLines)) (Path.ofString ".") ⟨.root, ["project"]⟩
        hiddenEntries ∧
      IsRefused (Value.get "references" hiddenEntries) ∧
      ∀ cause, load (projectOf (ofLines hiddenLines)) (Path.ofString ".") ≠
        .error (.settings cause) := by
  refine ⟨holds_hiddenEntries, ⟨nofun, nofun⟩, fun cause refused => ?_⟩
  rw [load_of_holds holds_hiddenEntries] at refused
  have short := (ofEntries_refused_iff.mp ⟨cause, refused⟩).2 "input" (by decide)
  exact short ⟨_, rfl, by decide +kernel⟩

end Settings

end Bindery
