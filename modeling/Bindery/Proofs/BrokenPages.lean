import Bindery.Proofs.Defects
import Bindery.Proofs.PlainScalars
import Bindery.Proofs.WordFaults

/-!
# Broken pages

The front matter of an example page is either read or passed over, unless the texts of its scalars
stop the build: those that have the form of a type without a value of it. What stops a build is told
from the text of the page alone. The first page that stops decides, and a book of a record without
defects is refused for nothing else.
-/

namespace Bindery

/-! ## Pages -/

namespace FrontMatter

/-- The fault at which reading the front matter of a document stops, if it does. -/
def stop? (text : String) : Option Fault := (block? text).bind Yaml.stop?

/-- Front matter that does not stop the build is read, be it broken or not. -/
theorem stopsAt_read (source text : String) : (read source text).StopsAt (stop? text) := by
  unfold read stop?
  cases block? text with
  | none => exact ⟨[], rfl⟩
  | some block =>
      rw [Option.bind_some]
      dsimp only
      cases stop : Yaml.stop? block with
      | some cause =>
          rw [Yaml.load_eq_fault_iff.mpr stop]
          rfl
      | none =>
          split
          · exact ⟨_, rfl⟩
          · exact ⟨_, rfl⟩
          · exact ⟨_, rfl⟩
          · next cause failed =>
              rw [Yaml.load_eq_fault_iff.mp failed] at stop
              cases stop

theorem outcome_read (source text : String) :
    (read source text).outcome = (read "" text).outcome := by
  unfold read
  cases block? text with
  | none => rfl
  | some block =>
      dsimp only
      split <;> rfl

/-- The attributes of a document; there are none where reading them stops. -/
def attributes (text : String) : List (Value × Value) :=
  (read "" text).outcome.toOption.getD []

theorem outcome_read_of_stop?_eq_none {source text : String} (passes : stop? text = none) :
    (read source text).outcome = .ok (attributes text) := by
  have stops := stopsAt_read "" text
  rw [passes] at stops
  obtain ⟨found, done⟩ := stops
  rw [outcome_read, attributes, done]
  rfl

end FrontMatter

/-- What is neither true nor full has no long numbers. -/
theorem Value.isShowable_of_isTruthy_eq_false {v : Value} (empty : v.isTruthy = false) :
    v.isShowable := by
  cases v with
  | int i =>
      have zero : i = 0 := by simpa [isTruthy] using empty
      have positive (n : Nat) : 0 < Nat.pow 10 n := Nat.pow_pos (by decide)
      rw [zero, isShowable]
      exact decide_eq_true (positive Decimal.digitLimit)
  | list items => cases items with
    | nil => rfl
    | cons => cases empty
  | map entries => cases entries with
    | nil => rfl
    | cons => cases empty
  | set members => cases members with
    | nil => rfl
    | cons => cases empty
  | pair first second => cases empty
  | outer isMapping => cases empty
  | _ => rfl

namespace Example

/-- Is the path no file, or a file that can be read as text? -/
def IsReadable (t : FileTree) (p : Path) : Prop :=
  t.isFile p = .ok false ∨ t.isFile p = .ok true ∧ ∃ text, t.readText p = .ok text

/-- The fault at which a page with this text stops a build: that of its front matter, or a title
with a number too long to be shown. -/
def textStop? (text : String) : Option Fault :=
  (FrontMatter.stop? text).or
    (if (Value.get "title" (FrontMatter.attributes text)).isShowable then none
      else some (.value .longNumber))

/-- The fault at which a path that can be read stops a build. -/
def stop? (t : FileTree) (p : Path) : Option Fault :=
  match t.isFile p, t.readText p with
  | .ok true, .ok text => textStop? text
  | _, _ => none

theorem stopsAt_ofPath? {t : FileTree} {p : Path} (readable : IsReadable t p)
    (directory : Path) : (ofPath? t directory p).StopsAt (stop? t p) := by
  unfold ofPath? stop?
  rcases readable with other | ⟨file, text, read⟩
  · refine Draft.StopsAt.bind_of_ok other ?_
    rw [other]
    exact ⟨none, rfl⟩
  · refine Draft.StopsAt.bind_of_ok file (Draft.StopsAt.bind_of_ok read ?_)
    rw [file, read]
    refine (FrontMatter.stopsAt_read _ _).bind fun found done => ?_
    have passes : FrontMatter.stop? text = none :=
      (FrontMatter.stopsAt_read _ _).eq_ok_iff.mp ⟨found, done⟩
    have same : found = FrontMatter.attributes text :=
      Except.ok.inj (done.symm.trans (FrontMatter.outcome_read_of_stop?_eq_none passes))
    rw [same]
    dsimp only
    generalize Value.get "title" (FrontMatter.attributes text) = title
    cases truthy : title.isTruthy with
    | false =>
        rw [if_pos (Value.isShowable_of_isTruthy_eq_false truthy)]
        exact ⟨none, rfl⟩
    | true =>
        cases showable : title.isShowable with
        | true => exact ⟨_, rfl⟩
        | false => rfl

/-- The first page that stops decides over all example pages. -/
theorem stopsAt_discover {t : FileTree} {directory : Path} {pattern : String} {paths : List Path}
    (listed : Glob.paths t directory pattern = .ok paths)
    (readable : ∀ p ∈ paths, IsReadable t p) :
    (discover t directory pattern).StopsAt (paths.findSome? (stop? t)) := by
  refine Draft.StopsAt.bind_of_ok listed ?_
  have walked := Draft.stopsAt_each fun p found => stopsAt_ofPath? (readable p found) directory
  exact walked.bind_of_all fun _ _ => ⟨_, rfl⟩

end Example

/-! ## Books -/

namespace Compiler

/-- What front matter can do to a build. Each text has its attributes read or stops, as told from
its block alone. It stops exactly at a number in its lexemes, or at the first word of its document
that has no value; of plain scalars these are told from their texts. Where every example page can be
read, the first one that stops decides over them all, and a record without defects gives a book if
none does. -/
theorem front_matter_stops_only_at_faulty_scalars (c : Compiler) :
    (∀ source text, (FrontMatter.read source text).StopsAt (FrontMatter.stop? text)) ∧
      (∀ text cause, FrontMatter.stop? text = some cause ↔
        ∃ block, FrontMatter.block? text = some block ∧
          (Yaml.StopsAtLexeme block cause ∨ Yaml.StopsAtWord block cause)) ∧
      (∀ word cause, word.toList.getLast? ≠ some '\n' →
        (Yaml.scalar (.ofPlain word) word = .error (.fault cause) ↔
          Yaml.plainFault? word = some cause)) ∧
      ∀ (s : Session) paths, Glob.paths s.files c.directory c.examples = .ok paths →
        (∀ p ∈ paths, Example.IsReadable s.files p) →
        let stop := paths.findSome? (Example.stop? s.files)
        (Example.discover s.files c.directory c.examples).StopsAt stop ∧
          ∀ root : Node, root.isTextual → c.templates = none →
            ((∃ b, ((c.process root).on s).2 = .ok b) ↔ c.defect? root = none ∧ stop = none) ∧
              ∀ cause, ((c.process root).on s).2 = .error cause ↔
                ((c.defect? root).map .record).or stop = some cause := by
  refine ⟨FrontMatter.stopsAt_read, ?_, ?_, ?_⟩
  · intro text cause
    rw [FrontMatter.stop?, Option.bind_eq_some_iff]
    simp only [Yaml.stop?_eq_some_iff]
  · intro word cause noFeed
    exact Yaml.scalar_ofPlain_eq_fault_iff noFeed
  · intro s paths listed readable
    have discovered := Example.stopsAt_discover listed readable
    refine ⟨discovered, fun root textual packaged => ?_⟩
    have compiled := stopsAt_compile textual discovered packaged
    rw [outcome_process]
    refine ⟨?_, fun cause => compiled.eq_error_iff⟩
    rw [compiled.eq_ok_iff, Option.or_eq_none_iff, Option.map_eq_none_iff]

/-- Front matter with a day that no calendar has. -/
def impossibleDay : String := "---\ndate: 2020-13-45\n---\n"

/-- A book with that page among its examples. -/
def withImpossibleDay : Session :=
  .start ⟨[(["book"], .directory), (["book", "examples"], .directory),
    (["book", "examples", "login.md"], .file impossibleDay.toUTF8)], []⟩ ""

/-- Is the result a fault of a day that no calendar has? -/
def isImpossibleDate {α : Type} : Except Fault α → Bool
  | .error (.value .impossibleDate) => true
  | _ => false

theorem eq_of_isImpossibleDate {α : Type} {r : Except Fault α} (found : isImpossibleDate r) :
    r = .error (.value .impossibleDate) := by
  unfold isImpossibleDate at found
  split at found
  · rfl
  · cases found

theorem impossibleDay_read :
    isImpossibleDate (FrontMatter.read "<text>" impossibleDay).outcome := by
  decide +kernel

/-- Such front matter is neither read nor passed over. -/
theorem impossible_day_stops :
    (FrontMatter.read "<text>" impossibleDay).outcome = .error (.value .impossibleDate) :=
  eq_of_isImpossibleDate impossibleDay_read

/-- The path of that page. -/
def impossiblePage : Path := ⟨.root, ["book", "examples", "login.md"]⟩

theorem impossiblePage_listed : Glob.paths withImpossibleDay.files (plain ["book"]).directory
    (plain ["book"]).examples = .ok [impossiblePage] :=
  eq_ok_of_toOption (by decide +kernel)

theorem impossiblePage_isFile : withImpossibleDay.files.isFile impossiblePage = .ok true :=
  eq_ok_of_toOption (by decide +kernel)

theorem impossiblePage_read : withImpossibleDay.files.readText impossiblePage = .ok impossibleDay :=
  eq_ok_of_toOption (by decide +kernel)

/-- One such page stops the build of a library that has no defects. -/
theorem impossible_day_stops_library :
    (((plain ["book"]).process (recordOf library)).on withImpossibleDay).2 =
      .error (.value .impossibleDate) := by
  obtain ⟨reads, -, -, builds⟩ := front_matter_stops_only_at_faulty_scalars (plain ["book"])
  have readable : ∀ p ∈ [impossiblePage], Example.IsReadable withImpossibleDay.files p := by
    intro p found
    rw [List.mem_singleton.mp found]
    exact .inr ⟨impossiblePage_isFile, impossibleDay, impossiblePage_read⟩
  have decides (text : String) (cause : Fault) :
      (FrontMatter.read "<text>" text).outcome = .error cause ↔
        FrontMatter.stop? text = some cause :=
    (reads "<text>" text).eq_error_iff
  have stops := (decides impossibleDay _).mp (eq_of_isImpossibleDate impossibleDay_read)
  have atPage : Example.stop? withImpossibleDay.files impossiblePage =
      some (.value .impossibleDate) := by
    unfold Example.stop?
    rw [impossiblePage_isFile, impossiblePage_read]
    dsimp only
    rw [Example.textStop?, stops, Option.some_or]
  have textual : (recordOf library).isTextual := by decide
  have sound : (plain ["book"]).defect? (recordOf library) = none :=
    Option.isNone_iff_eq_none.mp (by decide)
  obtain ⟨-, ends⟩ := builds withImpossibleDay [impossiblePage] impossiblePage_listed readable
  refine ((ends (recordOf library) textual rfl).2 _).mpr ?_
  rw [sound, List.findSome?_cons, atPage, Option.map_none, Option.none_or]

end Compiler

end Bindery
