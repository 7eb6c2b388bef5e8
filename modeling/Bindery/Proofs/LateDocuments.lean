import Bindery.Proofs.Footers
import Bindery.Proofs.Freezing

/-!
# Documents that come late

A document that is added to a book counts on a footer: when the book is next finalized or read, each
name that the document needs and the registry then leads somewhere with is to be defined in it. A
book is marked as finalized as a whole, though. A document that is added after that finds the mark
set and is passed over, by every later reading too.
-/

namespace Bindery

/-! ## The slot of an added document -/

/-- What is pushed stands at the end of its group, where nothing stood before. -/
theorem Table.exists_getElem?_push {κ α : Type} [BEq κ] (k : κ) (a : α) (t : Table κ (List α)) :
    ∃ (i : Nat) (key : κ) (group : List α), (t.push k a)[i]? = some (key, group ++ [a]) ∧
      ∀ other before, t[i]? = some (other, before) → before = group := by
  induction t with
  | nil => exact ⟨0, k, [], rfl, fun other before present => by cases present⟩
  | cons pair rest ih =>
      obtain ⟨other, others⟩ := pair
      rw [push, alter]
      split
      · refine ⟨0, other, others, rfl, fun key before present => ?_⟩
        cases present
        rfl
      · obtain ⟨i, key, group, pushed, before⟩ := ih
        exact ⟨i + 1, key, group, by rwa [List.getElem?_cons_succ],
          by rwa [List.getElem?_cons_succ]⟩

/-! ## What a document counts on -/

/-- Is a document the other one with lines behind it in which each needed name that the registry
leads somewhere with is defined by exactly one line? -/
def Document.IsDefinedIn (d : Document) (registry : Registry) (book : Path)
    (d' : Document) : Prop :=
  ∃ behind : List Line, d' = d.extend behind ∧
    ∀ n ∈ d.references, ∀ entry, registry.lead n = some entry →
      (behind.map Line.text).filter (defines n) =
        [definition n (Registry.seen book (d.place book).parent entry)]

namespace Document

variable {d : Document} {registry : Registry} {book : Path}

theorem isDefinedIn_link (linked : d.linked) : d.IsDefinedIn registry book (d.link registry book) :=
  ⟨d.footer registry book, by rw [link, if_pos linked], fun _ needed _ leads =>
    filter_footer registry book needed leads⟩

/-- A document without more lines is enough if nothing in it leads anywhere. -/
theorem isDefinedIn_self_iff :
    d.IsDefinedIn registry book d ↔ ∀ n ∈ d.references, registry.lead n = none := by
  constructor
  · rintro ⟨behind, same, defined⟩ n needed
    have empty : behind = [] := by
      have bodies := congrArg Document.body same
      exact List.self_eq_append_right.mp bodies
    rw [Option.eq_none_iff_forall_ne_some]
    intro entry leads
    have found := defined n needed entry leads
    rw [empty] at found
    cases found
  · intro nowhere
    refine ⟨[], by rw [extend, List.append_nil], fun n needed entry leads => ?_⟩
    rw [nowhere n needed] at leads
    cases leads

end Document

namespace Book

theorem exists_slot_add (kind : Kind) (d : Document) (b : Book) :
    ∃ slot, b.documentIn slot = none ∧ (b.add kind d).documentIn slot = some d := by
  obtain ⟨i, key, group, pushed, before⟩ := Table.exists_getElem?_push kind d b.documents
  refine ⟨.inGroup i group.length, ?_, ?_⟩
  · rw [documentIn]
    cases here : b.documents[i]? with
    | none => rfl
    | some found => simp [before found.1 found.2 here]
  · show (b.documents.push kind d)[i]?.bind _ = _
    simp [pushed]

/-- Does a reading of the book show the document in the slot, and its text in the file of its
place? -/
def Shows (b : Book) (slot : Slot) (d : Document) : Prop :=
  b.contents.1.documentIn slot = some d ∧
    ∃ texts, (d.place b.directory, Text.joinLines texts) ∈ b.contents.2 ∧ d.text ∈ texts

theorem shows_of_documentIn {b : Book} {slot : Slot} {d : Document}
    (stands : b.finalize.documentIn slot = some d) : b.Shows slot d := by
  have listed : d ∈ b.finalize.allDocuments := mem_allDocuments_iff.mpr ⟨slot, stands⟩
  refine ⟨stands, (b.finalize.documentsAt (d.place b.directory)).map Document.text, ?_, ?_⟩
  · show _ ∈ b.finalize.files
    rw [files_eq]
    refine List.mem_map.mpr ⟨d.place b.directory, ?_, rfl⟩
    rw [List.mem_eraseDups, directory_finalize]
    exact List.mem_map_of_mem listed
  · refine List.mem_map_of_mem (List.mem_filter.mpr ⟨listed, ?_⟩)
    rw [directory_finalize]
    exact beq_self_eq_true _

namespace Operation

/-- The registry that a reading takes first: the one that the first operation that finalizes finds,
and that of the end if there is none. -/
def firstReading : List Operation → Book → Registry
  | [], b => b.registry
  | op :: rest, b => if op.finalizes then b.registry else firstReading rest (op.leave b)

theorem run_concat_contents (ops : List Operation) (b : Book) (s : Session) :
    (run (ops ++ [.contents]) (b, s)).1 = (run ops (b, s)).1.finalize := by
  rw [run, List.foldl_append]
  rfl

/-- What a run leaves for a last reading: footers from the first reading, unless the book was
finalized before. -/
theorem footerSource_concat_contents (ops : List Operation) (b : Book) :
    footerSource (ops ++ [.contents]) b =
      if b.finalized then none else some (firstReading ops b) := by
  induction ops generalizing b with
  | nil => rfl
  | cons op rest ih =>
      rw [List.cons_append, footerSource, firstReading]
      cases frozen : b.finalized with
      | true => rfl
      | false =>
          cases closing : op.finalizes with
          | true => rfl
          | false =>
              have after : (op.leave b).finalized = false := by
                rw [finalized_leave, frozen, closing]
                rfl
              rw [if_neg Bool.false_ne_true, if_neg Bool.false_ne_true, ih, after]
              rfl

variable {b : Book} {slot : Slot} {d : Document}

/-- A document that is there before a run is shown after it, and has its footer unless the book was
finalized before. -/
theorem shows_run (stands : b.documentIn slot = some d) (linked : d.linked)
    (ops : List Operation) (s : Session) :
    ∃ d', (run ops (b, s)).1.Shows slot d' ∧
      (d.IsDefinedIn (firstReading ops b) b.directory d' ↔
        b.finalized = false ∨ ∀ n ∈ d.references, (firstReading ops b).lead n = none) := by
  have kept := documentIn_run (s := s) (ops ++ [.contents]) stands
  rw [run_concat_contents, footerSource_concat_contents] at kept
  refine ⟨_, shows_of_documentIn kept, ?_⟩
  cases frozen : b.finalized with
  | true =>
      rw [if_pos rfl]
      exact Document.isDefinedIn_self_iff.trans (by simp)
  | false =>
      rw [if_neg Bool.false_ne_true]
      exact iff_of_true (Document.isDefinedIn_link linked) (.inl rfl)

end Operation

open Operation

/-- Any operations on any book, then a reading. Documents that were there from the start are shown
with the definitions of their names, unless the book was finalized already or there is nothing to
define. A document that is added in between gets a slot of its own, and is shown with its
definitions exactly if nothing finalized the book before it came or, again, there is nothing to
define. The names are looked up in the registry of the first reading after the document came. -/
theorem documents_are_defined_iff_in_time (b : Book) (s : Session) (first others : List Operation) :
    let before := run first (b, s)
    (∀ slot d, b.documentIn slot = some d → d.linked →
      ∃ d', before.1.Shows slot d' ∧
        (d.IsDefinedIn (firstReading first b) b.directory d' ↔
          b.finalized = false ∨ ∀ n ∈ d.references, (firstReading first b).lead n = none)) ∧
    ∀ kind d, d.linked →
      let arrived := before.1.add kind d
      let registry := firstReading others arrived
      ∃ slot d', before.1.documentIn slot = none ∧ arrived.documentIn slot = some d ∧
        (run others (arrived, before.2)).1.Shows slot d' ∧
        (d.IsDefinedIn registry b.directory d' ↔
          (b.finalized = false ∧ ∀ op ∈ first, op.finalizes = false) ∨
            ∀ n ∈ d.references, registry.lead n = none) := by
  intro before
  refine ⟨fun slot d stands linked => shows_run stands linked first s, ?_⟩
  intro kind d linked arrived registry
  obtain ⟨slot, fresh, stands⟩ := exists_slot_add kind d before.1
  obtain ⟨d', shown, defined⟩ := shows_run stands linked others before.2
  have directory : arrived.directory = b.directory := directory_run first
  have in_time : arrived.finalized = false ↔
      b.finalized = false ∧ ∀ op ∈ first, op.finalizes = false := by
    have marked : arrived.finalized = (b.finalized || first.any finalizes) :=
      finalized_run first b s
    rw [marked, Bool.or_eq_false_iff, List.any_eq_false]
    simp
  refine ⟨slot, d', fresh, stands, shown, ?_⟩
  rw [← directory, ← in_time]
  exact defined

/-- A page that needs a name which every book knows. -/
def textPage : Document := ⟨"late.md", [.scanned "[string]"], true⟩

/-- A book that knows what every book knows. -/
def openBook : Book := blank ⟨.root, ["docs"]⟩ (.withBuiltins [])

/-- The page comes before the book is read, so that its name is defined. -/
theorem textPage_defined_in_time :
    openBook.finalized = false ∧
      ∃ slot d',
        (run [] (openBook.add .objectClass textPage, Compiler.emptySession)).1.Shows slot d' ∧
        textPage.IsDefinedIn (.withBuiltins []) openBook.directory d' := by
  obtain ⟨slot, d', -, -, shown, defined⟩ :=
    (documents_are_defined_iff_in_time openBook Compiler.emptySession [] []).2 .objectClass textPage
      rfl
  exact ⟨rfl, slot, d', shown, defined.mpr (.inl ⟨rfl, by simp⟩)⟩

/-- The page comes when the book was read once. It is shown as it came, although the registry knows
its name. -/
theorem textPage_not_defined_late :
    let late := run [.contents, .add .objectClass textPage] (openBook, Compiler.emptySession)
    late.1.contents.2 = [(⟨.root, ["docs", "late.md"]⟩, "[string]")] ∧
      late.1.Shows (.inGroup 0 0) textPage ∧ "string" ∈ textPage.references ∧
      (late.1.registry.lead "string").isSome ∧
      ¬ textPage.IsDefinedIn late.1.registry late.1.directory textPage := by
  have needed : "string" ∈ textPage.references := by decide
  have leads : ((Registry.withBuiltins []).lead "string").isSome := by decide +kernel
  refine ⟨rfl, shows_of_documentIn rfl, needed, leads, fun defined => ?_⟩
  exact Option.isSome_iff_ne_none.mp leads
    (Document.isDefinedIn_self_iff.mp defined "string" needed)

end Book

end Bindery
