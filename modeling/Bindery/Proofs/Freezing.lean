import Bindery.Proofs.Assembly

/-!
# Frozen documents

A book is worked on by adding documents, registering names, finalizing, and reading or writing its
contents, in any order. Documents keep their slots. The first operation that finalizes gives each
document that is there its footer, from the registry as it is then; after that no document changes,
whatever is registered or added.
-/

namespace Bindery

/-! ## Slots -/

/-- Pushing into a group leaves every group in its place and only adds at the end of it. -/
theorem Table.getElem?_push {κ α : Type} [BEq κ] (k : κ) (a : α) {t : Table κ (List α)} {i : Nat}
    {key : κ} {group : List α} (present : t[i]? = some (key, group)) :
    ∃ more, (t.push k a)[i]? = some (key, group ++ more) := by
  induction t generalizing i with
  | nil => cases present
  | cons pair rest ih =>
      obtain ⟨other, others⟩ := pair
      rw [push, alter]
      cases i with
      | zero =>
          cases present
          split
          · exact ⟨[a], rfl⟩
          · exact ⟨[], by rw [List.append_nil]; rfl⟩
      | succ i =>
          rw [List.getElem?_cons_succ] at present
          split
          · exact ⟨[], by rw [List.append_nil, List.getElem?_cons_succ, present]⟩
          · rw [List.getElem?_cons_succ]
            exact ih present

namespace Book

/-- Where a document stands in a book: in a group, or as the summary. -/
inductive Slot where
  | inGroup (group i : Nat)
  | summary

/-- The document in a slot. -/
def documentIn (b : Book) : Slot → Option Document
  | .inGroup group i => b.documents[group]?.bind fun found => found.2[i]?
  | .summary => b.summary

/-- Every document of a book stands in a slot, and nothing else does. -/
theorem mem_allDocuments_iff {b : Book} {d : Document} :
    d ∈ b.allDocuments ↔ ∃ slot, b.documentIn slot = some d := by
  rw [allDocuments, List.mem_append, List.mem_flatten, Option.mem_toList]
  constructor
  · rintro (⟨group, listed, present⟩ | summary)
    · obtain ⟨pair, known, rfl⟩ := List.mem_map.mp listed
      obtain ⟨i, at_group⟩ := List.mem_iff_getElem?.mp known
      obtain ⟨j, at_document⟩ := List.mem_iff_getElem?.mp present
      exact ⟨.inGroup i j, by rw [documentIn, at_group]; exact at_document⟩
    · exact ⟨.summary, summary⟩
  · rintro ⟨slot, stands⟩
    cases slot with
    | inGroup i j =>
        obtain ⟨pair, at_group, at_document⟩ := Option.bind_eq_some_iff.mp stands
        refine .inl ⟨pair.2, List.mem_map_of_mem (List.mem_of_getElem? at_group), ?_⟩
        exact List.mem_of_getElem? at_document
    | summary => exact .inr stands

theorem documentIn_add (kind : Kind) (new : Document) {b : Book} {slot : Slot} {d : Document}
    (stands : b.documentIn slot = some d) : (b.add kind new).documentIn slot = some d := by
  cases slot with
  | inGroup i j =>
      obtain ⟨⟨key, group⟩, at_group, at_document⟩ := Option.bind_eq_some_iff.mp stands
      obtain ⟨more, kept⟩ := Table.getElem?_push kind new at_group
      have before : j < group.length := (List.getElem?_eq_some_iff.mp at_document).1
      show (b.documents.push kind new)[i]?.bind _ = _
      rw [kept, Option.bind_some, List.getElem?_append_left before]
      exact at_document
  | summary => exact stands

theorem documentIn_finalize {b : Book} (fresh : b.finalized = false) (slot : Slot) :
    b.finalize.documentIn slot =
      (b.documentIn slot).map (Document.link b.registry b.directory) := by
  rw [finalize, if_neg (by simp [fresh])]
  cases slot with
  | inGroup i j =>
      rw [documentIn, documentIn, List.getElem?_map]
      cases b.documents[i]? with
      | none => rfl
      | some found => simp
  | summary => rfl

/-! ## Operations -/

/-- What can be done with a book. -/
inductive Operation where
  | add (kind : Kind) (d : Document)
  | register (name target : String) (title : Option String)
  | finalize
  | contents
  | write

namespace Operation

/-- The book that an operation leaves. A book is finalized before its contents are read or written,
and stays so if they cannot be written. -/
def leave : Operation → Book → Book
  | add kind d, b => b.add kind d
  | register name target title, b => b.register name target title
  | finalize, b => b.finalize
  | contents, b => b.contents.1
  | write, b => b.finalize

/-- The session that an operation leaves: only writing changes it. -/
def leaveSession : Operation → Book → Session → Session
  | write, b, s => (b.write.on s).1
  | _, _, s => s

/-- Performs operations one after another. -/
def run (ops : List Operation) (state : Book × Session) : Book × Session :=
  ops.foldl (fun (b, s) op => (op.leave b, op.leaveSession b s)) state

/-- Does the operation finalize the book? -/
def finalizes : Operation → Bool
  | finalize | contents | write => true
  | _ => false

def isAdd : Operation → Bool
  | add _ _ => true
  | _ => false

/-! ## One operation -/

theorem directory_leave (op : Operation) (b : Book) : (op.leave b).directory = b.directory := by
  cases op with
  | add | register => rfl
  | finalize | contents | write => exact directory_finalize b

theorem finalized_leave (op : Operation) (b : Book) :
    (op.leave b).finalized = (b.finalized || op.finalizes) := by
  cases op with
  | add | register => exact (Bool.or_false _).symm
  | finalize | contents | write => exact (finalize_finalized b).trans (Bool.or_true _).symm

/-- An operation that does not finalize leaves the documents as they are. -/
theorem documentIn_leave {op : Operation} (stays : op.finalizes = false) {b : Book} {slot : Slot}
    {d : Document} (stands : b.documentIn slot = some d) :
    (op.leave b).documentIn slot = some d := by
  cases op with
  | add kind new => exact documentIn_add kind new stands
  | register name target title => cases slot <;> exact stands
  | finalize | contents | write => cases stays

theorem leave_of_finalizes {op : Operation} (closing : op.finalizes) (b : Book) :
    op.leave b = b.finalize := by
  cases op with
  | add | register => cases closing
  | finalize | contents | write => rfl

/-- A finalized book stays as it is, but for its registry and what is added to it. -/
theorem leave_of_finalized {op : Operation} {b : Book} (frozen : b.finalized)
    (closed : op.isAdd = false) : ∃ registry, op.leave b = { b with registry := registry } := by
  have same : b.finalize = b := by rw [Book.finalize, if_pos frozen]
  cases op with
  | add kind d => cases closed
  | register name target title => exact ⟨_, rfl⟩
  | finalize | contents | write => exact ⟨b.registry, same⟩

/-! ## Runs -/

/-- The registry from which a run takes the footers, if it adds any: the one that its first operation
that finalizes finds. -/
def footerSource : List Operation → Book → Option Registry
  | [], _ => none
  | op :: rest, b =>
      if b.finalized then none
      else if op.finalizes then some b.registry
      else footerSource rest (op.leave b)

theorem footerSource_of_finalized (ops : List Operation) {b : Book} (frozen : b.finalized) :
    footerSource ops b = none := by
  cases ops with
  | nil => rfl
  | cons op rest => rw [footerSource, if_pos frozen]

/-- A document after a run that takes the footers from a registry, or that adds none. -/
def closed (footers : Option Registry) (directory : Path) (d : Document) : Document :=
  match footers with
  | some registry => d.link registry directory
  | none => d

variable {b : Book} {s : Session} {slot : Slot} {d : Document}

/-- A run keeps each document in its slot and gives it at most one footer. -/
theorem documentIn_run (ops : List Operation) (stands : b.documentIn slot = some d) :
    (run ops (b, s)).1.documentIn slot =
      some (closed (footerSource ops b) b.directory d) := by
  induction ops generalizing b s d with
  | nil => exact stands
  | cons op rest ih =>
      have step : (run (op :: rest) (b, s)) = run rest (op.leave b, op.leaveSession b s) := rfl
      rw [step, footerSource]
      cases frozen : b.finalized with
      | true =>
          have after : (op.leave b).finalized := by rw [finalized_leave, frozen]; rfl
          have kept : (op.leave b).documentIn slot = some d := by
            cases closing : op.finalizes with
            | false => exact documentIn_leave closing stands
            | true =>
                rw [leave_of_finalizes closing, Book.finalize, if_pos frozen]
                exact stands
          rw [ih kept, footerSource_of_finalized rest after]
          rfl
      | false =>
          rw [if_neg Bool.false_ne_true]
          cases closing : op.finalizes with
          | false =>
              rw [if_neg Bool.false_ne_true, ih (documentIn_leave closing stands), directory_leave]
          | true =>
              have after : (op.leave b).finalized := by rw [finalized_leave, closing, Bool.or_true]
              have linked : (op.leave b).documentIn slot = some (d.link b.registry b.directory) := by
                rw [leave_of_finalizes closing, documentIn_finalize frozen, stands]
                rfl
              rw [if_pos rfl, ih linked, footerSource_of_finalized rest after]
              rfl

theorem directory_run (ops : List Operation) : (run ops (b, s)).1.directory = b.directory := by
  induction ops generalizing b s with
  | nil => rfl
  | cons op rest ih => exact ih.trans (directory_leave op b)

theorem finalized_run (ops : List Operation) (b : Book) (s : Session) :
    (run ops (b, s)).1.finalized = (b.finalized || ops.any finalizes) := by
  induction ops generalizing b s with
  | nil => exact (Bool.or_false _).symm
  | cons op rest ih =>
      show (run rest (op.leave b, op.leaveSession b s)).1.finalized = _
      rw [ih, finalized_leave, List.any_cons, Bool.or_assoc]

theorem run_of_finalized {ops : List Operation} (frozen : b.finalized)
    (closed : ∀ op ∈ ops, op.isAdd = false) :
    ∃ registry, (run ops (b, s)).1 = { b with registry := registry } := by
  induction ops generalizing b s with
  | nil => exact ⟨b.registry, rfl⟩
  | cons op rest ih =>
      obtain ⟨registry, left⟩ := leave_of_finalized frozen (closed op List.mem_cons_self)
      have after : (op.leave b).finalized := by rw [finalized_leave, frozen]; rfl
      obtain ⟨last, ends⟩ := ih (s := op.leaveSession b s) after
        fun later listed => closed later (List.mem_cons_of_mem _ listed)
      refine ⟨last, ?_⟩
      show (run rest (op.leave b, op.leaveSession b s)).1 = _
      rw [ends, left]

end Operation

end Book

/-! ## Footers -/

/-- A document with a footer begins with its lines as they were. -/
theorem Document.lines_prefix_link (registry : Registry) (book : Path) (d : Document) :
    d.lines <+: (d.link registry book).lines := by
  unfold link
  split
  · rw [lines_extend]
    exact List.prefix_append _ _
  · exact List.prefix_rfl

namespace Book

open Operation

/-- A book on which any operations are performed, first some and then others. A document that is there
after the first ones keeps its slot. The others add at most one footer to it, from the registry that
the first of them that finalizes finds, and otherwise leave its lines and its references alone; they
add none if the book was finalized before. Contents that are read twice are the same in the same
order if nothing was added in between, whatever was registered. -/
theorem footers_are_added_once (b : Book) (s : Session) (first others : List Operation) :
    let middle := run first (b, s)
    let final := run others middle
    (∀ d, d ∈ middle.1.allDocuments ↔ ∃ slot, middle.1.documentIn slot = some d) ∧
      (∀ slot d, middle.1.documentIn slot = some d →
        ∃ d', final.1.documentIn slot = some d' ∧
          d' = closed (footerSource others middle.1) b.directory d ∧
          d.lines <+: d'.lines ∧ d'.references = d.references) ∧
      (b.finalized ∨ (∃ op ∈ first, op.finalizes) →
        ∀ slot d, middle.1.documentIn slot = some d → final.1.documentIn slot = some d) ∧
      ((∀ op ∈ others, op.isAdd = false) →
        (run (.contents :: others) middle).1.contents.2 = middle.1.contents.2) := by
  have directory : (run first (b, s)).1.directory = b.directory := directory_run first
  have frozen (closing : b.finalized ∨ ∃ op ∈ first, op.finalizes) :
      (run first (b, s)).1.finalized := by
    rwa [finalized_run, Bool.or_eq_true, List.any_eq_true]
  generalize run first (b, s) = middle at directory frozen
  dsimp only
  refine ⟨fun d => mem_allDocuments_iff, ?_, ?_, ?_⟩
  · intro slot d stands
    refine ⟨_, documentIn_run others stands, by rw [directory], ?_⟩
    cases footerSource others middle.1 with
    | none => exact ⟨List.prefix_rfl, rfl⟩
    | some registry =>
        exact ⟨Document.lines_prefix_link registry _ d, d.references_link registry _⟩
  · intro closing slot d stands
    rw [documentIn_run others stands, footerSource_of_finalized others (frozen closing)]
    rfl
  · intro unadded
    have finalized : middle.1.contents.1.finalized := finalize_finalized middle.1
    obtain ⟨registry, same⟩ := run_of_finalized (s := middle.2) finalized unadded
    have read : (run (.contents :: others) middle).1 =
        { middle.1.contents.1 with registry := registry } := same
    -- The files are those of the documents: the registry is not looked at again.
    rw [read, contents, contents, finalize, if_pos (by exact finalized)]
    rfl

/-- A footer from the first of two registrations: the second one comes after the book was read. -/
theorem footer_stays_after_registration :
    let d : Document := ⟨"Foo.md", [.scanned "[Bar]"], true⟩
    let linked : Document :=
      ⟨"Foo.md", [.scanned "[Bar]", .verbatim "", .verbatim "[Bar]: first"], true⟩
    let first := [.add .objectClass d, .register "Bar" "first" none, .contents]
    let others := [.register "Bar" "second" none, .write]
    let middle := run first (blank ⟨.root, ["book"]⟩ .empty, Compiler.emptySession)
    middle.1.documentIn (.inGroup 0 0) = some linked ∧
      (run others middle).1.documentIn (.inGroup 0 0) = some linked ∧
      (run (.contents :: others) middle).1.contents.2 = middle.1.contents.2 := by
  intro d linked first others middle
  obtain ⟨-, -, frozen, same⟩ :=
    footers_are_added_once (blank ⟨.root, ["book"]⟩ .empty) Compiler.emptySession first others
  have stands : middle.1.documentIn (.inGroup 0 0) = some linked := by
    simp only [middle, first, linked, d]
    decide +kernel
  have closing : ∃ op ∈ first, op.finalizes :=
    ⟨.contents, by simp [first], rfl⟩
  exact ⟨stands, frozen (.inr closing) _ _ stands, same (by simp [others, isAdd])⟩

end Book

end Bindery
