import Bindery.Proofs.Marks
import Bindery.Proofs.Scanning
import Bindery.Proofs.Stopping
import Mathlib.Data.List.Basic

/-!
# Tracked references

A document is written by a run of writers, each of which adds lines at its end. The rows of a table
are verbatim, and every other writer gives lines that are scanned. So what a document needs is what
the scanner finds in its text, once the rows of its tables are taken out of it: lines that a writer
was given together with their line feeds and lines that were cut apart before count alike.
-/

namespace Bindery

/-! ## Lines that are scanned -/

namespace Line

/-- Is the line searched for references? -/
def IsScanned : Line → Prop
  | scanned _ => True
  | verbatim _ => False

theorem flatMap_references_of_scanned {ls : List Line} (scanned : ∀ l ∈ ls, l.IsScanned) :
    ls.flatMap references = (ls.map text).flatMap Token.scan := by
  rw [List.flatMap_map]
  refine List.flatMap_congr fun l listed => ?_
  cases l with
  | scanned text => rfl
  | verbatim text => exact absurd (scanned _ listed) id

theorem flatMap_references_of_verbatim {ls : List Line} (verbatim : ∀ l ∈ ls, ¬ l.IsScanned) :
    ls.flatMap references = [] := by
  rw [List.flatMap_eq_nil_iff]
  intro l listed
  cases l with
  | scanned text => exact absurd trivial (verbatim _ listed)
  | verbatim text => rfl

end Line

/-! ## Runs of writers -/

namespace Writer

open Draft

/-- A writer with its arguments. -/
inductive Call where
  | line (text : String)
  | heading (text : String) (depth : Int)
  | bullet (text : String) (depth : Int)
  | parameter (name : String) (type : TypeExpr) (description : String) (optional : Bool)
  | comment (c : Option Comment)
  | openSection (name : String)
  | block (text : String)
  | table (rows : List (List String))

namespace Call

def draft : Call → Draft Unit
  | line text => Writer.line text
  | heading text depth => Writer.heading text depth
  | bullet text depth => Writer.bullet text depth
  | parameter name type description optional =>
      Writer.parameter name type.text description optional
  | comment c => Writer.comment c
  | openSection name => Writer.openSection name
  | block text => Writer.block text
  | table rows => Writer.table rows

/-- The texts of the lines that the call writes. -/
def lines (c : Call) : List String := c.draft.lines.map Line.text

def isTable : Call → Bool
  | table _ => true
  | _ => false

/-- Are the data among the arguments texts? -/
def isTextual : Call → Bool
  | parameter _ type _ _ => type.isTextual
  | comment c => c.all Comment.isTextual
  | _ => true

theorem endsAt_draft {c : Call} (textual : c.isTextual) : c.draft.EndsAt none := by
  cases c with
  | line text => exact endsAt_line text
  | heading text depth => exact endsAt_heading text depth
  | bullet text depth => exact endsAt_line _
  | parameter name type description optional => exact endsAt_parameter textual _ _ _
  | comment c => exact endsAt_comment textual
  | openSection name => exact endsAt_openSection name
  | block text => exact endsAt_block text
  | table rows => exact endsAt_table rows

/-- Every line that is no row of a table is scanned. -/
theorem writesOnly_draft {c : Call} (prose : c.isTable = false) :
    c.draft.WritesOnly Line.IsScanned := by
  have scanned : ∀ text, Line.IsScanned (.scanned text) := fun _ => trivial
  have left : c.draft.LeavesOnly Line.IsScanned TypeText.logger := by
    cases c with
    | line text => exact leavesOnly_line scanned text
    | heading text depth => exact leavesOnly_heading scanned text depth
    | bullet text depth => exact leavesOnly_line scanned _
    | parameter name type description optional =>
        exact leavesOnly_parameter scanned name description optional type
    | comment c => exact leavesOnly_comment scanned c
    | openSection name => exact leavesOnly_openSection scanned name
    | block text => exact leavesOnly_block scanned text
    | table rows => cases prose
  exact left.lines

theorem writesOnly_table (rows : List (List String)) :
    (Writer.table rows).WritesOnly fun l => ¬ l.IsScanned :=
  (leavesOnly_table fun _ _ _ _ _ => id).lines

/-- A call adds the tokens of its lines, or none if it writes a table. -/
theorem references_draft (c : Call) :
    c.draft.lines.flatMap Line.references = if c.isTable then [] else c.lines.flatMap Token.scan := by
  cases table : c.isTable with
  | false => exact Line.flatMap_references_of_scanned (writesOnly_draft table)
  | true =>
      cases c with
      | table rows => exact Line.flatMap_references_of_verbatim (writesOnly_table rows)
      | _ => cases table

end Call

end Writer

namespace Document

open Writer (Call)

/-- The document with what a call writes, also if it stops on the way. -/
def perform (d : Document) (c : Call) : Document := d.extend c.draft.lines

/-- A fresh document after a run of writers. -/
def written (path : String) (calls : List Call) : Document := calls.foldl perform (blank path)

theorem body_foldl_perform (calls : List Call) (d : Document) :
    (calls.foldl perform d).body = d.body ++ calls.flatMap fun c => c.draft.lines := by
  induction calls generalizing d with
  | nil => exact (List.append_nil _).symm
  | cons c rest ih => rw [List.foldl_cons, ih, List.flatMap_cons, ← List.append_assoc]; rfl

theorem lines_written (path : String) (calls : List Call) :
    (written path calls).lines = calls.flatMap Call.lines := by
  rw [lines, written, body_foldl_perform, List.map_append, List.map_flatMap]
  rfl

theorem references_written (path : String) (calls : List Call) :
    (written path calls).references =
      (calls.filter fun c => !c.isTable).flatMap fun c => c.lines.flatMap Token.scan := by
  have gathered : (written path calls).references =
      calls.flatMap fun c => c.draft.lines.flatMap Line.references := by
    rw [references, written, body_foldl_perform, List.flatMap_append, List.flatMap_assoc]
    rfl
  rw [gathered]
  clear gathered
  induction calls with
  | nil => rfl
  | cons c rest ih =>
      rw [List.flatMap_cons, ih, Call.references_draft, List.filter_cons]
      cases c.isTable with
      | true => rfl
      | false => rfl

/-- A fresh document after any run of writers, also one in which writers stopped on the way: it needs
exactly the tokens of its text without the rows of its tables, in order. Without tables these are the
tokens of its text. A writer whose arguments are texts does not stop, and a text that is written line
by line is the text of the document. -/
theorem references_are_tokens_of_text (path : String) (calls : List Call) :
    let d := written path calls
    d.lines = calls.flatMap Call.lines ∧
      d.references = Token.scan
        (Text.joinLines ((calls.filter fun c => !c.isTable).flatMap Call.lines)) ∧
      ((∀ c ∈ calls, c.isTable = false) → d.references = Token.scan d.text) ∧
      (∀ c ∈ calls, c.isTextual → c.draft.outcome = .ok ()) ∧
      ∀ text, (written path [.block text]).text = text := by
  intro d
  have lines : d.lines = calls.flatMap Call.lines := lines_written path calls
  have prose : d.references = Token.scan
      (Text.joinLines ((calls.filter fun c => !c.isTable).flatMap Call.lines)) := by
    rw [Token.scan_joinLines, List.flatMap_assoc]
    exact references_written path calls
  refine ⟨lines, prose, ?_, ?_, ?_⟩
  · intro untabled
    have all : (calls.filter fun c => !c.isTable) = calls :=
      List.filter_eq_self.mpr fun c listed => by rw [untabled c listed]; rfl
    rw [prose, all, ← lines]
    rfl
  · exact fun c _ textual => (Call.endsAt_draft textual).outcome_eq_ok
  · intro text
    have cut : Call.lines (.block text) = Text.lines text := by
      have kept : ∀ lines : List String,
          (Draft.forEach Writer.line lines).lines.map Line.text = lines := by
        intro lines
        induction lines with
        | nil => rfl
        | cons line rest ih => exact congrArg (line :: ·) ih
      exact kept _
    have whole : (written path [.block text]).lines = Text.lines text := by
      rw [lines_written, List.flatMap_singleton, cut]
    rw [Document.text, whole, Text.joinLines_lines]

/-- Brackets that close on another line make no token, and neither do the cells of a table. -/
theorem references_of_broken_brackets :
    let prose : List Call := [.line "see [Page\n] or [Frame]", .block "[Key]\n[Mouse\nButtons]"]
    (written "api/Foo.md" prose).references = Token.scan (written "api/Foo.md" prose).text ∧
      (written "api/Foo.md" prose).references = ["Frame", "Key"] ∧
      (written "api/Foo.md" (prose ++ [.table [["[Name]"], ["[Row]"]]])).references =
        ["Frame", "Key"] := by
  intro prose
  obtain ⟨-, first, whole, -⟩ := references_are_tokens_of_text "api/Foo.md" prose
  obtain ⟨-, tabled, -⟩ := references_are_tokens_of_text "api/Foo.md"
    (prose ++ [.table [["[Name]"], ["[Row]"]]])
  refine ⟨whole (by decide), first.trans ?_, tabled.trans ?_⟩
  · decide +kernel
  · decide +kernel

end Document

end Bindery
