import Bindery.Compiler
import Bindery.Proofs.Drafting

/-!
# What drafts leave

The text of a type writes no lines, and logs nothing but types without a text. The writers of a
document write scanned lines, but for the rows of tables, and a table of enumeration members has
three cells in each row. What every step of a sequence leaves, the sequence leaves, so that the lines
and the entries are followed in one walk along the types, the writers and the entities.
-/

namespace Bindery

namespace Draft

variable {α β : Type} {kind : Line → Prop} {logger : String}

/-- Is every line that the draft writes of the kind? -/
def WritesOnly (kind : Line → Prop) (d : Draft α) : Prop := ∀ l ∈ d.lines, kind l

/-- Has every entry that the draft logs the logger? -/
def LogsAs (logger : String) (d : Draft α) : Prop := ∀ e ∈ d.entries, e.logger = logger

/-- Does the draft leave nothing but lines of the kind and entries of the logger? -/
structure LeavesOnly (kind : Line → Prop) (logger : String) (d : Draft α) : Prop where
  lines : d.WritesOnly kind
  entries : d.LogsAs logger

/-! ## Steps -/

theorem leavesOnly_pure (a : α) : (pure a : Draft α).LeavesOnly kind logger := ⟨nofun, nofun⟩

theorem leavesOnly_fail (fault : Fault) : (fail fault : Draft α).LeavesOnly kind logger :=
  ⟨nofun, nofun⟩

theorem leavesOnly_ofExcept (outcome : Except Fault α) :
    (ofExcept outcome).LeavesOnly kind logger := ⟨nofun, nofun⟩

theorem leavesOnly_write {l : Line} (fits : kind l) : (write l).LeavesOnly kind logger :=
  ⟨List.forall_mem_singleton.mpr fits, nofun⟩

theorem leavesOnly_log (level : Log.Level) (part message : String) :
    (log level part message).LeavesOnly kind (Log.loggerName part) :=
  ⟨nofun, List.forall_mem_singleton.mpr rfl⟩

/-! ## Sequences -/

/-- The second step has to be followed only from where the first one ends well. -/
theorem LeavesOnly.andThen {d : Draft α} {next : α → Draft β} (first : d.LeavesOnly kind logger)
    (goesOn : ∀ a, d.outcome = .ok a → (next a).LeavesOnly kind logger) :
    (d >>= next).LeavesOnly kind logger := by
  cases ended : d.outcome with
  | error fault =>
      rw [bind_of_error ended]
      exact ⟨first.lines, first.entries⟩
  | ok a =>
      have second := goesOn a ended
      constructor
      · rw [WritesOnly, lines_bind_of_ok ended]
        exact List.forall_mem_append.mpr ⟨first.lines, second.lines⟩
      · rw [LogsAs, entries_bind_of_ok ended]
        exact List.forall_mem_append.mpr ⟨first.entries, second.entries⟩

theorem LeavesOnly.bind {d : Draft α} {next : α → Draft β} (first : d.LeavesOnly kind logger)
    (goesOn : ∀ a, (next a).LeavesOnly kind logger) : (d >>= next).LeavesOnly kind logger :=
  first.andThen fun a _ => goesOn a

theorem leavesOnly_each {f : α → Draft β} (step : ∀ a, (f a).LeavesOnly kind logger)
    (items : List α) : (each f items).LeavesOnly kind logger := by
  induction items with
  | nil => exact leavesOnly_pure []
  | cons a rest ih => exact (step a).bind fun _ => ih.bind fun _ => leavesOnly_pure _

theorem leavesOnly_forEach {f : α → Draft Unit} {items : List α}
    (step : ∀ a ∈ items, (f a).LeavesOnly kind logger) :
    (forEach f items).LeavesOnly kind logger := by
  induction items with
  | nil => exact leavesOnly_pure ()
  | cons a rest ih =>
      obtain ⟨first, others⟩ := List.forall_mem_cons.mp step
      exact first.bind fun _ => ih others

/-- Captured lines are not written. -/
theorem LeavesOnly.capture {other : Line → Prop} {d : Draft α} (inside : d.LeavesOnly kind logger) :
    d.capture.LeavesOnly other logger := by
  constructor
  · rw [WritesOnly, lines_capture]
    exact nofun
  · rw [LogsAs, entries_capture]
    exact inside.entries

end Draft

open Draft

/-! ## Types -/

/-- The logger of types without a text. -/
abbrev TypeText.logger : String := Log.loggerName component

open TypeText (logger)

section Types

variable {kind : Line → Prop}

theorem TypeText.leavesOnly_refuse (message : String) : (refuse message).LeavesOnly kind logger :=
  (leavesOnly_log _ _ _).bind fun _ => leavesOnly_pure _

theorem TypeText.leavesOnly_named (name : Value) {arguments : Draft (List Value)}
    (inside : arguments.LeavesOnly kind logger) :
    (named name arguments).LeavesOnly kind logger := by
  unfold named
  split
  · exact inside.bind fun _ => (leavesOnly_ofExcept _).bind fun _ => leavesOnly_pure _
  · exact leavesOnly_pure _

mutual

/-- The text of a type writes no lines: they may be said to be of any kind. -/
theorem TypeExpr.leavesOnly_text (type : TypeExpr) : type.text.LeavesOnly kind logger := by
  cases type with
  | intrinsic name => exact leavesOnly_pure _
  | literal value => exact leavesOnly_pure _
  | array element => exact (TypeExpr.leavesOnly_text element).bind fun _ => leavesOnly_pure _
  | union members =>
      exact (TypeExpr.leavesOnly_texts members).bind fun _ =>
        (leavesOnly_ofExcept _).bind fun _ => leavesOnly_pure _
  | reference name arguments =>
      exact TypeText.leavesOnly_named name (TypeExpr.leavesOnly_texts arguments)
  | inline declaration => exact Node.leavesOnly_declarationText declaration
  | unknown tag => exact TypeText.leavesOnly_refuse _

theorem TypeExpr.leavesOnly_texts (types : List TypeExpr) :
    (TypeExpr.texts types).LeavesOnly kind logger := by
  cases types with
  | nil => exact leavesOnly_pure []
  | cons type rest =>
      exact (TypeExpr.leavesOnly_text type).bind fun _ =>
        (TypeExpr.leavesOnly_texts rest).bind fun _ => leavesOnly_pure _

theorem TypeExpr.leavesOnly_textOrEmpty (type : Option TypeExpr) :
    (TypeExpr.textOrEmpty type).LeavesOnly kind logger := by
  cases type with
  | none => exact leavesOnly_pure _
  | some type => exact TypeExpr.leavesOnly_text type

theorem Node.leavesOnly_declarationText (declaration : Node) :
    declaration.declarationText.LeavesOnly kind logger := by
  obtain ⟨name, kindName, comment, children, signatures, parameters, type, optional, value⟩ :=
    declaration
  unfold Node.declarationText
  split
  · split
    · exact (Node.leavesOnly_memberTexts _).bind fun _ => leavesOnly_pure _
    · exact TypeExpr.leavesOnly_textOrEmpty _
    · exact TypeText.leavesOnly_refuse _
  · exact TypeText.leavesOnly_refuse _

theorem Node.leavesOnly_memberTexts (nodes : List Node) :
    (Node.memberTexts nodes).LeavesOnly kind logger := by
  cases nodes with
  | nil => exact leavesOnly_pure []
  | cons node rest =>
      obtain ⟨_, _, _, _, _, _, type, _, _⟩ := node
      exact (TypeExpr.leavesOnly_textOrEmpty type).bind fun _ =>
        (Node.leavesOnly_memberTexts rest).bind fun _ => leavesOnly_pure _

end

theorem TypeExpr.lines_text (type : TypeExpr) : type.text.lines = [] := by
  have none : type.text.LeavesOnly (fun _ => False) logger := TypeExpr.leavesOnly_text type
  exact List.eq_nil_iff_forall_not_mem.mpr none.lines

end Types

/-! ## Writers -/

section Scanned

variable {kind : Line → Prop} (scanned : ∀ text, kind (.scanned text))
include scanned

namespace Writer

theorem leavesOnly_line (text : String) : (line text).LeavesOnly kind logger :=
  leavesOnly_write (scanned text)

theorem leavesOnly_dataLine (v : Value) : (dataLine v).LeavesOnly kind logger :=
  (leavesOnly_ofExcept _).bind (leavesOnly_line scanned)

theorem leavesOnly_heading (text : String) (depth : Int) :
    (heading text depth).LeavesOnly kind logger :=
  leavesOnly_line scanned _

theorem leavesOnly_openSection (name : String) : (openSection name).LeavesOnly kind logger := by
  refine (leavesOnly_line scanned sectionRule).bind fun _ => ?_
  exact (leavesOnly_heading scanned name 1).bind fun _ => leavesOnly_line scanned ""

theorem leavesOnly_block (text : String) : (block text).LeavesOnly kind logger :=
  leavesOnly_forEach fun text _ => leavesOnly_line scanned text

theorem leavesOnly_parameter (name description : String) (optional : Bool) (type : TypeExpr) :
    (parameter name type.text description optional).LeavesOnly kind logger :=
  type.leavesOnly_text.bind fun _ => leavesOnly_line scanned _

theorem leavesOnly_comment (comment : Option Comment) :
    (Writer.comment comment).LeavesOnly kind logger := by
  cases comment with
  | none => exact leavesOnly_pure ()
  | some c =>
      have long : (if c.long.isTruthy then dataLine c.long else pure ()).LeavesOnly kind logger := by
        split
        · exact leavesOnly_dataLine scanned c.long
        · exact leavesOnly_pure ()
      unfold Writer.comment
      dsimp only
      split
      · refine (leavesOnly_dataLine scanned c.short).bind fun _ => ?_
        exact (leavesOnly_line scanned "").bind fun _ => long
      · exact (leavesOnly_pure ()).bind fun _ => long

end Writer

/-! ## Members of entities -/

namespace Entity

theorem leavesOnly_parameterLine (p : Parameter) : (parameterLine p).LeavesOnly kind logger := by
  unfold parameterLine
  split
  · split
    · exact leavesOnly_pure ()
    · exact Writer.leavesOnly_parameter scanned _ _ _ _
  · exact leavesOnly_pure ()

theorem leavesOnly_result (type : Option TypeExpr) : (result type).LeavesOnly kind logger := by
  cases type with
  | none => exact leavesOnly_pure ()
  | some type => exact Writer.leavesOnly_parameter scanned _ _ _ _

theorem leavesOnly_signature (owner : String) (node : Node) :
    (signature owner node).LeavesOnly kind logger := by
  have described : (each describe node.parameters).LeavesOnly kind logger :=
    leavesOnly_each (fun _ => (leavesOnly_ofExcept _).bind fun _ => leavesOnly_pure _) _
  refine described.bind fun parameters => ?_
  refine (Writer.leavesOnly_heading scanned _ _).bind fun _ => ?_
  refine (leavesOnly_forEach fun p _ => leavesOnly_parameterLine scanned p).bind fun _ => ?_
  refine (leavesOnly_result scanned node.type).bind fun _ => ?_
  refine (Writer.leavesOnly_line scanned "").bind fun _ => ?_
  exact Writer.leavesOnly_comment scanned node.comment

theorem leavesOnly_method (owner : String) (node : Node) :
    (method owner node).LeavesOnly kind logger :=
  (leavesOnly_ofExcept _).bind fun _ =>
    leavesOnly_forEach fun node _ => leavesOnly_signature scanned owner node

theorem leavesOnly_property (owner : String) (node : Node) :
    (property owner node).LeavesOnly kind logger := by
  unfold property
  split
  · exact leavesOnly_fail _
  · exact (leavesOnly_ofExcept _).bind fun _ => Writer.leavesOnly_parameter scanned _ _ _ _

end Entity

end Scanned

/-! ## Tables -/

theorem Writer.leavesOnly_table {kind : Line → Prop} {rows : List (List String)}
    (fits : ∀ header rest, rows = header :: rest →
      ∀ cells ∈ header :: header.map (fun _ => "---") :: rest, kind (.verbatim (row cells))) :
    (table rows).LeavesOnly kind logger := by
  cases rows with
  | nil => exact leavesOnly_pure ()
  | cons header rest =>
      obtain ⟨first, below⟩ := List.forall_mem_cons.mp (fits header rest rfl)
      obtain ⟨second, others⟩ := List.forall_mem_cons.mp below
      refine (leavesOnly_write first).bind fun _ => (leavesOnly_write second).bind fun _ => ?_
      exact leavesOnly_forEach fun cells listed => leavesOnly_write (others cells listed)

namespace Entity

theorem memberRow_eq_ok {node : Node} {cells : List String}
    (done : (memberRow node).outcome = .ok cells) :
    ∃ name value comment, cells = [name, value, comment] := by
  obtain ⟨comment, -, given⟩ := bind_eq_ok_iff.mp done
  cases given
  exact ⟨code node.name, node.defaultValue.getD "", comment, rfl⟩

variable {kind : Line → Prop}
  (rows : ∀ name value comment, kind (.verbatim (Writer.row [name, value, comment])))

include rows in
/-- A table of members is written as a whole, or not at all where a comment cannot be read. -/
theorem leavesOnly_memberTable (members : List Node) :
    (memberTable members).LeavesOnly kind logger := by
  cases members with
  | nil => exact leavesOnly_pure ()
  | cons first rest =>
      have read : (each memberRow (first :: rest)).LeavesOnly kind logger :=
        leavesOnly_each (fun _ => (leavesOnly_ofExcept _).bind fun _ => leavesOnly_pure _) _
      refine read.andThen fun body ended => ?_
      have shaped : ∀ cells ∈ body, ∃ name value comment, cells = [name, value, comment] :=
        forall_of_forall₂ ((each_eq_ok_iff.mp ended).imp fun _ _ => memberRow_eq_ok)
      refine Writer.leavesOnly_table ?_
      rintro _ _ ⟨⟩ cells listed
      have three : ∃ name value comment, cells = [name, value, comment] := by
        rcases List.mem_cons.mp listed with rfl | below
        · exact ⟨_, _, _, rfl⟩
        · rcases List.mem_cons.mp below with rfl | inBody
          · exact ⟨_, _, _, rfl⟩
          · exact shaped cells inBody
      obtain ⟨name, value, comment, rfl⟩ := three
      exact rows name value comment

include rows in
/-- The lines of a class-like entity are scanned, or rows of three cells. -/
theorem leavesOnly_classLike (scanned : ∀ text, kind (.scanned text)) (node : Node) :
    (classLike node).LeavesOnly kind logger := by
  have commented := Writer.leavesOnly_comment scanned node.comment
  refine (Writer.leavesOnly_openSection scanned _).bind fun _ => commented.bind fun _ => ?_
  refine (leavesOnly_forEach fun n _ => leavesOnly_method scanned node.name n).bind fun _ => ?_
  refine (leavesOnly_forEach fun n _ => leavesOnly_property scanned node.name n).bind fun _ => ?_
  refine (leavesOnly_memberTable rows _).bind fun _ => ?_
  exact (Writer.leavesOnly_line scanned "").bind fun _ => commented

theorem eq_of_draft? {kind : Kind} {draft : Node → Draft Unit}
    (drafted : draft? kind = some draft) :
    draft = classLike ∨ draft = function ∨ draft = typeAlias := by
  cases kind <;> simp_all [draft?]

/-- Drafting an entity logs nothing but types without a text. -/
theorem leavesOnly_draft {kind : Kind} {draft : Node → Draft Unit}
    (drafted : draft? kind = some draft) (node : Node) :
    (draft node).LeavesOnly (fun _ => True) logger := by
  rcases eq_of_draft? drafted with rfl | rfl | rfl
  · exact leavesOnly_classLike (fun _ _ _ => trivial) (fun _ => trivial) node
  · exact leavesOnly_method (fun _ => trivial) "" node
  · exact Writer.leavesOnly_heading (fun _ => trivial) _ _

end Entity

/-! ## Pages -/

/-- The logger of pages. -/
abbrev FrontMatter.logger : String := Log.loggerName component

theorem FrontMatter.leavesOnly_read (source text : String) :
    (read source text).LeavesOnly (fun _ => False) logger := by
  unfold read
  split
  · exact leavesOnly_pure []
  · split
    · exact leavesOnly_pure _
    · exact leavesOnly_pure []
    · exact (leavesOnly_log _ _ _).bind fun _ => leavesOnly_pure _
    · exact leavesOnly_fail _

theorem Example.leavesOnly_ofPath? (t : FileTree) (directory p : Path) :
    (ofPath? t directory p).LeavesOnly (fun _ => False) FrontMatter.logger := by
  refine (leavesOnly_ofExcept _).bind fun isFile => ?_
  split
  · refine (leavesOnly_ofExcept _).bind fun text => ?_
    refine (FrontMatter.leavesOnly_read _ text).bind fun found => ?_
    dsimp only
    split
    · split
      · exact leavesOnly_pure _
      · exact leavesOnly_fail _
    · exact (leavesOnly_log _ _ _).bind fun _ => leavesOnly_pure _
  · exact leavesOnly_pure _

theorem Example.leavesOnly_discover (t : FileTree) (directory : Path) (pattern : String) :
    (discover t directory pattern).LeavesOnly (fun _ => False) FrontMatter.logger := by
  refine (leavesOnly_ofExcept _).bind fun paths => ?_
  exact (leavesOnly_each (leavesOnly_ofPath? t directory) paths).bind fun _ => leavesOnly_pure _

/-- Making the generated pages writes nothing, and logs nothing but pages. -/
theorem Compiler.leavesOnly_generated (c : Compiler) (t : FileTree) (b : Book) :
    (c.generated t b).LeavesOnly (fun _ => False) FrontMatter.logger :=
  (Example.leavesOnly_discover _ _ _).bind fun _ =>
    (leavesOnly_ofExcept _).bind fun _ => (leavesOnly_ofExcept _).bind fun _ => leavesOnly_pure _

end Bindery
