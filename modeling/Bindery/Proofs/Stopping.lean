import Bindery.Document.Writer
import Bindery.Proofs.TypeTexts

/-!
# Where drafts stop

Of steps that follow one another the first one that stops decides, so that the end of a run is read
off the ends of its steps. A draft of textual data stops only at a defect of its record, and the
writers have none of their own: on texts each of them gives a result.
-/

namespace Bindery

theorem findSome?_cons_eq_or {α β : Type} (f : α → Option β) (a : α) (rest : List α) :
    (a :: rest).findSome? f = (f a).or (rest.findSome? f) := by
  rw [List.findSome?_cons]
  cases f a <;> rfl

namespace Draft

variable {α β : Type}

/-! ## Faults -/

/-- Does the draft stop with the fault, or give a result where there is none? -/
def StopsAt (stop : Option Fault) (d : Draft α) : Prop :=
  match stop with
  | none => ∃ a, d.outcome = .ok a
  | some cause => d.outcome = .error cause

theorem StopsAt.eq_ok_iff {stop : Option Fault} {d : Draft α} (stops : d.StopsAt stop) :
    (∃ a, d.outcome = .ok a) ↔ stop = none := by
  cases stop with
  | none => exact ⟨fun _ => rfl, fun _ => stops⟩
  | some cause =>
      have stopped : d.outcome = .error cause := stops
      rw [stopped]
      exact ⟨fun ⟨_, same⟩ => (nomatch same), nofun⟩

theorem StopsAt.eq_error_iff {stop : Option Fault} {d : Draft α} (stops : d.StopsAt stop)
    {cause : Fault} : d.outcome = .error cause ↔ stop = some cause := by
  cases stop with
  | none =>
      obtain ⟨a, done⟩ := stops
      rw [done]
      exact ⟨nofun, nofun⟩
  | some found =>
      have stopped : d.outcome = .error found := stops
      rw [stopped, Except.error.injEq, Option.some.injEq]

/-- The second step is reached exactly if the first one does not stop. -/
theorem StopsAt.bind {first second : Option Fault} {d : Draft α} {next : α → Draft β}
    (begins : d.StopsAt first) (goesOn : ∀ a, d.outcome = .ok a → (next a).StopsAt second) :
    (d >>= next).StopsAt (first.or second) := by
  cases first with
  | some cause =>
      show (d >>= next).outcome = .error cause
      rw [bind_of_error begins]
  | none =>
      obtain ⟨a, done⟩ := begins
      rw [Option.none_or, bind_of_ok done]
      exact goesOn a done

/-- A fault stays the fault of the whole if nothing that follows stops. -/
theorem StopsAt.bind_of_all {stop : Option Fault} {d : Draft α} {next : α → Draft β}
    (begins : d.StopsAt stop) (goesOn : ∀ a, d.outcome = .ok a → (next a).StopsAt none) :
    (d >>= next).StopsAt stop := by
  rw [← Option.or_none (o := stop)]
  exact begins.bind goesOn

theorem StopsAt.bind_of_ok {stop : Option Fault} {d : Draft α} {a : α} (done : d.outcome = .ok a)
    {next : α → Draft β} (goesOn : (next a).StopsAt stop) : (d >>= next).StopsAt stop := by
  rw [Draft.bind_of_ok done]
  exact goesOn

/-! ## Defects -/

/-- Does the draft stop at the defect, or give a result where there is none? -/
def EndsAt (defect : Option RecordFault) (d : Draft α) : Prop :=
  match defect with
  | none => ∃ a, d.outcome = .ok a
  | some cause => d.outcome = .error (.record cause)

theorem endsAt_iff {defect : Option RecordFault} {d : Draft α} :
    d.EndsAt defect ↔ d.StopsAt (defect.map .record) := by
  cases defect <;> exact Iff.rfl

theorem EndsAt.stopsAt {defect : Option RecordFault} {d : Draft α} (ends : d.EndsAt defect) :
    d.StopsAt (defect.map .record) :=
  endsAt_iff.mp ends

theorem EndsAt.outcome_eq_ok {d : Draft Unit} (ends : d.EndsAt none) : d.outcome = .ok () := by
  obtain ⟨⟨⟩, done⟩ := ends
  exact done

/-- The second step is reached exactly if the first one has no defect. -/
theorem EndsAt.bind {first second : Option RecordFault} {d : Draft α} {next : α → Draft β}
    (begins : d.EndsAt first) (goesOn : ∀ a, d.outcome = .ok a → (next a).EndsAt second) :
    (d >>= next).EndsAt (first.or second) := by
  rw [endsAt_iff, Option.map_or]
  exact begins.stopsAt.bind fun a done => (goesOn a done).stopsAt

/-- A defect stays the defect of the whole if nothing that follows has one. -/
theorem EndsAt.bind_of_all {defect : Option RecordFault} {d : Draft α} {next : α → Draft β}
    (begins : d.EndsAt defect) (goesOn : ∀ a, d.outcome = .ok a → (next a).EndsAt none) :
    (d >>= next).EndsAt defect :=
  endsAt_iff.mpr (begins.stopsAt.bind_of_all goesOn)

theorem EndsAt.then {first second : Option RecordFault} {d : Draft α} {next : Draft β}
    (begins : d.EndsAt first) (goesOn : next.EndsAt second) :
    (d >>= fun _ => next).EndsAt (first.or second) :=
  begins.bind fun _ _ => goesOn

theorem endsAt_bind_of_ok {defect : Option RecordFault} {d : Draft α} {a : α}
    (done : d.outcome = .ok a) {next : α → Draft β} (goesOn : (next a).EndsAt defect) :
    (d >>= next).EndsAt defect := by
  rw [bind_of_ok done]
  exact goesOn

theorem EndsAt.capture {defect : Option RecordFault} {d : Draft α} (ends : d.EndsAt defect) :
    d.capture.EndsAt defect := by
  cases defect with
  | none =>
      obtain ⟨a, done⟩ := ends
      exact ⟨(d.lines, a), capture_eq_ok_iff.mpr ⟨rfl, done⟩⟩
  | some cause =>
      have stopped : d.outcome = .error (.record cause) := ends
      show d.capture.outcome = _
      rw [Draft.capture, stopped]
      rfl

/-! ## Steps for each member -/

/-- The first member that stops decides. -/
theorem stopsAt_each {f : α → Draft β} {stop : α → Option Fault} {items : List α}
    (steps : ∀ a ∈ items, (f a).StopsAt (stop a)) :
    (each f items).StopsAt (items.findSome? stop) := by
  induction items with
  | nil => exact ⟨[], rfl⟩
  | cons a rest ih =>
      have later := ih fun b listed => steps b (List.mem_cons_of_mem _ listed)
      rw [each, findSome?_cons_eq_or]
      refine (steps a List.mem_cons_self).bind fun _ _ => ?_
      exact later.bind_of_all fun _ _ => ⟨_, rfl⟩

/-- The first member with a defect decides. -/
theorem endsAt_forEach {f : α → Draft Unit} {defect : α → Option RecordFault} {items : List α}
    (each : ∀ a ∈ items, (f a).EndsAt (defect a)) :
    (forEach f items).EndsAt (items.findSome? defect) := by
  induction items with
  | nil => exact ⟨(), rfl⟩
  | cons a rest ih =>
      have first := each a List.mem_cons_self
      have others := ih fun later listed => each later (List.mem_cons_of_mem _ listed)
      rw [forEach, findSome?_cons_eq_or]
      exact first.then others

theorem endsAt_forEach_of_all {f : α → Draft Unit} {items : List α}
    (each : ∀ a ∈ items, (f a).EndsAt none) : (forEach f items).EndsAt none := by
  have whole : (forEach f items).EndsAt (items.findSome? fun _ => none) := endsAt_forEach each
  rwa [List.findSome?_eq_none_iff.mpr fun _ _ => rfl] at whole

/-- The results of a step for each member, where all of them have one with the property. -/
theorem each_of_all {f : α → Draft β} {holds : β → Prop} {items : List α}
    (all : ∀ a ∈ items, ∃ b, (f a).outcome = .ok b ∧ holds b) :
    ∃ bs, (each f items).outcome = .ok bs ∧ ∀ b ∈ bs, holds b := by
  induction items with
  | nil => exact ⟨[], rfl, fun b listed => nomatch listed⟩
  | cons a rest ih =>
      obtain ⟨b, done, good⟩ := all a List.mem_cons_self
      obtain ⟨bs, remaining, others⟩ :=
        ih fun later listed => all later (List.mem_cons_of_mem _ listed)
      refine ⟨b :: bs, ?_, ?_⟩
      · rw [each, outcome_bind_of_ok done, outcome_bind_of_ok remaining]
        rfl
      · intro c listed
        rcases List.mem_cons.mp listed with rfl | later
        · exact good
        · exact others c later

end Draft

/-! ## Comments -/

/-- Are the parts of the comment texts? -/
def Comment.isTextual (c : Comment) : Bool := c.short.text?.isSome && c.long.text?.isSome

theorem Value.eq_string_of_isSome_text? {v : Value} (textual : v.text?.isSome) :
    ∃ s, v = .string s := by
  cases v with
  | string s => exact ⟨s, rfl⟩
  | _ => cases textual

theorem Node.commentText_of_isTextual {n : Node} (textual : n.comment.all Comment.isTextual) :
    ∃ s, n.commentText = .ok s := by
  unfold Node.commentText
  cases commented : n.comment with
  | none => exact ⟨"", rfl⟩
  | some c =>
      rw [commented, Option.all_some, Comment.isTextual, Bool.and_eq_true] at textual
      obtain ⟨short, shortText⟩ := Value.eq_string_of_isSome_text? textual.1
      obtain ⟨long, longText⟩ := Value.eq_string_of_isSome_text? textual.2
      have kept : ∃ texts : List String,
          [c.short, c.long].filter Value.isTruthy = texts.map .string := by
        rw [shortText, longText]
        exact ⟨_, List.filter_map (f := Value.string) (l := [short, long])⟩
      obtain ⟨texts, same⟩ := kept
      refine ⟨"\n\n".intercalate texts, ?_⟩
      dsimp only
      rw [Fault.bind_eq_ok_iff]
      exact ⟨texts, Value.mapM_textOr_eq_ok_iff.mpr same, rfl⟩

/-! ## Writers -/

namespace Writer

open Draft

theorem endsAt_line (text : String) : (line text).EndsAt none := ⟨(), rfl⟩

theorem endsAt_heading (text : String) (depth : Int) : (heading text depth).EndsAt none :=
  ⟨(), rfl⟩

theorem endsAt_openSection (name : String) : (openSection name).EndsAt none := ⟨(), rfl⟩

theorem endsAt_dataLine {v : Value} (textual : v.text?.isSome) : (dataLine v).EndsAt none := by
  obtain ⟨s, rfl⟩ := Value.eq_string_of_isSome_text? textual
  exact ⟨(), rfl⟩

theorem endsAt_comment {c : Option Comment} (textual : c.all Comment.isTextual) :
    (comment c).EndsAt none := by
  cases c with
  | none => exact ⟨(), rfl⟩
  | some c =>
      rw [Option.all_some, Comment.isTextual, Bool.and_eq_true] at textual
      have long : (if c.long.isTruthy then dataLine c.long else pure ()).EndsAt none := by
        split
        · exact endsAt_dataLine textual.2
        · exact ⟨(), rfl⟩
      unfold comment
      by_cases filled : c.short.isTruthy
      · simp only [filled, if_true]
        exact (endsAt_dataLine textual.1).then ((endsAt_line "").then long)
      · simp only [filled]
        exact long

theorem endsAt_block (text : String) : (block text).EndsAt none :=
  endsAt_forEach_of_all fun line _ => endsAt_line line

theorem endsAt_table (rows : List (List String)) : (table rows).EndsAt none := by
  have written : ∀ cells, (tableRow cells).EndsAt none := fun cells => ⟨(), rfl⟩
  cases rows with
  | nil => exact ⟨(), rfl⟩
  | cons header rows =>
      exact (written header).then
        ((written _).then (endsAt_forEach_of_all fun cells _ => written cells))

theorem endsAt_parameter {type : TypeExpr} (textual : type.isTextual) (name description : String)
    (optional : Bool) : (parameter name type.text description optional).EndsAt none := by
  obtain ⟨s, done⟩ := TypeExpr.text_of_isTextual textual
  exact endsAt_bind_of_ok done (endsAt_line _)

end Writer

end Bindery
