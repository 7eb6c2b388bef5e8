import Bindery.Session
import Mathlib.Data.List.Forall2

/-!
# Drafts and runs that end well

A sequence of drafts gives a result exactly when each of its steps does, and then writes what the
steps wrote one after another. A run on a draft ends as the draft does.
-/

namespace Bindery

theorem eq_ok_of_toOption {ε α : Type} {r : Except ε α} {a : α} (found : r.toOption = some a) :
    r = .ok a := by
  cases r with
  | error fault => cases found
  | ok b => exact congrArg Except.ok (Option.some.inj found)

theorem Fault.bind_eq_ok_iff {α β : Type} {outcome : Except Fault α} {next : α → Except Fault β}
    {b : β} : outcome >>= next = .ok b ↔ ∃ a, outcome = .ok a ∧ next a = .ok b := by
  cases outcome with
  | ok a =>
      constructor
      · intro result
        exact ⟨a, rfl, result⟩
      · rintro ⟨_, same, result⟩
        cases same
        exact result
  | error fault =>
      constructor
      · intro result
        cases result
      · rintro ⟨_, same, -⟩
        cases same

theorem Fault.bind_eq_error_iff {α β : Type} {outcome : Except Fault α} {next : α → Except Fault β}
    {fault : Fault} : outcome >>= next = .error fault ↔
      outcome = .error fault ∨ ∃ a, outcome = .ok a ∧ next a = .error fault := by
  cases outcome with
  | ok a => simp [bind, Except.bind]
  | error other => simp [bind, Except.bind]

theorem Fault.bind_pure_eq_error_iff {α β : Type} {outcome : Except Fault α} {f : α → β}
    {fault : Fault} :
    (outcome >>= fun a => pure (f a)) = .error fault ↔ outcome = .error fault := by
  rw [bind_eq_error_iff]
  exact or_iff_left fun ⟨_, _, stops⟩ => nomatch stops

theorem Fault.pure_eq_ok_iff {α : Type} {a b : α} :
    (pure a : Except Fault α) = .ok b ↔ a = b :=
  ⟨Except.ok.inj, congrArg Except.ok⟩

/-! ## One outcome after another -/

theorem exists_forall₂_iff {α β : Type} {holds : α → β → Prop} {items : List α} :
    (∃ out, List.Forall₂ holds items out) ↔ ∀ item ∈ items, ∃ b, holds item b := by
  induction items with
  | nil => exact ⟨fun _ _ listed => absurd listed List.not_mem_nil, fun _ => ⟨[], .nil⟩⟩
  | cons item rest ih =>
      rw [List.forall_mem_cons, ← ih]
      constructor
      · rintro ⟨_, first | ⟨first, others⟩⟩
        exact ⟨⟨_, first⟩, ⟨_, others⟩⟩
      · rintro ⟨⟨b, first⟩, ⟨out, others⟩⟩
        exact ⟨b :: out, .cons first others⟩

theorem forall_of_forall₂ {α β : Type} {holds : β → Prop} {items : List α} {out : List β}
    (each : List.Forall₂ (fun _ b => holds b) items out) : ∀ b ∈ out, holds b := by
  induction each with
  | nil => exact nofun
  | cons first _ ih => exact List.forall_mem_cons.mpr ⟨first, ih⟩

/-- Reading items one after another gives what each of them gives, in order. -/
theorem mapM_eq_ok_iff {ε α β : Type} {f : α → Except ε β} {items : List α} {out : List β} :
    items.mapM f = .ok out ↔ List.Forall₂ (fun item b => f item = .ok b) items out := by
  constructor
  · intro done
    induction items generalizing out with
    | nil =>
        cases done
        exact .nil
    | cons item rest ih =>
        rw [List.mapM_cons] at done
        cases first : f item with
        | error failure =>
            rw [first] at done
            cases done
        | ok b =>
            cases others : rest.mapM f with
            | error failure =>
                rw [first, others] at done
                cases done
            | ok more =>
                rw [first, others] at done
                cases done
                exact .cons first (ih others)
  · intro each
    induction each with
    | nil => rfl
    | cons first _ ih =>
        rw [List.mapM_cons, first, ih]
        rfl

namespace Draft

variable {α β : Type}

/-! ## Outcomes -/

theorem bind_eq_ok_iff {d : Draft α} {next : α → Draft β} {b : β} :
    (d >>= next).outcome = .ok b ↔ ∃ a, d.outcome = .ok a ∧ (next a).outcome = .ok b := by
  cases h : d.outcome with
  | ok a => simp [bind_of_ok h]
  | error fault => simp [bind_of_error h]

theorem outcome_bind_of_ok {d : Draft α} {a : α} (h : d.outcome = .ok a) (next : α → Draft β) :
    (d >>= next).outcome = (next a).outcome := by
  rw [bind_of_ok h]

theorem pure_eq_ok_iff {a b : α} : (pure a : Draft α).outcome = .ok b ↔ a = b := by
  rw [pure_outcome]
  exact ⟨Except.ok.inj, congrArg Except.ok⟩

@[simp] theorem outcome_ofExcept (outcome : Except Fault α) :
    (ofExcept outcome).outcome = outcome := rfl

theorem capture_eq_ok_iff {d : Draft α} {lines : List Line} {a : α} :
    d.capture.outcome = .ok (lines, a) ↔ lines = d.lines ∧ d.outcome = .ok a := by
  obtain ⟨marks, outcome⟩ := d
  cases outcome with
  | ok result =>
      simp only [capture, Except.map, Except.ok.injEq, Prod.mk.injEq]
      exact and_congr_left fun _ => eq_comm
  | error fault => simp [capture, Except.map]

/-! ## Written lines -/

theorem lines_bind_of_ok {d : Draft α} {a : α} (h : d.outcome = .ok a) (next : α → Draft β) :
    (d >>= next).lines = d.lines ++ (next a).lines := by
  simp [bind_of_ok h, lines]

theorem lines_bind_eq_nil {d : Draft α} {next : α → Draft β} (first : d.lines = [])
    (goesOn : ∀ a, (next a).lines = []) : (d >>= next).lines = [] := by
  cases ended : d.outcome with
  | error fault =>
      rw [bind_of_error ended]
      exact first
  | ok a => rw [lines_bind_of_ok ended, first, goesOn a, List.append_nil]

/-! ## Logged entries -/

theorem entries_bind_of_ok {d : Draft α} {a : α} (done : d.outcome = .ok a) (next : α → Draft β) :
    (d >>= next).entries = d.entries ++ (next a).entries := by
  rw [bind_of_ok done, entries, List.filterMap_append]
  rfl

theorem entries_capture (d : Draft α) : d.capture.entries = d.entries := by
  obtain ⟨marks, outcome⟩ := d
  show (marks.filter fun mark => mark.logged?.isSome).filterMap Mark.logged? =
    marks.filterMap Mark.logged?
  rw [List.filterMap_filter]
  refine List.filterMap_congr fun mark _ => ?_
  cases mark <;> rfl

theorem lines_capture (d : Draft α) : d.capture.lines = [] := by
  obtain ⟨marks, outcome⟩ := d
  show (marks.filter fun mark => mark.logged?.isSome).filterMap Mark.line? = []
  rw [List.filterMap_filter, List.filterMap_eq_nil_iff]
  intro mark _
  cases mark <;> rfl

/-! ## Steps for each member -/

theorem each_eq_ok_iff {f : α → Draft β} {items : List α} {out : List β} :
    (each f items).outcome = .ok out ↔
      List.Forall₂ (fun a b => (f a).outcome = .ok b) items out := by
  induction items generalizing out with
  | nil => exact pure_eq_ok_iff.trans (eq_comm.trans List.forall₂_nil_left_iff.symm)
  | cons a rest ih =>
      constructor
      · intro done
        obtain ⟨b, first, others⟩ := bind_eq_ok_iff.mp done
        obtain ⟨more, remaining, given⟩ := bind_eq_ok_iff.mp others
        cases given
        exact .cons first (ih.mp remaining)
      · rintro (_ | ⟨first, others⟩)
        rw [each, outcome_bind_of_ok first, outcome_bind_of_ok (ih.mpr others)]
        rfl

theorem lines_each_eq_nil {f : α → Draft β} (silent : ∀ a, (f a).lines = []) (items : List α) :
    (each f items).lines = [] := by
  induction items with
  | nil => rfl
  | cons a rest ih =>
      exact lines_bind_eq_nil (silent a) fun _ => lines_bind_eq_nil ih fun _ => rfl

/-- Steps that all end well write their lines one after another. -/
theorem forEach_eq_ok {f : α → Draft Unit} {items : List α}
    (done : (forEach f items).outcome = .ok ()) :
    (∀ a ∈ items, (f a).outcome = .ok ()) ∧
      (forEach f items).lines = items.flatMap fun a => (f a).lines := by
  induction items with
  | nil => exact ⟨nofun, rfl⟩
  | cons a rest ih =>
      obtain ⟨⟨⟩, first, others⟩ := bind_eq_ok_iff.mp done
      obtain ⟨each, lines⟩ := ih others
      refine ⟨List.forall_mem_cons.mpr ⟨first, each⟩, ?_⟩
      rw [forEach, lines_bind_of_ok first, lines, List.flatMap_cons]

end Draft

/-! ## Kept entries -/

theorem Session.entries_record (e : Log.Entry) (s : Session) :
    (s.record e).entries = s.entries ++ [e] := by
  unfold record
  dsimp only
  split
  · split
    · rfl
    · unfold appendToFile
      split <;> rfl
  · rfl

theorem Session.entries_recordAll (es : List Log.Entry) (s : Session) :
    (s.recordAll es).entries = s.entries ++ es := by
  induction es generalizing s with
  | nil => rw [recordAll, List.foldl_nil, List.append_nil]
  | cons e rest ih =>
      rw [recordAll, List.foldl_cons]
      show (recordAll rest (s.record e)).entries = _
      rw [ih, entries_record, List.append_assoc, List.singleton_append]

namespace Run

variable {α β : Type}

/-! ## Runs on a session -/

theorem on_bind (r : Run α) (next : α → Run β) (s : Session) :
    (r >>= next).on s = match r.on s with
      | (after, .ok a) => (next a).on after
      | (after, .error fault) => (after, .error fault) := by
  unfold on
  rw [ExceptT.run_bind, StateT.run_bind]
  cases h : r.run.run s with
  | mk outcome after => cases outcome <;> rfl

/-- A sequence that ends well goes on from where its first step ended well. -/
theorem bind_eq_ok {r : Run α} {next : α → Run β} {s : Session} {b : β}
    (done : ((r >>= next).on s).2 = .ok b) :
    ∃ a, (r.on s).2 = .ok a ∧ (r >>= next).on s = (next a).on (r.on s).1 := by
  rw [on_bind] at done ⊢
  cases outcome : r.on s with
  | mk after result =>
      rw [outcome] at done
      cases result with
      | ok a => exact ⟨a, rfl, rfl⟩
      | error fault => cases done

theorem on_pure (a : α) (s : Session) : (pure a : Run α).on s = (s, .ok a) := rfl

theorem on_files (s : Session) : files.on s = (s, .ok s.files) := rfl

theorem on_ofExcept (outcome : Except Fault α) (s : Session) :
    (ofExcept outcome).on s = (s, outcome) := rfl

theorem on_change (f : FileTree → Except Fault FileTree) (s : Session) :
    (change f).on s = match f s.files with
      | .ok t => ({ s with files := t }, .ok ())
      | .error fault => (s, .error fault) := by
  rw [change, on_bind, on_files]
  show (ofExcept (f s.files) >>= _ : Run Unit).on s = _
  rw [on_bind, on_ofExcept]
  cases f s.files <;> rfl

theorem change_eq_ok {f : FileTree → Except Fault FileTree} {s : Session}
    (done : ((change f).on s).2 = .ok ()) :
    ∃ t, f s.files = .ok t ∧ (change f).on s = ({ s with files := t }, .ok ()) := by
  rw [on_change] at done ⊢
  cases changed : f s.files with
  | ok t => exact ⟨t, rfl, rfl⟩
  | error fault =>
      rw [changed] at done
      cases done

end Run

end Bindery
