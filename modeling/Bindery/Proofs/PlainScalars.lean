import Bindery.Proofs.Floats

/-!
# Plain scalars that cannot be built

A plain scalar gets its type from the form of its text, and nearly every text of a form has a value.
The exceptions are dates that no calendar has, whole numbers without a digit behind the mark of their
base or with too many digits, and numbers in base sixty with too many parts for a float.
-/

namespace Bindery.Yaml

/-! ## Dates and moments -/

/-- Does the calendar have the day of a stamp, and the day its time and its zone? -/
def TypeTag.Stamp.isPossible (stamp : TypeTag.Stamp) : Bool :=
  let date : Date := ⟨Decimal.natOf stamp.year, Decimal.natOf stamp.month, Decimal.natOf stamp.day⟩
  match stamp.time with
  | none => date.isValid
  | some (hour, minute, second) =>
      (Moment.mk date (Decimal.natOf hour) (Decimal.natOf minute) (Decimal.natOf second)
        (Stamp.microseconds stamp.fraction) (stamp.zone.map Stamp.offset)).isValid

/-- A date or a moment of a form that no calendar has. -/
def Stamp.lacksMoment (cs : List Char) : Bool :=
  match TypeTag.stamp? cs with
  | some stamp => !stamp.isPossible
  | none => false

theorem TypeTag.withoutFeed_of_open {cs : List Char} (noFeed : cs.getLast? ≠ some '\n') :
    withoutFeed cs = cs := if_neg noFeed

/-- A date or a moment of a form is built if the calendar has it. -/
theorem Stamp.failsWhen_value {text : String} (noFeed : text.toList.getLast? ≠ some '\n')
    (form : TypeTag.isTimestamp text.toList) :
    FailsWhen (lacksMoment text.toList) (.fault (.value .impossibleDate)) (value text) := by
  unfold value lacksMoment
  unfold TypeTag.isTimestamp at form
  rw [TypeTag.withoutFeed_of_open noFeed]
  cases read : TypeTag.stamp? text.toList with
  | none =>
      rw [read] at form
      cases form
  | some stamp =>
      dsimp only
      unfold TypeTag.Stamp.isPossible
      cases stamp.time with
      | none => exact .ite_ok _ _
      | some time => exact .ite_ok _ _

/-! ## Plain scalars -/

/-- The fault of a plain scalar, if it has one. -/
def plainFault? (text : String) : Option Fault :=
  match TypeTag.ofPlain text with
  | .int => if Number.lacksInt text.toList then some (.value .badNumber) else none
  | .float => if Number.lacksFloat text.toList then some (.value .tooLarge) else none
  | .timestamp => if Stamp.lacksMoment text.toList then some (.value .impossibleDate) else none
  | _ => none

/-- A plain scalar has a form of its type, or is of a type without forms. -/
theorem TypeTag.form_of_ofPlain {text : String} (noFeed : text.toList.getLast? ≠ some '\n') :
    (ofPlain text = .truth ∧ text ∈ truthWords) ∨
      (ofPlain text = .float ∧ isFloat text.toList) ∨
      (ofPlain text = .int ∧ isInt text.toList) ∨
      (ofPlain text = .timestamp ∧ isTimestamp text.toList) ∨
      ofPlain text ∈ [.merge, .null, .default, .unknown, .text] := by
  unfold ofPlain
  rw [withoutFeed_of_open noFeed]
  dsimp only
  rw [String.ofList_toList]
  split
  · next word => exact .inl ⟨rfl, List.contains_iff_mem.mp word⟩
  split
  · next form => exact .inr (.inl ⟨rfl, form⟩)
  split
  · next form => exact .inr (.inr (.inl ⟨rfl, form⟩))
  split
  · exact .inr (.inr (.inr (.inr (by decide))))
  split
  · exact .inr (.inr (.inr (.inr (by decide))))
  split
  · next form => exact .inr (.inr (.inr (.inl ⟨rfl, form⟩)))
  split
  · exact .inr (.inr (.inr (.inr (by decide))))
  split
  · exact .inr (.inr (.inr (.inr (by decide))))
  · exact .inr (.inr (.inr (.inr (by decide))))

theorem exists_truth {word : String} (known : word ∈ TypeTag.truthWords) :
    ∃ v, truth word = .ok v := by
  simp only [TypeTag.truthWords, List.mem_cons, List.not_mem_nil, or_false] at known
  rcases known with rfl | rfl | rfl | rfl | rfl | rfl | rfl | rfl | rfl | rfl | rfl | rfl | rfl |
    rfl | rfl | rfl | rfl | rfl <;> exact ⟨_, rfl⟩

theorem FailsWhen.fault_iff {α : Type} {p : Prop} [Decidable p] {found cause : Fault}
    {r : Except Failure α} (fails : FailsWhen p (.fault found) r) :
    r = .error (.fault cause) ↔ (if p then some found else none) = some cause := by
  rw [fails.eq_error_iff, Failure.fault.injEq]
  by_cases holds : p
  · rw [if_pos holds, Option.some.injEq, eq_comm]
    exact and_iff_left holds
  · rw [if_neg holds]
    exact ⟨fun ⟨_, found⟩ => absurd found holds, nofun⟩

/-- A plain scalar stops a build exactly if it is a date that no calendar has, a whole number without
digits or with too many, or a float with too many parts. -/
theorem scalar_ofPlain_eq_fault_iff {text : String} (noFeed : text.toList.getLast? ≠ some '\n')
    {cause : Fault} :
    scalar (.ofPlain text) text = .error (.fault cause) ↔ plainFault? text = some cause := by
  unfold plainFault?
  rcases TypeTag.form_of_ofPlain noFeed with
    ⟨type, known⟩ | ⟨type, form⟩ | ⟨type, form⟩ | ⟨type, form⟩ | formless
  · obtain ⟨v, done⟩ := exists_truth known
    have built : scalar .truth text = .ok v := done
    rw [type, built]
    exact ⟨nofun, nofun⟩
  · rw [type]
    exact ((Number.failsWhen_float form).map _).fault_iff
  · rw [type]
    exact ((Number.failsWhen_int form).map _).fault_iff
  · rw [type]
    exact (Stamp.failsWhen_value noFeed form).fault_iff
  · simp only [List.mem_cons, List.not_mem_nil, or_false] at formless
    rcases formless with type | type | type | type | type <;> rw [type] <;> exact ⟨nofun, nofun⟩

end Bindery.Yaml
