import Bindery.Text.Word
import Mathlib.Data.List.Basic

/-!
# Patterns of texts

A pattern is tried alternative by alternative at each place of a text from left to right: a run takes
as many characters as there are and gives them back one by one until what follows fits. A search
goes on right behind each match that is not empty, and one place further where there is none.
-/

namespace Bindery.Text

/-! ## Patterns -/

/-- A pattern that is tried at a place of a text. -/
inductive Pattern where
  | one (isIn : Char → Bool)
  /-- As many characters of a class as there are, then one less and so on down to a least number. -/
  | run (least : Nat) (isIn : Char → Bool)
  /-- The pattern, or else nothing. -/
  | maybe (p : Pattern)
  /-- A word character stands on one side only. -/
  | boundary
  /-- The pattern matches here, but its match is not taken. -/
  | ahead (p : Pattern)
  | sequence (first second : Pattern)
  | choice (first second : Pattern)

namespace Pattern

/-- The lengths of the matches at a place in the order in which they are tried; `before` stands
before the place. -/
def lengths : Pattern → (before : Option Char) → List Char → List Nat
  | one isIn, _, cs => if cs.head?.any isIn then [1] else []
  | run least isIn, _, cs =>
      (List.range' least ((cs.takeWhile isIn).length + 1 - least)).reverse
  | maybe p, before, cs => p.lengths before cs ++ [0]
  | boundary, before, cs => if before.any isWord = cs.head?.any isWord then [] else [0]
  | ahead p, before, cs => if (p.lengths before cs).isEmpty then [] else [0]
  | sequence p q, before, cs =>
      (p.lengths before cs).flatMap fun n =>
        (q.lengths ((cs.take n).getLast?.or before) (cs.drop n)).map (n + ·)
  | choice p q, before, cs => p.lengths before cs ++ q.lengths before cs

section Lengths

variable (isIn : Char → Bool) (p q : Pattern) (before : Option Char) (cs : List Char)

@[simp] theorem lengths_one :
    (one isIn).lengths before cs = if cs.head?.any isIn then [1] else [] := rfl

@[simp] theorem lengths_run (least : Nat) :
    (run least isIn).lengths before cs =
      (List.range' least ((cs.takeWhile isIn).length + 1 - least)).reverse := rfl

@[simp] theorem lengths_maybe : (maybe p).lengths before cs = p.lengths before cs ++ [0] := rfl

@[simp] theorem lengths_boundary :
    boundary.lengths before cs =
      if before.any isWord = cs.head?.any isWord then [] else [0] := rfl

@[simp] theorem lengths_ahead :
    (ahead p).lengths before cs = if (p.lengths before cs).isEmpty then [] else [0] := rfl

@[simp] theorem lengths_sequence :
    (sequence p q).lengths before cs = (p.lengths before cs).flatMap fun n =>
      (q.lengths ((cs.take n).getLast?.or before) (cs.drop n)).map (n + ·) := rfl

@[simp] theorem lengths_choice :
    (choice p q).lengths before cs = p.lengths before cs ++ q.lengths before cs := rfl

end Lengths

/-- The matches that follow one another in a text. The first way to match at a place counts; a match
of no characters does not. -/
def found (p : Pattern) (before : Option Char) : List Char → List (List Char)
  | [] => []
  | c :: rest =>
      match (p.lengths before (c :: rest)).head? with
      | some (n + 1) =>
          (c :: rest.take n) :: p.found ((c :: rest.take n).getLast?) (rest.drop n)
      | _ => p.found (some c) rest
termination_by cs => cs.length
decreasing_by
  · simp only [List.length_drop, List.length_cons]; omega
  · simp

end Pattern

/-! ## Runs -/

section Runs

variable {α : Type} {p : α → Bool} {items : List α}

theorem drop_length_takeWhile (p : α → Bool) (items : List α) :
    items.drop (items.takeWhile p).length = items.dropWhile p := by
  have split := List.takeWhile_append_dropWhile (p := p) (l := items)
  calc items.drop (items.takeWhile p).length
      = (items.takeWhile p ++ items.dropWhile p).drop (items.takeWhile p).length := by rw [split]
    _ = items.dropWhile p := List.drop_left

/-- Inside a run every character is of the class. -/
theorem drop_eq_cons_of_lt {n : Nat} (inside : n < (items.takeWhile p).length) :
    ∃ a, p a ∧ items.drop n = a :: items.drop (n + 1) ∧
      (items.take (n + 1)).getLast? = some a := by
  have fits : n < items.length :=
    Nat.lt_of_lt_of_le inside (List.takeWhile_prefix p).length_le
  have same : (items.takeWhile p)[n] = items[n] := (List.takeWhile_prefix p).getElem inside
  refine ⟨items[n], ?_, List.drop_eq_getElem_cons fits, ?_⟩
  · rw [← same]
    exact List.all_eq_true.mp List.all_takeWhile _ (List.getElem_mem inside)
  · rw [List.take_succ_eq_append_getElem fits, List.getLast?_concat]

theorem head?_any_eq_decide (p : α → Bool) (items : List α) :
    items.head?.any p = decide ((items.takeWhile p).length ≠ 0) := by
  cases items with
  | nil => rfl
  | cons a rest => cases inside : p a <;> simp [inside]

end Runs

/-! ## Tries -/

namespace Pattern

variable (before : Option Char) (cs : List Char) (isIn : Char → Bool)

/-- The second pattern is tried where the first one does not match. -/
theorem head?_lengths_choice (p q : Pattern) :
    ((choice p q).lengths before cs).head? = (p.lengths before cs).head?.or
      (q.lengths before cs).head? := by
  rw [lengths_choice, List.head?_append]

theorem head?_lengths_maybe_sequence (p q : Pattern) :
    ((sequence (maybe p) q).lengths before cs).head? =
      ((sequence p q).lengths before cs).head?.or (q.lengths before cs).head? := by
  have nothing : (q.lengths (((cs.take 0).getLast?).or before) (cs.drop 0)).map (0 + ·) =
      q.lengths before cs := by simp
  rw [← nothing, ← List.head?_append]
  rw [lengths_sequence, lengths_sequence, lengths_maybe, List.flatMap_append,
    List.flatMap_singleton]

theorem head?_lengths_one_sequence (p : Pattern) :
    ((sequence (one isIn) p).lengths before cs).head? =
      if cs.head?.any isIn then (p.lengths (cs.head?.or before) (cs.drop 1)).head?.map (1 + ·)
      else none := by
  rw [lengths_sequence, lengths_one]
  cases cs with
  | nil => rfl
  | cons c rest => split <;> simp

theorem lengths_run_eq_nil_iff :
    (run 1 isIn).lengths before cs = [] ↔ cs.head?.any isIn = false := by
  rw [lengths_run]
  cases cs with
  | nil => simp
  | cons c rest => by_cases inside : isIn c <;> simp [inside]

theorem head?_lengths_run :
    ((run 1 isIn).lengths before cs).head? =
      if (cs.takeWhile isIn).length = 0 then none else some (cs.takeWhile isIn).length := by
  rw [lengths_run, List.head?_reverse, List.getLast?_range']
  simp

end Pattern

end Bindery.Text
