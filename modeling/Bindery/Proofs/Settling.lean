import Bindery.Path
import Mathlib.Data.List.DropRight

/-!
# Where paths settle

A walk along segments amounts to two things: how far up it leads from where it begins, and the names
that it goes down after that. A path below a directory settles at what is left of the settled
directory, followed by these names. Without double dots nothing is taken back.
-/

namespace Bindery.Path

/-! ## Normal paths -/

/-- The path without double dots, for a path with an anchor. -/
def normal (p : Path) : Path := ⟨p.anchor, settle p.segments⟩

/-- Does the path stand strictly below the directory? -/
def IsBelow (p directory : Path) : Prop :=
  p.anchor = directory.anchor ∧ ∃ name names, p.segments = directory.segments ++ name :: names

/-! ## Trails -/

/-- Walks along segments: how far up the walk leads, and the names below that. `walked` are the
names behind, last first. -/
def trailFrom (ups : Nat) (walked : List String) : List String → Nat × List String
  | [] => (ups, walked.reverse)
  | s :: rest =>
      if s = ".." then trailFrom (if walked.isEmpty then ups + 1 else ups) walked.tail rest
      else trailFrom ups (s :: walked) rest

/-- How many directories segments lead up from where they begin. -/
def ascent (segments : List String) : Nat := (trailFrom 0 [] segments).1

/-- The names that segments lead down after their ascent. -/
def descent (segments : List String) : List String := (trailFrom 0 [] segments).2

theorem settleFrom_append_drop (base walked segments : List String) (ups : Nat) :
    settleFrom (walked ++ base.drop ups) segments =
      (base.drop (trailFrom ups walked segments).1).reverse ++
        (trailFrom ups walked segments).2 := by
  induction segments generalizing walked ups with
  | nil => rw [settleFrom, trailFrom, List.reverse_append]
  | cons s rest ih =>
      rw [settleFrom, trailFrom]
      by_cases dots : s = ".."
      · rw [if_pos dots, if_pos dots]
        -- Only a walk that has no names of its own behind it leads further up.
        cases walked with
        | nil =>
            rw [List.nil_append, List.tail_drop]
            exact ih [] (ups + 1)
        | cons name behind => exact ih behind ups
      · rw [if_neg dots, if_neg dots]
        exact ih (s :: walked) ups

/-- Where segments settle behind a directory. -/
theorem settle_append (base segments : List String) :
    settle (base ++ segments) = (settle base).rdrop (ascent segments) ++ descent segments := by
  have walk := settleFrom_append_drop (settle base).reverse [] segments 0
  rw [List.nil_append, List.drop_zero] at walk
  rw [settle, settleFrom_append, List.rdrop_eq_reverse_drop_reverse]
  exact walk

theorem trailFrom_of_no_dots (ups : Nat) (walked : List String) {segments : List String}
    (plain : ".." ∉ segments) :
    trailFrom ups walked segments = (ups, walked.reverse ++ segments) := by
  induction segments generalizing walked with
  | nil => rw [trailFrom, List.append_nil]
  | cons s rest ih =>
      rw [List.mem_cons, not_or] at plain
      rw [trailFrom, if_neg (Ne.symm plain.1), ih _ plain.2, List.reverse_cons, List.append_assoc]
      rfl

theorem ascent_of_no_dots {segments : List String} (plain : ".." ∉ segments) :
    ascent segments = 0 := by
  rw [ascent, trailFrom_of_no_dots 0 [] plain]

theorem descent_of_no_dots {segments : List String} (plain : ".." ∉ segments) :
    descent segments = segments := by
  rw [descent, trailFrom_of_no_dots 0 [] plain]
  rfl

theorem settle_append_of_no_dots (base : List String) {segments : List String}
    (plain : ".." ∉ segments) : settle (base ++ segments) = settle base ++ segments := by
  rw [settle_append, ascent_of_no_dots plain, descent_of_no_dots plain, List.rdrop_zero]

theorem settle_of_no_dots {segments : List String} (plain : ".." ∉ segments) :
    settle segments = segments := settleFrom_of_no_dots [] segments plain

/-! ## Paths below a directory -/

/-- Do segments end below the settled directory from which they begin? As far as they lead up, they
come back down along the names of the directory, and go on from there. -/
def Returns (base segments : List String) : Prop :=
  ∃ name names, descent segments = base.rtake (ascent segments) ++ name :: names

theorem isBelow_normal_iff (directory : Path) (segments : List String) :
    (normal ⟨directory.anchor, directory.segments ++ segments⟩).IsBelow directory.normal ↔
      Returns (settle directory.segments) segments := by
  have base : settle directory.segments =
      (settle directory.segments).rdrop (ascent segments) ++
        (settle directory.segments).rtake (ascent segments) :=
    (List.take_append_drop _ _).symm
  have cancel : ∀ name names,
      settle (directory.segments ++ segments) = settle directory.segments ++ name :: names ↔
        descent segments =
          (settle directory.segments).rtake (ascent segments) ++ name :: names := by
    intro name names
    conv_lhs => rw [settle_append]; rhs; rw [base, List.append_assoc]
    exact List.append_right_inj _
  constructor
  · rintro ⟨-, name, names, below⟩
    exact ⟨name, names, (cancel name names).mp below⟩
  · rintro ⟨name, names, returned⟩
    exact ⟨rfl, name, names, (cancel name names).mpr returned⟩

theorem returns_of_no_dots (base : List String) {segments : List String} (filled : segments ≠ [])
    (plain : ".." ∉ segments) : Returns base segments := by
  obtain ⟨name, names, rfl⟩ := List.exists_cons_of_ne_nil filled
  refine ⟨name, names, ?_⟩
  rw [descent_of_no_dots plain, ascent_of_no_dots plain, List.rtake_zero, List.nil_append]

/-! ## Joins -/

theorem join_of_relative (directory : Path) {p : Path} (relative : p.anchor = .relative) :
    directory.join p = ⟨directory.anchor, directory.segments ++ p.segments⟩ := by
  rw [join, relative]

theorem join_of_absolute (directory : Path) {p : Path} (absolute : p.isAbsolute) :
    directory.join p = p := by
  unfold join
  split
  · next relative =>
      rw [isAbsolute, relative] at absolute
      cases absolute
  · rfl

theorem segments_join (p q : Path) :
    (p.join q).segments = if q.isAbsolute then q.segments else p.segments ++ q.segments := by
  obtain ⟨anchor, segments⟩ := q
  cases anchor <;> rfl

end Bindery.Path
