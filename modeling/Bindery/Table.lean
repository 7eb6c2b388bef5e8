/-!
# Insertion-ordered tables

A table binds keys to values and remembers the order in which the keys came: binding a key again
keeps its first place and takes the last value. Grouping is the same operation on a table of lists.

The statements at the end give look-up and the order of the keys after a binding.
-/

namespace Bindery

/-- Bindings in the order in which their keys first came. -/
abbrev Table (κ α : Type) := List (κ × α)

namespace Table

variable {κ α : Type} [BEq κ]

/-! ## Operations -/

/-- The value bound to a key. -/
def get? (k : κ) : Table κ α → Option α
  | [] => none
  | (key, a) :: rest => if key == k then some a else get? k rest

/-- Is the key bound? -/
def has (k : κ) (t : Table κ α) : Bool := (t.get? k).isSome

/-- Replaces the value bound to a key, or binds the key last. -/
def alter (k : κ) (f : Option α → α) : Table κ α → Table κ α
  | [] => [(k, f none)]
  | (key, a) :: rest => if key == k then (key, f (some a)) :: rest else (key, a) :: alter k f rest

/-- Binds a key: in its first place when it is bound already, and last otherwise. -/
def put (k : κ) (a : α) (t : Table κ α) : Table κ α := t.alter k fun _ => a

/-- Appends to the group of a key; the first member opens the group. -/
def push (k : κ) (a : α) (t : Table κ (List α)) : Table κ (List α) :=
  t.alter k fun group => group.getD [] ++ [a]

/-- Binds the pairs one after another. -/
def ofList (pairs : List (κ × α)) : Table κ α :=
  pairs.foldl (fun t (k, a) => t.put k a) []

/-- Groups the values by their keys. -/
def group (pairs : List (κ × α)) : Table κ (List α) :=
  pairs.foldl (fun t (k, a) => t.push k a) []

/-- The keys in order. -/
def keys (t : Table κ α) : List κ := t.map Prod.fst

/-! ## Look-up after a binding -/

theorem get?_alter_self [LawfulBEq κ] (k : κ) (f : Option α → α) (t : Table κ α) :
    (t.alter k f).get? k = some (f (t.get? k)) := by
  induction t with
  | nil => simp [alter, get?]
  | cons pair rest ih =>
      obtain ⟨key, a⟩ := pair
      by_cases same : key = k
      · simp [alter, get?, same]
      · simp [alter, get?, same, ih]

theorem get?_alter_of_ne [LawfulBEq κ] {k other : κ} (h : other ≠ k) (f : Option α → α)
    (t : Table κ α) : (t.alter k f).get? other = t.get? other := by
  induction t with
  | nil => simp [alter, get?, Ne.symm h]
  | cons pair rest ih =>
      obtain ⟨key, a⟩ := pair
      by_cases same : key = k
      · subst same
        simp [alter, get?, Ne.symm h]
      · by_cases found : key = other
        · simp [alter, get?, found, h]
        · simp [alter, get?, same, found, ih]

@[simp] theorem get?_put_self [LawfulBEq κ] (k : κ) (a : α) (t : Table κ α) :
    (t.put k a).get? k = some a := get?_alter_self k _ t

theorem get?_put_of_ne [LawfulBEq κ] {k other : κ} (h : other ≠ k) (a : α) (t : Table κ α) :
    (t.put k a).get? other = t.get? other := get?_alter_of_ne h _ t

/-! ## The keys after a binding -/

theorem keys_alter [LawfulBEq κ] (k : κ) (f : Option α → α) (t : Table κ α) :
    (t.alter k f).keys = if t.has k then t.keys else t.keys ++ [k] := by
  induction t with
  | nil => simp [alter, keys, has, get?]
  | cons pair rest ih =>
      obtain ⟨key, a⟩ := pair
      by_cases same : key = k
      · simp [alter, keys, has, get?, same]
      · simp only [keys] at ih
        by_cases bound : (get? k rest).isSome
        · simp_all [alter, keys, has, get?]
        · simp_all [alter, keys, has, get?]

end Table

end Bindery
