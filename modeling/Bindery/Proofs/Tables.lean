import Bindery.Proofs.Grouping

/-!
# Look-up in tables

What is found under a key stands in the table, the last pair of a key is the one that is found, and
a key is bound exactly if it is one of the keys.
-/

namespace Bindery.Table

variable {κ α : Type} [BEq κ] [LawfulBEq κ]

theorem mem_of_get? {k : κ} {a : α} {t : Table κ α} (bound : t.get? k = some a) : (k, a) ∈ t := by
  induction t with
  | nil => cases bound
  | cons pair rest ih =>
      obtain ⟨key, b⟩ := pair
      rw [get?] at bound
      split at bound
      · next same =>
          cases bound
          cases eq_of_beq same
          exact List.mem_cons_self
      · exact List.mem_cons_of_mem _ (ih bound)

theorem get?_of_mem {k : κ} {a : α} {t : Table κ α} (distinct : t.keys.Nodup)
    (listed : (k, a) ∈ t) : t.get? k = some a := by
  induction t with
  | nil => cases listed
  | cons pair rest ih =>
      obtain ⟨unknown, others⟩ := List.nodup_cons.mp distinct
      rcases List.mem_cons.mp listed with rfl | later
      · rw [get?, if_pos (beq_self_eq_true _)]
      · have differ : pair.1 ≠ k := fun same => unknown (same ▸ List.mem_map_of_mem later)
        rw [get?, if_neg (by simpa using differ)]
        exact ih others later

omit [LawfulBEq κ] in
theorem get?_map_snd {β : Type} (k : κ) (f : α → β) (t : Table κ α) :
    get? k (t.map fun pair => (pair.1, f pair.2)) = (t.get? k).map f := by
  induction t with
  | nil => rfl
  | cons pair rest ih =>
      rw [List.map_cons, get?, get?]
      split
      · rfl
      · exact ih

/-- The last pair of a key is the one that stays. -/
theorem mem_ofList {k : κ} {a : α} (front : List (κ × α)) {back : List (κ × α)}
    (last : ∀ pair ∈ back, pair.1 ≠ k) : (k, a) ∈ ofList (front ++ (k, a) :: back) := by
  have kept : ∀ t : Table κ α, t.get? k = some a →
      get? k (back.foldl (fun t pair => t.put pair.1 pair.2) t) = some a := by
    induction back with
    | nil => exact fun t bound => bound
    | cons pair rest ih =>
        intro t bound
        rw [List.foldl_cons]
        apply ih fun later listed => last later (List.mem_cons_of_mem _ listed)
        rw [get?_put_of_ne (last pair List.mem_cons_self).symm, bound]
  rw [ofList, List.foldl_append, List.foldl_cons]
  exact mem_of_get? (kept _ (get?_put_self k a _))

/-- What is bound stands among the pairs, and no later pair has its key. -/
theorem exists_last_of_mem_ofList {pair : κ × α} {pairs : List (κ × α)}
    (bound : pair ∈ ofList pairs) :
    ∃ front back, pairs = front ++ pair :: back ∧ ∀ later ∈ back, later.1 ≠ pair.1 := by
  have distinct : (ofList pairs).keys.Nodup := by
    rw [keys, keys_ofList]
    exact nodup_eraseDups _
  have known : pair.1 ∈ pairs.map Prod.fst := by
    rw [← List.mem_eraseDups, ← keys_ofList]
    exact List.mem_map_of_mem bound
  obtain ⟨one, listed, same⟩ := List.mem_map.mp known
  obtain ⟨front, ⟨k, a⟩, back, split, rfl, last⟩ :=
    exists_last_of_mem (fun other => other.1 = pair.1) listed same
  have twice := get?_of_mem distinct (split ▸ mem_ofList front last)
  rw [get?_of_mem distinct bound] at twice
  cases twice
  exact ⟨front, back, split, last⟩

theorem has_eq_elem_keys (k : κ) (t : Table κ α) : t.has k = t.keys.elem k := by
  induction t with
  | nil => rfl
  | cons pair rest ih =>
      obtain ⟨key, a⟩ := pair
      by_cases same : key = k
      · simp [has, get?, keys, same]
      · have passed : has k ((key, a) :: rest) = has k rest := by simp [has, get?, same]
        rw [passed, ih]
        simp [keys, Ne.symm same]

end Bindery.Table
