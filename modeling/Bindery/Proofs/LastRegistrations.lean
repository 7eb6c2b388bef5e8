import Bindery.Proofs.Grouping
import Bindery.Proofs.Tables
import Bindery.Registry
import Mathlib.Data.List.Induction

/-!
# Registries after many registrations

Every registration replaces the entry of its name and leaves the name where it first came, so that a
name leads to what registered it last. Registrations without a name or a target are ignored.
-/

namespace Bindery

namespace Registry

variable {n : String}

/-! ## Registrations that are not ignored -/

/-- Is the registration not ignored? -/
def isKept (pair : String × String) : Bool := pair.1 ≠ "" && pair.2 ≠ ""

/-- The target of the last registration of a name that is not ignored. -/
def lastTarget (n : String) : List (String × String) → Option String
  | [] => none
  | (name, target) :: rest =>
      (lastTarget n rest).or (if name = n ∧ target ≠ "" then some target else none)

theorem lastTarget_append (front back : List (String × String)) :
    lastTarget n (front ++ back) = (lastTarget n back).or (lastTarget n front) := by
  induction front with
  | nil => exact (Option.or_none).symm
  | cons pair rest ih => rw [List.cons_append, lastTarget, lastTarget, ih, Option.or_assoc]

theorem lastTarget_filter_isKept (named : n ≠ "") (pairs : List (String × String)) :
    lastTarget n (pairs.filter isKept) = lastTarget n pairs := by
  induction pairs with
  | nil => rfl
  | cons pair rest ih =>
      obtain ⟨name, target⟩ := pair
      rw [List.filter_cons]
      cases kept : isKept (name, target) with
      | true =>
          rw [if_pos rfl, lastTarget, lastTarget, ih]
      | false =>
          have ignored : ¬ (name = n ∧ target ≠ "") := by
            rintro ⟨rfl, leads⟩
            simp [isKept, named, leads] at kept
          rw [if_neg Bool.false_ne_true, lastTarget, ih, if_neg ignored, Option.or_none]

theorem lastTarget_eq_none {pairs : List (String × String)} (unnamed : n ∉ pairs.map Prod.fst) :
    lastTarget n pairs = none := by
  induction pairs with
  | nil => rfl
  | cons pair rest ih =>
      rw [List.map_cons, List.mem_cons, not_or] at unnamed
      rw [lastTarget, ih unnamed.2, if_neg fun called => unnamed.1 called.1.symm]
      rfl

/-- Where no name is bound twice, the last registration of a name is its only one. -/
theorem lastTarget_of_nodup {pairs : Table String String} (distinct : pairs.keys.Nodup) :
    lastTarget n pairs = (pairs.get? n).filter (· ≠ "") := by
  induction pairs with
  | nil => rfl
  | cons pair rest ih =>
      obtain ⟨name, target⟩ := pair
      obtain ⟨unnamed, others⟩ := List.nodup_cons.mp distinct
      rw [lastTarget, Table.get?]
      by_cases same : name = n
      · subst same
        rw [lastTarget_eq_none unnamed, if_pos (beq_self_eq_true name), Option.none_or]
        by_cases leads : target = "" <;> simp [leads, Option.filter]
      · rw [if_neg fun called => same called.1, if_neg (by simpa using same), Option.or_none]
        exact ih others

/-! ## Look-up and order after many registrations -/

theorem registerAll_append (front back : List (String × String)) (r : Registry) :
    r.registerAll (front ++ back) = (r.registerAll front).registerAll back :=
  List.foldl_append

/-- The last registration of a name decides. -/
theorem resolve_registerAll_eq (named : n ≠ "") (pairs : List (String × String)) (r : Registry) :
    (r.registerAll pairs).resolve n =
      ((lastTarget n pairs).map fun target => ⟨target, none⟩).or (r.resolve n) := by
  induction pairs generalizing r with
  | nil => rfl
  | cons pair rest ih =>
      obtain ⟨name, target⟩ := pair
      refine (ih (r.register name target none)).trans ?_
      rw [resolve_register, lastTarget]
      cases lastTarget n rest with
      | some later => rfl
      | none =>
          by_cases here : name = n ∧ target ≠ ""
          · obtain ⟨rfl, leads⟩ := here
            rw [if_pos ⟨named, leads, rfl⟩, if_pos ⟨rfl, leads⟩]
            rfl
          · rw [if_neg fun registered => here ⟨registered.2.2.symm, registered.2.1⟩, if_neg here]
            rfl

theorem resolve_empty_registerAll (pairs : List (String × String)) (r : Registry) :
    (r.registerAll pairs).resolve "" = r.resolve "" := by
  induction pairs generalizing r with
  | nil => rfl
  | cons pair rest ih =>
      refine (ih (r.register pair.1 pair.2 none)).trans ?_
      rw [resolve_register, if_neg fun registered => registered.1 registered.2.2.symm]

theorem names_register (name target : String) (title : Option String) (r : Registry) :
    (r.register name target title).names =
      if isKept (name, target) then
        if r.names.elem name then r.names else r.names ++ [name]
      else r.names := by
  rw [register]
  cases kept : isKept (name, target) with
  | true =>
      have filled : (name.isEmpty || target.isEmpty) = false := by simpa [isKept] using kept
      rw [filled, if_neg Bool.false_ne_true, if_pos rfl]
      show Table.keys (Table.alter name _ r.entries) = _
      rw [Table.keys_alter, Table.has_eq_elem_keys]
      rfl
  | false =>
      have ignored : (name.isEmpty || target.isEmpty) = true := by
        simpa [isKept, imp_iff_not_or] using kept
      rw [ignored, if_pos rfl, if_neg Bool.false_ne_true]

/-- Names stand where they were first registered. -/
theorem names_registerAll (pairs : List (String × String)) :
    (empty.registerAll pairs).names = ((pairs.filter isKept).map Prod.fst).eraseDups := by
  induction pairs using List.reverseRecOn with
  | nil => rfl
  | append_singleton rest pair ih =>
      obtain ⟨name, target⟩ := pair
      rw [registerAll_append]
      show ((empty.registerAll rest).register name target none).names = _
      rw [names_register, ih, List.filter_append, List.map_append]
      cases kept : isKept (name, target) with
      | false => rw [List.filter_cons_of_neg (by simp [kept])]; simp
      | true =>
          rw [List.filter_cons_of_pos kept, List.filter_nil, List.map_singleton,
            Table.eraseDups_concat, if_pos rfl]
          simp only [List.elem_eq_mem, List.mem_eraseDups]

end Registry

end Bindery
