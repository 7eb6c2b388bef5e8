import Bindery.Table
import Mathlib.Data.List.Basic
import Mathlib.Data.List.Induction

/-!
# Grouping

A table of groups is determined by the pairs that were pushed into it: its keys are the keys of the
pairs in the order of their first appearance, and the group of a key holds the values that were
pushed under it, in order. Altering one more group keeps that form.
-/

namespace Bindery

/-- A list with a member of some kind has a last one of that kind. -/
theorem exists_last_of_mem {α : Type} (holds : α → Prop) {items : List α} {a : α}
    (present : a ∈ items) (held : holds a) :
    ∃ before b after, items = before ++ b :: after ∧ holds b ∧ ∀ later ∈ after, ¬ holds later := by
  induction items generalizing a with
  | nil => cases present
  | cons first rest ih =>
      by_cases later : ∃ b ∈ rest, holds b
      · obtain ⟨b, inside, found⟩ := later
        obtain ⟨before, b, after, rfl, last⟩ := ih inside found
        exact ⟨first :: before, b, after, rfl, last⟩
      · rcases List.mem_cons.mp present with rfl | inside
        · exact ⟨[], a, rest, rfl, held, fun b inside found => later ⟨b, inside, found⟩⟩
        · exact absurd ⟨a, inside, held⟩ later

namespace Table

variable {κ α : Type} [BEq κ] [LawfulBEq κ]

/-! ## First appearances -/

theorem eraseDups_concat (keys : List κ) (k : κ) :
    (keys ++ [k]).eraseDups = if keys.elem k then keys.eraseDups else keys.eraseDups ++ [k] := by
  rw [List.eraseDups_append]
  by_cases known : keys.elem k <;> simp_all [List.removeAll, List.eraseDups_cons]

theorem nodup_eraseDups (keys : List κ) : keys.eraseDups.Nodup := by
  induction keys using List.reverseRecOn with
  | nil => simp
  | append_singleton rest k ih =>
      rw [eraseDups_concat]
      split
      · exact ih
      · next unknown =>
          refine List.nodup_append.mpr ⟨ih, by simp, ?_⟩
          rintro a inRest b inLast rfl
          rw [List.mem_singleton] at inLast
          subst inLast
          exact unknown (by simpa [List.mem_eraseDups] using inRest)

/-- Members may be chosen before or after their repetitions are left out. -/
theorem eraseDups_filter (p : κ → Bool) (keys : List κ) :
    (keys.filter p).eraseDups = keys.eraseDups.filter p := by
  induction keys using List.reverseRecOn with
  | nil => rfl
  | append_singleton rest k ih =>
      rw [List.filter_append, eraseDups_concat]
      by_cases chosen : p k
      · have known : (rest.filter p).elem k = rest.elem k := by simp [chosen]
        have kept : [k].filter p = [k] := List.filter_cons_of_pos chosen
        rw [kept, eraseDups_concat, known, ih]
        split
        · rfl
        · rw [List.filter_append, kept]
      · have dropped : [k].filter p = [] := List.filter_cons_of_neg chosen
        rw [dropped, List.append_nil, ih]
        split
        · rfl
        · rw [List.filter_append, dropped, List.append_nil]

/-- Members are neither lost nor doubled when they are gathered key by key. -/
theorem perm_flatMap_filter {ι : Type} [DecidableEq ι] {keys : List ι} (distinct : keys.Nodup)
    (f : α → ι) (items : List α) (covered : ∀ a ∈ items, f a ∈ keys) :
    (keys.flatMap fun key => items.filter fun a => f a = key).Perm items := by
  induction keys generalizing items with
  | nil =>
      have empty : items = [] := List.eq_nil_iff_forall_not_mem.mpr fun a present =>
        absurd (covered a present) List.not_mem_nil
      rw [empty, List.flatMap_nil]
  | cons key rest ih =>
      rw [List.nodup_cons] at distinct
      -- The other keys gather what the first one leaves.
      have others := ih distinct.2 (items.filter fun a => !decide (f a = key)) (by
        intro a present
        rw [List.mem_filter] at present
        have differ : f a ≠ key := by simpa using present.2
        exact (List.mem_cons.mp (covered a present.1)).resolve_left differ)
      have same : (rest.flatMap fun other => items.filter fun a => f a = other) =
          rest.flatMap fun other =>
            (items.filter fun a => !decide (f a = key)).filter fun a => f a = other := by
        refine List.flatMap_congr fun other present => ?_
        rw [List.filter_filter]
        refine List.filter_congr fun a _ => ?_
        by_cases found : f a = other
        · have differ : f a ≠ key := fun equal => distinct.1 (by rwa [← equal, found])
          simp [found, found ▸ differ]
        · simp [found]
      rw [List.flatMap_cons, same]
      exact (others.append_left _).trans (List.filter_append_perm _ items)

/-! ## The form of a table of groups -/

/-- The values of a key, in order. -/
def members (k : κ) (pairs : List (κ × α)) : List α :=
  (pairs.filter fun pair => pair.1 == k).map Prod.snd

theorem members_eq_nil {k : κ} {pairs : List (κ × α)} (unknown : k ∉ pairs.map Prod.fst) :
    members k pairs = [] := by
  have none_kept : (pairs.filter fun pair => pair.1 == k) = [] := by
    rw [List.filter_eq_nil_iff]
    intro pair present same
    exact unknown (List.mem_map.mpr ⟨pair, present, by simpa using same⟩)
  rw [members, none_kept, List.map_nil]

omit [LawfulBEq κ] in
theorem members_concat (k : κ) (pairs : List (κ × α)) (pair : κ × α) :
    members k (pairs ++ [pair]) =
      if pair.1 == k then members k pairs ++ [pair.2] else members k pairs := by
  unfold members
  rw [List.filter_append, List.map_append]
  by_cases same : pair.1 == k <;> simp [same]

/-- Altering the value of a key in a table that is given by its keys. Where the key is new, the
value that `g` gives it stands for its being absent. -/
theorem alter_map {keys : List κ} (distinct : keys.Nodup) (k : κ) (f : Option α → α) (g : κ → α)
    (absent : k ∉ keys → f none = f (some (g k))) :
    alter k f (keys.map fun key => (key, g key)) =
      (if keys.elem k then keys else keys ++ [k]).map fun key =>
        (key, if key == k then f (some (g k)) else g key) := by
  induction keys with
  | nil => simp [alter, absent]
  | cons key rest ih =>
      rw [List.nodup_cons] at distinct
      by_cases same : key = k
      · subst same
        -- Keys are distinct, so that the rest of the table stays as it was.
        have kept : ∀ other ∈ rest,
            (other, g other) = (other, if other == key then f (some (g key)) else g other) := by
          intro other present
          have differ : other ≠ key := fun equal => distinct.1 (equal ▸ present)
          simp [differ]
        simpa [alter] using kept
      · have inner := ih distinct.2 fun unknown => absent (by simp [unknown, Ne.symm same])
        have bare : alter k f ((key, g key) :: rest.map fun key => (key, g key)) =
            (key, g key) :: alter k f (rest.map fun key => (key, g key)) := by
          simp [alter, same]
        rw [List.map_cons, bare, inner]
        by_cases known : k ∈ rest <;> simp [known, same, Ne.symm same]

/-- A table of groups by its pairs. -/
theorem group_eq (pairs : List (κ × α)) :
    group pairs = (pairs.map Prod.fst).eraseDups.map fun k => (k, members k pairs) := by
  induction pairs using List.reverseRecOn with
  | nil => simp [group]
  | append_singleton rest pair ih =>
      obtain ⟨k, a⟩ := pair
      have step : group (rest ++ [(k, a)]) = (group rest).push k a := by
        simp [group, List.foldl_append]
      rw [step, ih, push, alter_map (nodup_eraseDups _) k _ (fun key => members key rest)]
      · rw [List.map_append, List.map_singleton, eraseDups_concat]
        simp only [List.elem_eq_mem, List.mem_eraseDups, members_concat]
        refine List.map_congr_left fun key _ => ?_
        by_cases same : k = key
        · simp [same]
        · simp [same, Ne.symm same]
      · intro unknown
        rw [List.mem_eraseDups] at unknown
        simp [members_eq_nil unknown]

omit [LawfulBEq κ] in
theorem members_map {β : Type} (k : κ) (f : α → β) (pairs : List (κ × α)) :
    members k (pairs.map fun pair => (pair.1, f pair.2)) = (members k pairs).map f := by
  unfold members
  rw [List.filter_map, List.map_map, List.map_map]
  rfl

omit [LawfulBEq κ] in
theorem ofList_concat (pairs : List (κ × α)) (k : κ) (a : α) :
    ofList (pairs ++ [(k, a)]) = (ofList pairs).put k a := by
  rw [ofList, List.foldl_append]
  rfl

omit [LawfulBEq κ] in
theorem put_map {β : Type} (f : α → β) (k : κ) (a : α) (t : Table κ α) :
    put k (f a) (t.map fun pair => (pair.1, f pair.2)) =
      (t.put k a).map fun pair => (pair.1, f pair.2) := by
  induction t with
  | nil => rfl
  | cons pair rest ih =>
      simp only [put] at ih
      simp only [put, List.map_cons, alter]
      split
      · rfl
      · rw [ih, List.map_cons]

omit [LawfulBEq κ] in
theorem alter_mapKeys {ι : Type} [BEq ι] {f : κ → ι} (faithful : ∀ k l, (f k == f l) = (k == l))
    (k : κ) (change : Option α → α) (t : Table κ α) :
    alter (f k) change (t.map fun pair => (f pair.1, pair.2)) =
      (t.alter k change).map fun pair => (f pair.1, pair.2) := by
  induction t with
  | nil => rfl
  | cons pair rest ih =>
      simp only [List.map_cons, alter, faithful]
      split
      · rfl
      · rw [ih, List.map_cons]

omit [LawfulBEq κ] in
theorem put_mapKeys {ι : Type} [BEq ι] {f : κ → ι} (faithful : ∀ k l, (f k == f l) = (k == l))
    (k : κ) (a : α) (t : Table κ α) :
    put (f k) a (t.map fun pair => (f pair.1, pair.2)) =
      (t.put k a).map fun pair => (f pair.1, pair.2) :=
  alter_mapKeys faithful k (fun _ => a) t

omit [LawfulBEq κ] in
/-- Keys may be renamed before or after they are bound if equal keys stay equal and others not. -/
theorem ofList_mapKeys {ι : Type} [BEq ι] {f : κ → ι} (faithful : ∀ k l, (f k == f l) = (k == l))
    (pairs : List (κ × α)) :
    ofList (pairs.map fun pair => (f pair.1, pair.2)) =
      (ofList pairs).map fun pair => (f pair.1, pair.2) := by
  induction pairs using List.reverseRecOn with
  | nil => rfl
  | append_singleton rest pair ih =>
      rw [List.map_append, List.map_singleton, ofList_concat, ofList_concat, ih,
        put_mapKeys faithful]

omit [LawfulBEq κ] in
/-- What is done to the values alone may be done before they are bound or after. -/
theorem ofList_map {β : Type} (f : α → β) (pairs : List (κ × α)) :
    ofList (pairs.map fun pair => (pair.1, f pair.2)) =
      (ofList pairs).map fun pair => (pair.1, f pair.2) := by
  induction pairs using List.reverseRecOn with
  | nil => rfl
  | append_singleton rest pair ih =>
      rw [List.map_append, List.map_singleton, ofList_concat, ofList_concat, ih, put_map]

/-- A table of bindings by its pairs: each key stands where it first came, with its last value. -/
theorem ofList_eq [Inhabited α] (pairs : List (κ × α)) :
    ofList pairs = (pairs.map Prod.fst).eraseDups.map fun k =>
      (k, (members k pairs).getLastD default) := by
  induction pairs using List.reverseRecOn with
  | nil => rfl
  | append_singleton rest pair ih =>
      obtain ⟨k, a⟩ := pair
      rw [ofList_concat, ih, put, alter_map (nodup_eraseDups _) k _
        (fun key => (members key rest).getLastD default) fun _ => rfl]
      rw [List.map_append, List.map_singleton, eraseDups_concat]
      simp only [List.elem_eq_mem, List.mem_eraseDups, members_concat]
      refine List.map_congr_left fun key _ => ?_
      by_cases same : k = key
      · simp [same]
      · simp [same, Ne.symm same]

theorem keys_ofList (pairs : List (κ × α)) :
    (ofList pairs).map Prod.fst = (pairs.map Prod.fst).eraseDups := by
  cases pairs with
  | nil => rfl
  | cons pair rest =>
      have : Inhabited α := ⟨pair.2⟩
      rw [ofList_eq, List.map_map]
      exact List.map_id _

/-- Is no key bound again further on? -/
def BindsOnce (t : Table κ α) : Prop := t.Pairwise fun a b => (a.1 == b.1) = false

omit [LawfulBEq κ] in
theorem put_of_apart {k : κ} (a : α) {t : Table κ α} (apart : ∀ pair ∈ t, (pair.1 == k) = false) :
    t.put k a = t ++ [(k, a)] := by
  induction t with
  | nil => rfl
  | cons first rest ih =>
      obtain ⟨differ, others⟩ := List.forall_mem_cons.mp apart
      rw [put, alter, differ]
      exact congrArg (first :: ·) (ih others)

omit [LawfulBEq κ] in
/-- Pairs that bind no key twice are bound as they are. -/
theorem ofList_of_bindsOnce {pairs : List (κ × α)} (once : BindsOnce pairs) :
    ofList pairs = pairs := by
  induction pairs using List.reverseRecOn with
  | nil => rfl
  | append_singleton rest pair ih =>
      obtain ⟨before, -, across⟩ := List.pairwise_append.mp once
      rw [ofList_concat, ih before]
      exact put_of_apart _ fun earlier listed => across earlier listed pair List.mem_cons_self

/-- Pairs under distinct keys are bound as they are. -/
theorem ofList_of_nodup {pairs : List (κ × α)} (distinct : (pairs.map Prod.fst).Nodup) :
    ofList pairs = pairs :=
  ofList_of_bindsOnce ((List.pairwise_map.mp distinct).imp beq_eq_false_iff_ne.mpr)

/-- Altering one group of a table of groups opens the group at the end if it is new. -/
theorem alter_group (pairs : List (κ × α)) (k : κ) (f : List α → List α) :
    alter k (fun present => f (present.getD [])) (group pairs) =
      (pairs.map Prod.fst ++ [k]).eraseDups.map fun key =>
        (key, if key == k then f (members k pairs) else members key pairs) := by
  rw [group_eq, alter_map (nodup_eraseDups _) k _ (fun key => members key pairs), eraseDups_concat]
  · simp only [List.elem_eq_mem, List.mem_eraseDups, Option.getD_some]
  · intro unknown
    rw [List.mem_eraseDups] at unknown
    simp [members_eq_nil unknown]

end Table

end Bindery
