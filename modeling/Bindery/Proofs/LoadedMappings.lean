import Bindery.Proofs.Grouping
import Bindery.Yaml.Outline

/-!
# Mappings that were loaded

Entries are bound one after another, and binding a key again keeps its place: a mapping that is
loaded from a text binds no key twice. What stands under a key therefore does not depend on the
order of the entries.
-/

namespace Bindery

/-! ## Tables -/

namespace Table

variable {κ α : Type} [BEq κ]

theorem key_of_mem_alter {k : κ} {f : Option α → α} {t : Table κ α} {pair : κ × α}
    (present : pair ∈ t.alter k f) : pair.1 = k ∨ ∃ known ∈ t, known.1 = pair.1 := by
  induction t with
  | nil =>
      obtain rfl := List.mem_singleton.mp present
      exact .inl rfl
  | cons first rest ih =>
      rw [alter] at present
      split at present
      · rcases List.mem_cons.mp present with rfl | later
        · exact .inr ⟨first, List.mem_cons_self, rfl⟩
        · exact .inr ⟨pair, List.mem_cons_of_mem _ later, rfl⟩
      · rcases List.mem_cons.mp present with rfl | later
        · exact .inr ⟨_, List.mem_cons_self, rfl⟩
        · rcases ih later with same | ⟨known, listed, same⟩
          · exact .inl same
          · exact .inr ⟨known, List.mem_cons_of_mem _ listed, same⟩

theorem BindsOnce.alter {t : Table κ α} (once : t.BindsOnce) (k : κ) (f : Option α → α) :
    (t.alter k f).BindsOnce := by
  induction t with
  | nil => exact List.pairwise_singleton _ _
  | cons first rest ih =>
      obtain ⟨apart, others⟩ := List.pairwise_cons.mp once
      rw [Table.alter]
      split
      · exact List.pairwise_cons.mpr ⟨apart, others⟩
      · next differ =>
          refine List.pairwise_cons.mpr ⟨fun pair present => ?_, ih others⟩
          rcases key_of_mem_alter present with same | ⟨known, listed, same⟩
          · rw [same]
            exact Bool.eq_false_iff.mpr differ
          · rw [← same]
            exact apart known listed

theorem bindsOnce_ofList (pairs : List (κ × α)) : (ofList pairs).BindsOnce := by
  induction pairs using List.reverseRecOn with
  | nil => exact .nil
  | append_singleton rest pair ih =>
      rw [ofList_concat]
      exact ih.alter _ _

end Table

/-! ## Values -/

namespace Value

/-- Is no key of a mapping bound again further on? -/
def BindsOnce (entries : List (Value × Value)) : Prop :=
  entries.Pairwise fun a b => a.1.sameKey b.1 = false

instance (entries : List (Value × Value)) : Decidable (BindsOnce entries) :=
  inferInstanceAs (Decidable (entries.Pairwise fun a b => a.1.sameKey b.1 = false))

variable {key : String} {entries others : List (Value × Value)}

theorem mem_of_find? {v : Value} (found : find? key entries = some v) :
    (.string key, v) ∈ entries := by
  induction entries with
  | nil => cases found
  | cons first rest ih =>
      obtain ⟨k, w⟩ := first
      unfold find? at found
      split at found
      · cases found
      · next s w rest same =>
          cases same
          split at found
          · next named =>
              cases found
              rw [named]
              exact List.mem_cons_self
          · exact List.mem_cons_of_mem _ (ih found)
      · next same =>
          cases same
          exact List.mem_cons_of_mem _ (ih found)

theorem find?_of_mem (once : BindsOnce entries) {v : Value}
    (listed : (.string key, v) ∈ entries) : find? key entries = some v := by
  induction entries with
  | nil => cases listed
  | cons first rest ih =>
      obtain ⟨apart, others⟩ := List.pairwise_cons.mp once
      rcases List.mem_cons.mp listed with rfl | later
      · rw [find?, if_pos rfl]
      · obtain ⟨k, w⟩ := first
        cases k with
        | string s =>
            have differ : (s == key) = false := apart _ later
            rw [find?, if_neg (ne_of_beq_false differ), ih others later]
        | _ =>
            rw [find?, ih others later]
            rintro _ _ ⟨⟩

/-- What stands under a key does not depend on the order of the entries. -/
theorem find?_of_perm (once : BindsOnce entries) (alsoOnce : BindsOnce others)
    (reordered : entries.Perm others) : find? key others = find? key entries := by
  cases found : find? key entries with
  | some v => exact find?_of_mem alsoOnce (reordered.mem_iff.mp (mem_of_find? found))
  | none =>
      cases also : find? key others with
      | none => rfl
      | some v =>
          rw [find?_of_mem once (reordered.mem_iff.mpr (mem_of_find? also))] at found
          cases found

/-- Is the value, if it is a mapping, one that binds no key twice? -/
def IsSound : Value → Prop
  | map entries => BindsOnce entries
  | _ => True

theorem isSound_ofEntries (entries : List (Value × Value)) : (ofEntries entries).IsSound :=
  List.pairwise_map.mpr (Table.bindsOnce_ofList _)

/-- Entries that bind no key twice are a mapping as they are. -/
theorem ofEntries_of_bindsOnce (once : BindsOnce entries) : ofEntries entries = map entries := by
  have keyed : Table.BindsOnce (entries.map fun entry => (Key.mk entry.1, entry.2)) :=
    List.pairwise_map.mpr once
  rw [ofEntries, Table.ofList_of_bindsOnce keyed, List.map_map]
  exact congrArg map (List.map_id _)

end Value

/-! ## Loading -/

namespace Yaml

/-- Has every value that the result may be the property? -/
def Gives {ε α : Type} (holds : α → Prop) (r : Except ε α) : Prop := ∀ a, r = .ok a → holds a

namespace Gives

variable {ε α β : Type} {holds : α → Prop}

theorem ok {a : α} (held : holds a) : Gives holds (.ok a : Except ε α) := by
  intro _ same
  cases same
  exact held

theorem error (e : ε) : Gives holds (.error e : Except ε α) := nofun

theorem map {f : β → α} (held : ∀ b, holds (f b)) (r : Except ε β) : Gives holds (r.map f) := by
  intro _ same
  cases r with
  | error e => cases same
  | ok b =>
      cases same
      exact held b

theorem bind {next : β → Except ε α} (later : ∀ b, Gives holds (next b)) (r : Except ε β) :
    Gives holds (r >>= next) := by
  intro a same
  cases r with
  | error e => cases same
  | ok b => exact later b a same

theorem ite {p : Prop} [Decidable p] {r s : Except ε α} (yes : Gives holds r)
    (no : Gives holds s) : Gives holds (if p then r else s) := by
  split
  · exact yes
  · exact no

theorem getD {r : Except ε α} (given : Gives holds r) {a : α} (held : holds a) :
    holds (r.toOption.getD a) := by
  cases r with
  | error e => exact held
  | ok b => exact given b rfl

end Gives

theorem gives_scalar (type : TypeTag) (text : String) :
    Gives Value.IsSound (scalar type text) := by
  cases type with
  | null | text => exact .ok trivial
  | sequence | mapping | set | orderedMapping | pairs | merge | default | unknown => exact .error _
  | truth => exact .ite (.ok trivial) (.ite (.ok trivial) (.error _))
  | int => exact .map (fun _ => trivial) _
  | float => exact .map (fun _ => trivial) _
  | timestamp =>
      show Gives _ (Stamp.value text)
      unfold Stamp.value
      split
      · exact .error _
      · dsimp only
        split
        · exact .ite (.ok trivial) (.error _)
        · exact .ite (.ok trivial) (.error _)
  | binary =>
      refine .ite ?_ (.error _)
      split
      · exact .ok trivial
      · exact .error _

theorem Word.gives_value (w : Word) : Gives Value.IsSound w.value :=
  .bind (fun (type, text) => gives_scalar type text) w

namespace Outline

theorem isSound_shaped (inside : Part → Value) (shape : Shape) :
    (shaped inside shape).IsSound := by
  cases shape with
  | mapping entries => exact Value.isSound_ofEntries _
  | list | pairs | set => trivial

theorem isSound_value (o : Outline) (part : Part) : (o.value part).IsSound := by
  cases part with
  | word w => exact w.gives_value.getD trivial
  | collection n =>
      unfold value
      dsimp only
      split
      · trivial
      · exact isSound_shaped _ _

end Outline

theorem Graph.gives_value (g : Graph) : Gives Value.IsSound g.value := by
  unfold value
  dsimp only
  split
  · exact .error _
  · exact .ok (Outline.isSound_value _ _)

theorem gives_load (text : String) : Gives Value.IsSound (load text) := by
  refine .bind (fun content => ?_) _
  cases content with
  | none => exact .ok trivial
  | some g => exact g.gives_value

/-- A mapping that is loaded from a text binds no key twice. -/
theorem bindsOnce_of_load {text : String} {entries : List (Value × Value)}
    (loaded : load text = .ok (.map entries)) : Value.BindsOnce entries :=
  gives_load text _ loaded

end Yaml

end Bindery
