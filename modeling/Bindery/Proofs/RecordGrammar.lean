import Bindery.Node.Record
import Bindery.Proofs.Drafting

/-!
# The grammar of reflection records

Which data is a node and which is a type, said by rules and without a reader. Reading succeeds on
exactly that data, at every depth, and what it gives has one member for each item that was listed.

The rules have one constructor for each form. A part that is absent is null, and a part of which
items are taken is a list unless it is empty in some way: empty data of any kind lists nothing.
-/

namespace Bindery

namespace Value

/-! ## The rules -/

/-- The items of a list; anything else has none. -/
def items : Value → List Value
  | list items => items
  | _ => []

/-- Is the value a list, or so empty that it counts as none? -/
def IsListing (v : Value) : Prop := v.isTruthy → ∃ items, v = .list items

/-- The keys under which a node lists further nodes. -/
def nodeLists : List String := ["children", "signatures", "parameters"]

/-- The tags of the types that have a form of their own. -/
def typeTags : List String :=
  ["intrinsic", "reference", "stringLiteral", "array", "union", "reflection"]

mutual

/-- The data that describes a node. -/
inductive IsNode : Value → Prop where
  | record {entries : List (Value × Value)} {name : String}
      (named : find? "name" entries = some (.string name))
      (listings : ∀ key ∈ nodeLists, (get key entries).IsListing)
      (members : ∀ key ∈ nodeLists, ∀ item ∈ (get key entries).items, IsNode item)
      (typed : get "type" entries ≠ .null → IsType (get "type" entries))
      (flagged : (get "flags" entries).isTruthy → ∃ flags, get "flags" entries = .map flags) :
      IsNode (.map entries)

/-- The data that describes a type, one rule for each tag. -/
inductive IsType : Value → Prop where
  | intrinsic {entries : List (Value × Value)} {name : Value}
      (tag : get "type" entries = .string "intrinsic")
      (named : find? "name" entries = some name) : IsType (.map entries)
  | reference {entries : List (Value × Value)} {name : Value}
      (tag : get "type" entries = .string "reference")
      (named : find? "name" entries = some name)
      (listing : (get "typeArguments" entries).IsListing)
      (arguments : ∀ item ∈ (get "typeArguments" entries).items, IsType item) :
      IsType (.map entries)
  | literal {entries : List (Value × Value)} {value : Value}
      (tag : get "type" entries = .string "stringLiteral")
      (bound : find? "value" entries = some value) : IsType (.map entries)
  | array {entries : List (Value × Value)} {element : Value}
      (tag : get "type" entries = .string "array")
      (bound : find? "elementType" entries = some element) (typed : IsType element) :
      IsType (.map entries)
  | union {entries : List (Value × Value)}
      (tag : get "type" entries = .string "union") (listing : (get "types" entries).IsListing)
      (members : ∀ item ∈ (get "types" entries).items, IsType item) : IsType (.map entries)
  | inline {entries : List (Value × Value)} {declaration : Value}
      (tag : get "type" entries = .string "reflection")
      (bound : find? "declaration" entries = some declaration) (node : IsNode declaration) :
      IsType (.map entries)
  | other {entries : List (Value × Value)}
      (tag : ∀ known ∈ typeTags, get "type" entries ≠ .string known) : IsType (.map entries)

end

theorem sizeOf_items_le (v : Value) : sizeOf v.items ≤ sizeOf v := by
  cases v with
  | pair _ _ =>
      simp [items]
      omega
  | _ => simp [items]

theorem sizeOf_lt_of_mem_items {item v : Value} (listed : item ∈ v.items) :
    sizeOf item < sizeOf v := by
  cases v with
  | list items =>
      have := List.sizeOf_lt_of_mem (show item ∈ items from listed)
      simp
      omega
  | _ => exact absurd listed List.not_mem_nil

theorem find?_of_get_ne_null {key : String} {entries : List (Value × Value)}
    (filled : get key entries ≠ .null) : find? key entries = some (get key entries) := by
  unfold get at filled ⊢
  cases found : find? key entries with
  | none => exact absurd (by rw [found]; rfl) filled
  | some v => rfl

end Value

namespace Record

variable {key : String} {entries : List (Value × Value)}

/-! ## The parts of a record -/

theorem part_val (key : String) (entries : List (Value × Value)) :
    (part key entries).1 = Value.get key entries := by
  unfold part Value.get
  split <;> simp [*]

theorem sizeOf_get_le (key : String) (entries : List (Value × Value)) :
    sizeOf (Value.get key entries) ≤ sizeOf entries := by
  rw [← part_val]
  exact (part key entries).2

theorem sizeOf_lt_of_mem_items_get {item : Value} (listed : item ∈ (Value.get key entries).items) :
    sizeOf item < sizeOf entries :=
  Nat.lt_of_lt_of_le (Value.sizeOf_lt_of_mem_items listed) (sizeOf_get_le key entries)

theorem listed_eq_ok_iff {refuse : Value → RecordFault}
    {l : { l : List Value // sizeOf l ≤ sizeOf entries }} :
    listed refuse key entries = .ok l ↔
      (Value.get key entries).IsListing ∧ (Value.get key entries).items = l.1 := by
  rw [← part_val]
  unfold listed
  obtain ⟨v, bound⟩ := part key entries
  cases v with
  | list items =>
      rw [Except.ok.injEq, ← Subtype.val_inj]
      exact (and_iff_right fun _ => ⟨items, rfl⟩).symm
  | _ =>
      dsimp only
      split
      · next filled =>
          constructor
          · intro done
            split at done <;> cases done
          · rintro ⟨fits, -⟩
            obtain ⟨items, same⟩ := fits filled
            cases same
      · next empty =>
          rw [Except.ok.injEq, ← Subtype.val_inj]
          exact (and_iff_right fun filled => absurd filled empty).symm

theorem require_eq_ok_iff {tag : String} {v : { v : Value // sizeOf v ≤ sizeOf entries }} :
    require entries key tag = .ok v ↔ Value.find? key entries = some v.1 := by
  unfold require
  split
  · next w found =>
      rw [Except.ok.injEq, ← Subtype.val_inj]
      exact ⟨fun same => found.trans (congrArg some same),
        fun same => Option.some.inj (found.symm.trans same)⟩
  · next unbound =>
      constructor
      · intro done
        cases done
      · intro found
        rw [unbound] at found
        cases found

theorem exists_name_iff :
    (∃ s, name entries = .ok s) ↔ ∃ s, Value.find? "name" entries = some (.string s) := by
  unfold name Value.get
  cases Value.find? "name" entries with
  | none => simp
  | some v => cases v <;> simp

theorem exists_optional_iff :
    (∃ b, optional entries = .ok b) ↔
      ((Value.get "flags" entries).isTruthy →
        ∃ flags, Value.get "flags" entries = .map flags) := by
  unfold optional Value.orElse
  by_cases filled : (Value.get "flags" entries).isTruthy
  · rw [if_pos filled, forall_prop_of_true filled]
    cases Value.get "flags" entries <;> simp
  · rw [if_neg filled]
    exact iff_of_true ⟨_, rfl⟩ fun absent => absurd absent filled

/-- What lies under a key is a listing, and its items are read with the given outcomes. -/
def Reads {α : Type} (read : Value → Except Fault α) (key : String)
    (entries : List (Value × Value)) (out : List α) : Prop :=
  (Value.get key entries).IsListing ∧
    List.Forall₂ (fun item a => read item = .ok a) (Value.get key entries).items out

theorem exists_listed_iff {α : Type} {read : Value → Except Fault α}
    {refuse : Value → RecordFault} {holds : List α → Prop} :
    (∃ l, listed refuse key entries = .ok l ∧ ∃ out, l.1.mapM read = .ok out ∧ holds out) ↔
      ∃ out, Reads read key entries out ∧ holds out := by
  constructor
  · rintro ⟨l, found, out, done, rest⟩
    obtain ⟨fits, same⟩ := listed_eq_ok_iff.mp found
    exact ⟨out, ⟨fits, same ▸ mapM_eq_ok_iff.mp done⟩, rest⟩
  · rintro ⟨out, ⟨fits, done⟩, rest⟩
    have bound := Nat.le_trans (Value.sizeOf_items_le _) (sizeOf_get_le key entries)
    exact ⟨⟨_, bound⟩, listed_eq_ok_iff.mpr ⟨fits, rfl⟩, out, mapM_eq_ok_iff.mpr done, rest⟩

theorem exists_reads_iff {α : Type} {read : Value → Except Fault α} :
    (∃ out, Reads read key entries out) ↔
      (Value.get key entries).IsListing ∧
        ∀ item ∈ (Value.get key entries).items, ∃ a, read item = .ok a := by
  unfold Reads
  rw [exists_and_left, exists_forall₂_iff]

end Record

/-! ## What the readers do -/

theorem Node.ofValues_eq_mapM (items : List Value) :
    Node.ofValues items = items.mapM Node.ofValue := by
  induction items with
  | nil =>
      rw [Node.ofValues]
      rfl
  | cons item rest ih => rw [Node.ofValues, List.mapM_cons, ih]

theorem TypeExpr.ofValues_eq_mapM (items : List Value) :
    TypeExpr.ofValues items = items.mapM TypeExpr.ofValue := by
  induction items with
  | nil =>
      rw [TypeExpr.ofValues]
      rfl
  | cons item rest ih => rw [TypeExpr.ofValues, List.mapM_cons, ih]

/-- A part that may hold a type: null gives none, and anything else has to be one. -/
def Record.ReadsType (v : Value) : Option TypeExpr → Prop
  | none => v = .null
  | some type => v ≠ .null ∧ TypeExpr.ofValue v = .ok type

theorem Record.readsType_null {type : Option TypeExpr} :
    ReadsType .null type ↔ (Except.ok none : Except Fault (Option TypeExpr)) = .ok type := by
  cases type <;> simp [ReadsType]

theorem Record.readsType_of_ne_null {v : Value} (filled : v ≠ .null) {type : Option TypeExpr} :
    ReadsType v type ↔ (TypeExpr.ofValue v).map some = .ok type := by
  cases read : TypeExpr.ofValue v <;> cases type <;> simp [ReadsType, Except.map, filled, read]

theorem Node.ofValue_map_eq_ok_iff {entries : List (Value × Value)} {n : Node} :
    Node.ofValue (.map entries) = .ok n ↔
      ∃ name, Record.name entries = .ok name ∧
      ∃ children, Record.Reads Node.ofValue "children" entries children ∧
      ∃ signatures, Record.Reads Node.ofValue "signatures" entries signatures ∧
      ∃ parameters, Record.Reads Node.ofValue "parameters" entries parameters ∧
      ∃ type, Record.ReadsType (Value.get "type" entries) type ∧
      ∃ optional, Record.optional entries = .ok optional ∧
      Node.mk name ((Value.get "kindString" entries).orElse (.string "")) (Record.comment entries)
        children signatures parameters type optional (Record.defaultValue entries) = n := by
  rw [Node.ofValue, ← Record.part_val "type"]
  simp only [Fault.bind_eq_ok_iff, Node.ofValues_eq_mapM, Record.exists_listed_iff]
  obtain ⟨v, bound⟩ := Record.part "type" entries
  cases v with
  | null => simp only [Fault.bind_eq_ok_iff, Fault.pure_eq_ok_iff, Record.readsType_null]
  | _ =>
      simp only [Fault.bind_eq_ok_iff, Fault.pure_eq_ok_iff, Record.readsType_of_ne_null, ne_eq,
        reduceCtorEq, not_false_eq_true]

theorem Record.require_eq_ok {tag key : String} {entries : List (Value × Value)} {v : Value}
    (bound : Value.find? key entries = some v) :
    require entries key tag = .ok ⟨v, Nat.le_of_lt (Value.sizeOf_find?_lt bound)⟩ :=
  require_eq_ok_iff.mpr bound

/-- What reading a record as a type gives, by the tag. -/
inductive TypeExpr.ReadsAs (entries : List (Value × Value)) : TypeExpr → Prop where
  | intrinsic {name : Value} (tag : Value.get "type" entries = .string "intrinsic")
      (named : Value.find? "name" entries = some name) : ReadsAs entries (.intrinsic name)
  | reference {name : Value} {arguments : List TypeExpr}
      (tag : Value.get "type" entries = .string "reference")
      (named : Value.find? "name" entries = some name)
      (read : Record.Reads TypeExpr.ofValue "typeArguments" entries arguments) :
      ReadsAs entries (.reference name arguments)
  | literal {value : Value} (tag : Value.get "type" entries = .string "stringLiteral")
      (bound : Value.find? "value" entries = some value) : ReadsAs entries (.literal value)
  | array {element : Value} {type : TypeExpr} (tag : Value.get "type" entries = .string "array")
      (bound : Value.find? "elementType" entries = some element)
      (read : TypeExpr.ofValue element = .ok type) : ReadsAs entries (.array type)
  | union {members : List TypeExpr} (tag : Value.get "type" entries = .string "union")
      (read : Record.Reads TypeExpr.ofValue "types" entries members) :
      ReadsAs entries (.union members)
  | inline {declaration : Value} {node : Node}
      (tag : Value.get "type" entries = .string "reflection")
      (bound : Value.find? "declaration" entries = some declaration)
      (read : Node.ofValue declaration = .ok node) : ReadsAs entries (.inline node)
  | unknown (tag : ∀ known ∈ Value.typeTags, Value.get "type" entries ≠ .string known) :
      ReadsAs entries (.unknown (Value.get "type" entries).display)

theorem TypeExpr.ofValue_map_eq_ok_iff {entries : List (Value × Value)} {t : TypeExpr} :
    TypeExpr.ofValue (.map entries) = .ok t ↔ TypeExpr.ReadsAs entries t := by
  rw [TypeExpr.ofValue]
  constructor
  · intro done
    split at done
    case h_7 =>
      cases done
      apply ReadsAs.unknown
      simpa [Value.typeTags] using ⟨‹_›, ‹_›, ‹_›, ‹_›, ‹_›, ‹_›⟩
    all_goals
      simp only [Fault.bind_eq_ok_iff, Fault.pure_eq_ok_iff, TypeExpr.ofValues_eq_mapM,
        Record.exists_listed_iff, Record.require_eq_ok_iff] at done
    · next tag =>
        obtain ⟨name, named, rfl⟩ := done
        exact .intrinsic tag named
    · next tag =>
        obtain ⟨arguments, read, name, named, rfl⟩ := done
        exact .reference tag named read
    · next tag =>
        obtain ⟨value, bound, rfl⟩ := done
        exact .literal tag bound
    · next tag =>
        obtain ⟨element, bound, type, read, rfl⟩ := done
        exact .array tag bound read
    · next tag =>
        obtain ⟨members, read, rfl⟩ := done
        exact .union tag read
    · next tag =>
        obtain ⟨declaration, bound, node, read, rfl⟩ := done
        exact .inline tag bound read
  · intro reads
    cases reads with
    | intrinsic tag named =>
        simp only [tag, Record.require_eq_ok named]
        rfl
    | reference tag named read =>
        simp only [tag, Fault.bind_eq_ok_iff, TypeExpr.ofValues_eq_mapM, Record.exists_listed_iff]
        exact ⟨_, read, _, Record.require_eq_ok named, rfl⟩
    | literal tag bound =>
        simp only [tag, Record.require_eq_ok bound]
        rfl
    | array tag bound read =>
        simp only [tag, Fault.bind_eq_ok_iff]
        exact ⟨_, Record.require_eq_ok bound, _, read, rfl⟩
    | union tag read =>
        simp only [tag, Fault.bind_eq_ok_iff, TypeExpr.ofValues_eq_mapM, Record.exists_listed_iff]
        exact ⟨_, read, rfl⟩
    | inline tag bound read =>
        simp only [tag, Fault.bind_eq_ok_iff]
        exact ⟨_, Record.require_eq_ok bound, _, read, rfl⟩
    | unknown tag =>
        split
        case h_7 => rfl
        all_goals
          next known => exact absurd known (tag _ (by simp [Value.typeTags]))

/-! ## Acceptance

The readers of nodes and of types call each other, so that both are settled at once. What a record
holds is smaller than the record: the step takes agreement on all smaller data for granted, and the
induction is on the size. -/

/-- On this data, the readers accept what the rules allow. -/
structure Value.Agrees (v : Value) : Prop where
  node : (∃ n, Node.ofValue v = .ok n) ↔ v.IsNode
  type : (∃ t, TypeExpr.ofValue v = .ok t) ↔ v.IsType

section Step

variable {entries : List (Value × Value)}
  (smaller : ∀ v : Value, sizeOf v < sizeOf entries → v.Agrees)

include smaller

theorem Record.exists_reads_node_iff (key : String) :
    (∃ out, Reads Node.ofValue key entries out) ↔
      (Value.get key entries).IsListing ∧ ∀ item ∈ (Value.get key entries).items, item.IsNode := by
  rw [exists_reads_iff]
  exact and_congr_right fun _ => forall₂_congr fun item listed =>
    (smaller item (sizeOf_lt_of_mem_items_get listed)).node

theorem Record.exists_reads_type_iff (key : String) :
    (∃ out, Reads TypeExpr.ofValue key entries out) ↔
      (Value.get key entries).IsListing ∧ ∀ item ∈ (Value.get key entries).items, item.IsType := by
  rw [exists_reads_iff]
  exact and_congr_right fun _ => forall₂_congr fun item listed =>
    (smaller item (sizeOf_lt_of_mem_items_get listed)).type

theorem Record.exists_readsType_iff :
    (∃ type, ReadsType (Value.get "type" entries) type) ↔
      (Value.get "type" entries ≠ .null → (Value.get "type" entries).IsType) := by
  have accepted : (∃ type, ReadsType (Value.get "type" entries) type) ↔
      (Value.get "type" entries ≠ .null →
        ∃ type, TypeExpr.ofValue (Value.get "type" entries) = .ok type) := by
    rw [Option.exists]
    by_cases absent : Value.get "type" entries = .null <;> simp [ReadsType, absent]
  rw [accepted]
  exact forall_congr' fun filled =>
    (smaller _ (Value.sizeOf_find?_lt (Value.find?_of_get_ne_null filled))).type

theorem Node.isOk_ofValue_map_iff :
    (∃ n, Node.ofValue (.map entries) = .ok n) ↔ (Value.map entries).IsNode := by
  simp only [Node.ofValue_map_eq_ok_iff]
  constructor
  · rintro ⟨_, name, named, children, readChildren, signatures, readSignatures, parameters,
      readParameters, type, typed, optional, flagged, -⟩
    obtain ⟨text, named⟩ := Record.exists_name_iff.mp ⟨name, named⟩
    obtain ⟨listChildren, nodeChildren⟩ :=
      (Record.exists_reads_node_iff smaller _).mp ⟨children, readChildren⟩
    obtain ⟨listSignatures, nodeSignatures⟩ :=
      (Record.exists_reads_node_iff smaller _).mp ⟨signatures, readSignatures⟩
    obtain ⟨listParameters, nodeParameters⟩ :=
      (Record.exists_reads_node_iff smaller _).mp ⟨parameters, readParameters⟩
    refine .record named ?_ ?_ ((Record.exists_readsType_iff smaller).mp ⟨type, typed⟩)
      (Record.exists_optional_iff.mp ⟨optional, flagged⟩)
    · simpa [Value.nodeLists] using ⟨listChildren, listSignatures, listParameters⟩
    · simpa [Value.nodeLists] using ⟨nodeChildren, nodeSignatures, nodeParameters⟩
  · rintro (@⟨_, _, named, listings, members, typed, flagged⟩)
    have reads : ∀ key ∈ Value.nodeLists, ∃ out, Record.Reads Node.ofValue key entries out :=
      fun key known =>
        (Record.exists_reads_node_iff smaller key).mpr ⟨listings key known, members key known⟩
    obtain ⟨name, named⟩ := Record.exists_name_iff.mpr ⟨_, named⟩
    obtain ⟨children, readChildren⟩ := reads "children" (by simp [Value.nodeLists])
    obtain ⟨signatures, readSignatures⟩ := reads "signatures" (by simp [Value.nodeLists])
    obtain ⟨parameters, readParameters⟩ := reads "parameters" (by simp [Value.nodeLists])
    obtain ⟨type, typed⟩ := (Record.exists_readsType_iff smaller).mpr typed
    obtain ⟨optional, flagged⟩ := Record.exists_optional_iff.mpr flagged
    exact ⟨_, name, named, children, readChildren, signatures, readSignatures, parameters,
      readParameters, type, typed, optional, flagged, rfl⟩

theorem TypeExpr.isOk_ofValue_map_iff :
    (∃ t, TypeExpr.ofValue (.map entries) = .ok t) ↔ (Value.map entries).IsType := by
  simp only [TypeExpr.ofValue_map_eq_ok_iff]
  constructor
  · rintro ⟨t, reads⟩
    cases reads with
    | intrinsic tag named => exact .intrinsic tag named
    | reference tag named read =>
        obtain ⟨listing, each⟩ := (Record.exists_reads_type_iff smaller _).mp ⟨_, read⟩
        exact .reference tag named listing each
    | literal tag bound => exact .literal tag bound
    | array tag bound read =>
        exact .array tag bound ((smaller _ (Value.sizeOf_find?_lt bound)).type.mp ⟨_, read⟩)
    | union tag read =>
        obtain ⟨listing, each⟩ := (Record.exists_reads_type_iff smaller _).mp ⟨_, read⟩
        exact .union tag listing each
    | inline tag bound read =>
        exact .inline tag bound ((smaller _ (Value.sizeOf_find?_lt bound)).node.mp ⟨_, read⟩)
    | unknown tag => exact .other tag
  · intro typed
    cases typed with
    | intrinsic tag named => exact ⟨_, .intrinsic tag named⟩
    | reference tag named listing each =>
        obtain ⟨_, read⟩ := (Record.exists_reads_type_iff smaller _).mpr ⟨listing, each⟩
        exact ⟨_, .reference tag named read⟩
    | literal tag bound => exact ⟨_, .literal tag bound⟩
    | array tag bound typed =>
        obtain ⟨_, read⟩ := (smaller _ (Value.sizeOf_find?_lt bound)).type.mpr typed
        exact ⟨_, .array tag bound read⟩
    | union tag listing each =>
        obtain ⟨_, read⟩ := (Record.exists_reads_type_iff smaller _).mpr ⟨listing, each⟩
        exact ⟨_, .union tag read⟩
    | inline tag bound node =>
        obtain ⟨_, read⟩ := (smaller _ (Value.sizeOf_find?_lt bound)).node.mpr node
        exact ⟨_, .inline tag bound read⟩
    | other tag => exact ⟨_, .unknown tag⟩

end Step

theorem Node.exists_map_of_ofValue_eq_ok {v : Value} {n : Node} (done : Node.ofValue v = .ok n) :
    ∃ entries, v = .map entries := by
  cases v with
  | map entries => exact ⟨entries, rfl⟩
  | _ =>
      rw [Node.ofValue] at done
      · cases done
      · intro _ same
        cases same

theorem TypeExpr.exists_map_of_ofValue_eq_ok {v : Value} {t : TypeExpr}
    (done : TypeExpr.ofValue v = .ok t) : ∃ entries, v = .map entries := by
  cases v with
  | map entries => exact ⟨entries, rfl⟩
  | _ =>
      rw [TypeExpr.ofValue] at done
      · cases done
      · intro _ same
        cases same

theorem Value.agrees (v : Value) : v.Agrees := by
  cases v with
  | map entries =>
      have smaller : ∀ v : Value, sizeOf v < sizeOf entries → v.Agrees := fun v _ => v.agrees
      exact ⟨Node.isOk_ofValue_map_iff smaller, TypeExpr.isOk_ofValue_map_iff smaller⟩
  | _ =>
      constructor
      · constructor
        · rintro ⟨n, done⟩
          obtain ⟨entries, record⟩ := Node.exists_map_of_ofValue_eq_ok done
          cases record
        · rintro ⟨⟩
      · constructor
        · rintro ⟨t, done⟩
          obtain ⟨entries, record⟩ := TypeExpr.exists_map_of_ofValue_eq_ok done
          cases record
        · rintro ⟨⟩
termination_by sizeOf v

/-! ## What is read -/

theorem Node.reads_of_ofValue_eq_ok {v : Value} {n : Node} (done : Node.ofValue v = .ok n) :
    ∃ entries, v = .map entries ∧
      Record.Reads Node.ofValue "children" entries n.children ∧
      Record.Reads Node.ofValue "signatures" entries n.signatures ∧
      Record.Reads Node.ofValue "parameters" entries n.parameters := by
  obtain ⟨entries, rfl⟩ := exists_map_of_ofValue_eq_ok done
  obtain ⟨_, _, children, readChildren, signatures, readSignatures, parameters, readParameters, _,
    _, _, _, rfl⟩ := ofValue_map_eq_ok_iff.mp done
  exact ⟨entries, rfl, readChildren, readSignatures, readParameters⟩

theorem TypeExpr.reads_of_ofValue_eq_reference {v name : Value} {arguments : List TypeExpr}
    (done : TypeExpr.ofValue v = .ok (.reference name arguments)) :
    ∃ entries, v = .map entries ∧
      Record.Reads TypeExpr.ofValue "typeArguments" entries arguments := by
  obtain ⟨entries, rfl⟩ := exists_map_of_ofValue_eq_ok done
  cases ofValue_map_eq_ok_iff.mp done with
  | reference _ _ read => exact ⟨entries, rfl, read⟩

theorem TypeExpr.reads_of_ofValue_eq_union {v : Value} {members : List TypeExpr}
    (done : TypeExpr.ofValue v = .ok (.union members)) :
    ∃ entries, v = .map entries ∧ Record.Reads TypeExpr.ofValue "types" entries members := by
  obtain ⟨entries, rfl⟩ := exists_map_of_ofValue_eq_ok done
  cases ofValue_map_eq_ok_iff.mp done with
  | union _ read => exact ⟨entries, rfl, read⟩

/-- Data of any kind and depth is read as a node or as a type exactly if the rules allow it. What is
read has one child, signature, parameter, argument or member for each item listed, in order. -/
theorem Value.read_exactly_by_rules (v : Value) :
    ((∃ n, Node.ofValue v = .ok n) ↔ v.IsNode) ∧
      ((∃ t, TypeExpr.ofValue v = .ok t) ↔ v.IsType) ∧
      (∀ n, Node.ofValue v = .ok n → ∃ entries, v = .map entries ∧
        Record.Reads Node.ofValue "children" entries n.children ∧
        Record.Reads Node.ofValue "signatures" entries n.signatures ∧
        Record.Reads Node.ofValue "parameters" entries n.parameters) ∧
      (∀ name arguments, TypeExpr.ofValue v = .ok (.reference name arguments) →
        ∃ entries, v = .map entries ∧
          Record.Reads TypeExpr.ofValue "typeArguments" entries arguments) ∧
      ∀ members, TypeExpr.ofValue v = .ok (.union members) →
        ∃ entries, v = .map entries ∧ Record.Reads TypeExpr.ofValue "types" entries members :=
  ⟨v.agrees.node, v.agrees.type, fun _ => Node.reads_of_ofValue_eq_ok,
    fun _ _ => TypeExpr.reads_of_ofValue_eq_reference,
    fun _ => TypeExpr.reads_of_ofValue_eq_union⟩

/-- Empty data of any kind lists nothing, but flags that are set have to be a mapping. -/
example :
    (Node.ofValue (.map [(.string "name", .string "a"), (.string "children", .int 0),
      (.string "type", .map [(.string "type", .string "union"), (.string "types", .string "")]),
      (.string "flags", .bool false)])).toOption.isSome ∧
    (Node.ofValue (.map [(.string "name", .string "a"),
      (.string "flags", .bool true)])).toOption.isNone := by decide +kernel

end Bindery
