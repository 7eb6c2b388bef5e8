import Bindery.Proofs.JsonTexts
import Bindery.Proofs.Tables
import Bindery.Proofs.TypeTexts
import Mathlib.Data.List.Forall2

/-!
# Type literals that are read back

The text of a type literal is a JSON object, and reading it gives what the members say: each name
once, where it first came, with the text of the type of the last member of that name. The texts are
objects themselves where literals are nested, and are escaped once more at every level.
-/

namespace Bindery

namespace Node

/-- The node has the name, and its type has the text; without a type the text is empty. -/
def IsShownAs (n : Node) (shown : String × String) : Prop :=
  n.name = shown.1 ∧ match n.type with
    | none => shown.2 = ""
    | some type => type.text.outcome = .ok (.string shown.2)

theorem isShownAs_of_textOrEmpty {n : Node} {s : String}
    (done : (TypeExpr.textOrEmpty n.type).outcome = .ok (.string s)) : n.IsShownAs (n.name, s) := by
  refine ⟨rfl, ?_⟩
  cases typed : n.type with
  | none =>
      rw [typed, TypeExpr.textOrEmpty] at done
      cases done
      rfl
  | some type => rwa [typed, TypeExpr.textOrEmpty] at done

theorem memberTexts_of_textual {nodes : List Node}
    (textual : ∀ node ∈ nodes, TypeExpr.isTextualIfAny node.type) :
    ∃ texts : List (String × String),
      (memberTexts nodes).outcome = .ok (texts.map fun shown => (shown.1, .string shown.2)) ∧
        List.Forall₂ IsShownAs nodes texts := by
  induction nodes with
  | nil => exact ⟨[], by rw [memberTexts]; rfl, .nil⟩
  | cons node rest ih =>
      obtain ⟨first, others⟩ := List.forall_mem_cons.mp textual
      obtain ⟨s, shown⟩ := TypeExpr.textOrEmpty_of_isTextualIfAny first
      obtain ⟨texts, done, each⟩ := ih others
      refine ⟨(node.name, s) :: texts, ?_, .cons (isShownAs_of_textOrEmpty shown) each⟩
      obtain ⟨name, _, _, _, _, _, type, _, _⟩ := node
      change (TypeExpr.textOrEmpty type).outcome = _ at shown
      rw [memberTexts, Draft.outcome_bind_of_ok shown, Draft.outcome_bind_of_ok done]
      rfl

theorem map_name_of_isShownAs {nodes : List Node} {texts : List (String × String)}
    (each : List.Forall₂ IsShownAs nodes texts) : nodes.map name = texts.map Prod.fst := by
  induction each with
  | nil => rfl
  | cons first _ ih => rw [List.map_cons, List.map_cons, first.1, ih]

/-- The last text under a name is that of the last node of the name. -/
theorem exists_last_of_isShownAs {nodes : List Node} {front back : List (String × String)}
    {shown : String × String} (each : List.Forall₂ IsShownAs nodes (front ++ shown :: back))
    (last : ∀ later ∈ back, later.1 ≠ shown.1) :
    ∃ before child after, nodes = before ++ child :: after ∧ child.IsShownAs shown ∧
      ∀ later ∈ after, later.name ≠ shown.1 := by
  have behind := List.forall₂_drop_append nodes front (shown :: back) each
  obtain ⟨child, after, found, others, split⟩ := List.forall₂_cons_right_iff.mp behind
  refine ⟨nodes.take front.length, child, after, ?_, found, fun later listed same => ?_⟩
  · rw [← split, List.take_append_drop]
  · have names := map_name_of_isShownAs others
    have known : later.name ∈ back.map Prod.fst := names ▸ List.mem_map_of_mem listed
    obtain ⟨entry, inside, named⟩ := List.mem_map.mp known
    exact last entry inside (named.trans same)

end Node

theorem TypeText.object_of_texts (texts : List (String × String)) :
    object (texts.map fun shown => (shown.1, .string shown.2)) =
      .string (Json.write .compact (.ofTexts (Table.ofList texts))) := by
  rw [object, Table.ofList_map, List.map_map]
  rfl

/-- A type literal with members is read back from its text: each name comes once, where it first
came, with the text of the type of the last member of the name. -/
theorem Node.declarationText_reads_back {n : Node} (literal : n.kind = .typeLiteral)
    (filled : n.children ≠ [])
    (textual : ∀ child ∈ n.children, TypeExpr.isTextualIfAny child.type) :
    ∃ s entries, n.declarationText.outcome = .ok (.string s) ∧
      Json.read s = .ok (.ofTexts entries) ∧
      entries.map Prod.fst = (n.children.map Node.name).eraseDups ∧
      (∀ entry ∈ entries, ∃ before child after, n.children = before ++ child :: after ∧
        child.IsShownAs entry ∧ ∀ later ∈ after, later.name ≠ entry.1) ∧
      ∀ c ∈ s.toList, 32 ≤ c.toNat := by
  obtain ⟨texts, done, each⟩ := memberTexts_of_textual textual
  have keys : (Table.ofList texts).map Prod.fst = (n.children.map Node.name).eraseDups := by
    rw [Table.keys_ofList, map_name_of_isShownAs each]
  refine ⟨Json.write .compact (.ofTexts (Table.ofList texts)), Table.ofList texts, ?_, ?_, keys,
    fun entry bound => ?_, fun c listed => Json.le_of_mem_write_ofTexts listed⟩
  · rw [declarationText_of_children literal filled, Draft.outcome_bind_of_ok done,
      TypeText.object_of_texts]
    rfl
  · have distinct : ((Table.ofList texts).map Prod.fst).Nodup := by
      rw [keys]
      exact Table.nodup_eraseDups _
    rw [Json.read_write_ofTexts, Table.ofList_of_nodup distinct]
  · obtain ⟨front, back, split, last⟩ := Table.exists_last_of_mem_ofList bound
    exact exists_last_of_isShownAs (split ▸ each) last

/-- A property of a type literal. -/
def Node.property (name : String) (type : Option TypeExpr) : Node :=
  .mk name (.string "Property") none [] [] [] type false none

/-- A type literal of the members. -/
def Node.literalOf (members : List Node) : Node :=
  .mk "__type" (.string "Type literal") none members [] [] none false none

/-- A literal with a literal inside it, control characters, and a name that comes twice. -/
def Node.nestedLiteral : Node :=
  literalOf [property "a\n" (some (.intrinsic (.string "string"))), property "b" none,
    property "a\n" (some (.inline (literalOf
      [property "c\"" (some (.array (.literal (.string "\x01"))))])))]

theorem Node.nestedLiteral_reads_back :
    nestedLiteral.kind = .typeLiteral ∧ nestedLiteral.children ≠ [] ∧
      (∀ child ∈ nestedLiteral.children, TypeExpr.isTextualIfAny child.type) ∧
      ∃ s entries, nestedLiteral.declarationText.outcome = .ok (.string s) ∧
        Json.read s = .ok (.ofTexts entries) ∧ entries.map Prod.fst = ["a\n", "b"] ∧
        ∀ c ∈ s.toList, 32 ≤ c.toNat := by
  have literal : nestedLiteral.kind = .typeLiteral := by decide
  have filled : nestedLiteral.children ≠ [] := List.cons_ne_nil _ _
  have textual : ∀ child ∈ nestedLiteral.children, TypeExpr.isTextualIfAny child.type := by
    decide
  have names : (nestedLiteral.children.map Node.name).eraseDups = ["a\n", "b"] := by
    decide +kernel
  obtain ⟨s, entries, done, back, keys, -, line⟩ :=
    declarationText_reads_back literal filled textual
  exact ⟨literal, filled, textual, s, entries, done, back, keys.trans names, line⟩

/-- The text of the inner literal is escaped once more. -/
example : Node.nestedLiteral.declarationText.outcome.toOption.bind Value.text? =
    some "\x7b\"a\\n\":\"\x7b\\\"c\\\\\\\"\\\":\\\"\\\\u0001[]\\\"\x7d\",\"b\":\"\"\x7d" := by
  decide +kernel

end Bindery
