import Bindery.Node.TypeText
import Bindery.Proofs.Drafting

/-!
# When types have texts

Alternatives are joined only if all of them are texts. A type has a text whenever the names and
literals in it are texts, however its parts are nested.
-/

namespace Bindery

/-! ## Alternatives and named types -/

theorem Value.textOr_eq_ok_iff {fault : Fault} {value : Value} {text : String} :
    value.textOr fault = .ok text ↔ value = .string text := by
  cases value <;> simp [textOr]

theorem Value.mapM_textOr_eq_ok_iff {fault : Fault} {values : List Value} {texts : List String} :
    values.mapM (Value.textOr fault) = .ok texts ↔ values = texts.map .string := by
  rw [mapM_eq_ok_iff, ← List.forall₂_eq_eq_eq, List.forall₂_map_right_iff]
  simp only [textOr_eq_ok_iff]

namespace TypeText

theorem alternatives_eq_ok_iff {values : List Value} {joined : String} :
    alternatives values = .ok joined ↔
      ∃ texts : List String, values = texts.map .string ∧ "|".intercalate texts = joined := by
  rw [alternatives, Fault.bind_eq_ok_iff]
  constructor
  · rintro ⟨texts, parts, result⟩
    exact ⟨texts, Value.mapM_textOr_eq_ok_iff.mp parts, Except.ok.inj result⟩
  · rintro ⟨texts, parts, rfl⟩
    exact ⟨texts, Value.mapM_textOr_eq_ok_iff.mpr parts, rfl⟩

/-- A named type shows its name in brackets first. -/
theorem named_eq_ok {name : Value} {arguments : Draft (List Value)} {v : Value}
    (result : (named name arguments).outcome = .ok v) :
    ∃ after, v = .string ("[" ++ name.display ++ "]" ++ after) := by
  unfold named at result
  split at result
  · obtain ⟨texts, -, result⟩ := Draft.bind_eq_ok_iff.mp result
    obtain ⟨inside, -, result⟩ := Draft.bind_eq_ok_iff.mp result
    cases result
    exact ⟨"<" ++ inside ++ ">", by simp [← String.toList_inj]⟩
  · cases result
    exact ⟨"", by rw [String.append_empty]⟩

theorem named_promise_eq_ok {arguments : Draft (List Value)} {v : Value}
    (result : (named (.string "Promise") arguments).outcome = .ok v) :
    ∃ texts inside, arguments.outcome = .ok texts ∧ alternatives texts = .ok inside ∧
      v = .string ("[Promise]<" ++ inside ++ ">") := by
  obtain ⟨texts, arguments, result⟩ := Draft.bind_eq_ok_iff.mp result
  obtain ⟨inside, joined, result⟩ := Draft.bind_eq_ok_iff.mp result
  cases result
  exact ⟨texts, inside, arguments, joined, rfl⟩

theorem named_of_texts {name : Value} {arguments : Draft (List Value)} {texts : List String}
    (done : arguments.outcome = .ok (texts.map .string)) :
    ∃ s, (named name arguments).outcome = .ok (.string s) := by
  have joined := alternatives_eq_ok_iff.mpr ⟨texts, rfl, rfl⟩
  unfold named
  split
  · exact ⟨_, by rw [Draft.outcome_bind_of_ok done, joined]; rfl⟩
  · exact ⟨_, rfl⟩

end TypeText

/-! ## The text of a type literal -/

namespace Node

variable {n : Node}

theorem declarationText_of_children (literal : n.kind = .typeLiteral) (filled : n.children ≠ []) :
    n.declarationText = do return TypeText.object (← memberTexts n.children) := by
  obtain ⟨name, kindName, comment, children, signatures, parameters, type, optional, value⟩ := n
  cases children with
  | nil => exact absurd rfl filled
  | cons child more =>
      unfold declarationText
      split
      · rfl
      · next other => exact absurd literal other

theorem declarationText_of_signature (literal : n.kind = .typeLiteral) (empty : n.children = [])
    {signature : Node} {more : List Node} (called : n.signatures = signature :: more) :
    n.declarationText = TypeExpr.textOrEmpty signature.type := by
  obtain ⟨name, kindName, comment, children, signatures, parameters, type, optional, value⟩ := n
  obtain rfl : children = [] := empty
  obtain rfl : signatures = signature :: more := called
  obtain ⟨_, _, _, _, _, _, type, _, _⟩ := signature
  unfold declarationText
  split
  · rfl
  · next other => exact absurd literal other

/-- What is no type literal with members or signatures has the empty text. -/
theorem declarationText_of_neither (other : n.kind = .typeLiteral → n.children = [])
    (uncalled : n.kind = .typeLiteral → n.signatures = []) :
    n.declarationText.outcome = .ok (.string "") := by
  obtain ⟨name, kindName, comment, children, signatures, parameters, type, optional, value⟩ := n
  unfold declarationText
  split
  · next literal =>
      obtain rfl : children = [] := other literal
      obtain rfl : signatures = [] := uncalled literal
      rfl
  · rfl

end Node

/-! ## Types whose names and literals are texts -/

mutual

/-- Are the names and literals of the type texts? -/
def TypeExpr.isTextual : TypeExpr → Bool
  | .intrinsic name | .literal name => name.text?.isSome
  | .reference name arguments => name.text?.isSome && TypeExpr.areTextual arguments
  | .array element => element.isTextual
  | .union members => TypeExpr.areTextual members
  | .inline declaration => declaration.hasTextualTypes
  | .unknown _ => true

def TypeExpr.areTextual : List TypeExpr → Bool
  | [] => true
  | type :: rest => type.isTextual && TypeExpr.areTextual rest

/-- A type that is missing is no obstacle. -/
def TypeExpr.isTextualIfAny : Option TypeExpr → Bool
  | none => true
  | some type => type.isTextual

/-- Are the types that the node and its parts are declared with textual? -/
def Node.hasTextualTypes : Node → Bool
  | .mk _ _ _ children signatures _ type _ _ =>
      TypeExpr.isTextualIfAny type && Node.haveTextualTypes children &&
        Node.haveTextualTypes signatures

def Node.haveTextualTypes : List Node → Bool
  | [] => true
  | node :: rest => node.hasTextualTypes && Node.haveTextualTypes rest

end

mutual

theorem TypeExpr.text_of_isTextual {type : TypeExpr} (textual : type.isTextual) :
    ∃ s, type.text.outcome = .ok (.string s) := by
  match type with
  | .intrinsic name | .literal name =>
      rw [TypeExpr.isTextual] at textual
      cases name with
      | string s => exact ⟨s, by rw [TypeExpr.text]; rfl⟩
      | _ => cases textual
  | .reference name arguments =>
      rw [TypeExpr.isTextual, Bool.and_eq_true] at textual
      obtain ⟨texts, done⟩ := TypeExpr.texts_of_areTextual textual.2
      rw [TypeExpr.text]
      exact TypeText.named_of_texts done
  | .array element =>
      rw [TypeExpr.isTextual] at textual
      obtain ⟨s, done⟩ := TypeExpr.text_of_isTextual textual
      exact ⟨_, by rw [TypeExpr.text, Draft.outcome_bind_of_ok done]; rfl⟩
  | .union members =>
      rw [TypeExpr.isTextual] at textual
      obtain ⟨texts, done⟩ := TypeExpr.texts_of_areTextual textual
      have joined := TypeText.alternatives_eq_ok_iff.mpr ⟨texts, rfl, rfl⟩
      exact ⟨_, by rw [TypeExpr.text, Draft.outcome_bind_of_ok done, joined]; rfl⟩
  | .inline declaration =>
      rw [TypeExpr.isTextual] at textual
      rw [TypeExpr.text]
      exact Node.declarationText_of_hasTextualTypes textual
  | .unknown tag => exact ⟨"", by rw [TypeExpr.text]; rfl⟩

theorem TypeExpr.texts_of_areTextual {types : List TypeExpr} (textual : TypeExpr.areTextual types) :
    ∃ texts : List String, (TypeExpr.texts types).outcome = .ok (texts.map .string) := by
  match types with
  | [] => exact ⟨[], by rw [TypeExpr.texts]; rfl⟩
  | type :: rest =>
      rw [TypeExpr.areTextual, Bool.and_eq_true] at textual
      obtain ⟨s, first⟩ := TypeExpr.text_of_isTextual textual.1
      obtain ⟨more, remaining⟩ := TypeExpr.texts_of_areTextual textual.2
      refine ⟨s :: more, ?_⟩
      rw [TypeExpr.texts, Draft.outcome_bind_of_ok first, Draft.outcome_bind_of_ok remaining]
      rfl

theorem TypeExpr.textOrEmpty_of_isTextualIfAny {type : Option TypeExpr}
    (textual : TypeExpr.isTextualIfAny type) :
    ∃ s, (TypeExpr.textOrEmpty type).outcome = .ok (.string s) := by
  match type with
  | none => exact ⟨"", by rw [TypeExpr.textOrEmpty]; rfl⟩
  | some type =>
      rw [TypeExpr.isTextualIfAny] at textual
      rw [TypeExpr.textOrEmpty]
      exact TypeExpr.text_of_isTextual textual

theorem Node.declarationText_of_hasTextualTypes {n : Node} (textual : n.hasTextualTypes) :
    ∃ s, n.declarationText.outcome = .ok (.string s) := by
  by_cases literal : n.kind = .typeLiteral
  · match n with
    | .mk name kindName comment children signatures parameters type optional value =>
        rw [Node.hasTextualTypes, Bool.and_eq_true, Bool.and_eq_true] at textual
        obtain ⟨⟨-, membersTextual⟩, signaturesTextual⟩ := textual
        by_cases empty : children = []
        · match signatures with
          | [] => exact ⟨"", Node.declarationText_of_neither (fun _ => empty) (fun _ => rfl)⟩
          | .mk _ _ _ _ _ _ result _ _ :: more =>
              simp only [Node.haveTextualTypes, Node.hasTextualTypes, Bool.and_eq_true]
                at signaturesTextual
              rw [Node.declarationText_of_signature literal empty rfl]
              exact TypeExpr.textOrEmpty_of_isTextualIfAny signaturesTextual.1.1.1
        · obtain ⟨texts, done⟩ := Node.memberTexts_of_haveTextualTypes membersTextual
          rw [Node.declarationText_of_children literal empty]
          exact ⟨_, Draft.outcome_bind_of_ok done _⟩
  · exact ⟨"", Node.declarationText_of_neither (absurd · literal) (absurd · literal)⟩

theorem Node.memberTexts_of_haveTextualTypes {nodes : List Node}
    (textual : Node.haveTextualTypes nodes) :
    ∃ texts, (Node.memberTexts nodes).outcome = .ok texts := by
  match nodes with
  | [] => exact ⟨[], by rw [Node.memberTexts]; rfl⟩
  | .mk _ _ _ _ _ _ type _ _ :: rest =>
      simp only [Node.haveTextualTypes, Node.hasTextualTypes, Bool.and_eq_true] at textual
      obtain ⟨s, first⟩ := TypeExpr.textOrEmpty_of_isTextualIfAny textual.1.1.1
      obtain ⟨more, remaining⟩ := Node.memberTexts_of_haveTextualTypes textual.2
      rw [Node.memberTexts, Draft.outcome_bind_of_ok first, Draft.outcome_bind_of_ok remaining]
      exact ⟨_, rfl⟩

end

end Bindery
