import Bindery.Proofs.Tracking
import Bindery.Proofs.TypeLiterals
import Bindery.Proofs.TypeTokens

/-!
# Types on one line

The text of a type breaks its line exactly if a name or a literal that it shows as it is given does.
An object never breaks it, however deep names and literals with line breaks stand inside, since it is
written as a JSON text. The line of a parameter breaks where its name does, too.
-/

namespace Bindery

/-! ## Texts that break a line -/

namespace Text

/-- Does the text hold a line feed or a carriage return? -/
def breaksLine (s : String) : Bool := s.toList.any fun c => c = '\n' || c = '\r'

theorem breaksLine_iff {s : String} :
    breaksLine s ↔ '\n' ∈ s.toList ∨ '\r' ∈ s.toList := by
  simp only [breaksLine, List.any_eq_true, Bool.or_eq_true, decide_eq_true_eq]
  constructor
  · rintro ⟨c, listed, rfl | rfl⟩
    · exact .inl listed
    · exact .inr listed
  · rintro (feed | back)
    · exact ⟨_, feed, .inl rfl⟩
    · exact ⟨_, back, .inr rfl⟩

@[simp] theorem breaksLine_append (s t : String) :
    breaksLine (s ++ t) = (breaksLine s || breaksLine t) := by
  rw [breaksLine, String.toList_append, List.any_append]
  rfl

theorem breaksLine_intercalate {sep : String} (free : breaksLine sep = false)
    (texts : List String) : breaksLine (sep.intercalate texts) = texts.any breaksLine := by
  induction texts with
  | nil => rfl
  | cons first rest ih =>
      cases rest with
      | nil => rw [String.intercalate_singleton, List.any_cons, List.any_nil, Bool.or_false]
      | cons second more =>
          rw [String.intercalate_cons_cons, breaksLine_append, breaksLine_append, free,
            Bool.or_false, ih]
          rfl

theorem breaksLine_eq_false_of_subset {s t : String} (inside : ∀ c ∈ s.toList, c ∈ t.toList)
    (free : breaksLine t = false) : breaksLine s = false := by
  rw [breaksLine, List.any_eq_false] at free ⊢
  exact fun c listed => free c (inside c listed)

theorem mem_of_mem_strip {s : String} {c : Char} (listed : c ∈ (strip s).toList) :
    c ∈ s.toList := by
  rw [strip, String.toList_ofList, trim, List.mem_reverse] at listed
  have inner := List.mem_reverse.mp ((List.dropWhile_sublist _).subset listed)
  exact (List.dropWhile_sublist _).subset inner

end Text

/-! ## Types that break their line -/

/-- Does a named type break the line? A promise shows what it is a promise of. -/
def TypeText.namedBreaksLine (name : Value) (inside : Bool) : Bool :=
  match name with
  | .string "Promise" => inside
  | name => Text.breaksLine name.display

mutual

/-- Does the type show a name or a literal that breaks the line? -/
def TypeExpr.breaksLine : TypeExpr → Bool
  | .intrinsic name => Text.breaksLine name.display
  | .literal value => Text.breaksLine value.display
  | .array element => element.breaksLine
  | .union members => TypeExpr.anyBreaksLine members
  | .reference name arguments =>
      TypeText.namedBreaksLine name (TypeExpr.anyBreaksLine arguments)
  | .inline declaration => declaration.declarationBreaksLine
  | .unknown _ => false

def TypeExpr.anyBreaksLine : List TypeExpr → Bool
  | [] => false
  | type :: rest => type.breaksLine || TypeExpr.anyBreaksLine rest

def TypeExpr.breaksLineIfAny : Option TypeExpr → Bool
  | none => false
  | some type => type.breaksLine

/-- A declaration with members is an object and breaks no line. -/
def Node.declarationBreaksLine : Node → Bool
  | .mk _ kindName _ children signatures _ _ _ _ =>
      match Kind.ofValue kindName with
      | .typeLiteral =>
          match children, signatures with
          | _ :: _, _ => false
          | [], .mk _ _ _ _ _ _ type _ _ :: _ => TypeExpr.breaksLineIfAny type
          | [], [] => false
      | _ => false

end

namespace TypeText

theorem breaksLine_alternatives {texts : List String} {joined : String}
    (done : alternatives (texts.map .string) = .ok joined) :
    Text.breaksLine joined = texts.any Text.breaksLine := by
  obtain ⟨same, listed, rfl⟩ := alternatives_eq_ok_iff.mp done
  rw [List.map_injective_iff.mpr (fun _ _ => Value.string.inj) listed]
  exact Text.breaksLine_intercalate rfl same

/-- An object is written without control characters. -/
theorem breaksLine_object {texts : List (String × String)} {s : String}
    (done : object (texts.map fun member => (member.1, .string member.2)) = .string s) :
    Text.breaksLine s = false := by
  rw [object_of_texts] at done
  cases done
  rw [Text.breaksLine, List.any_eq_false]
  intro c listed
  have printed := Json.le_of_mem_write_ofTexts listed
  have high {d : Char} (control : d.toNat < 32) : c ≠ d := by
    rintro rfl
    omega
  simp [high (d := '\n') (by decide), high (d := '\r') (by decide)]

theorem breaksLine_named {name : Value} {arguments : Draft (List Value)} {texts : List String}
    {s : String} (given : arguments.outcome = .ok (texts.map .string))
    (done : (named name arguments).outcome = .ok (.string s)) :
    Text.breaksLine s = namedBreaksLine name (texts.any Text.breaksLine) := by
  have opening : Text.breaksLine "[" = false := rfl
  have closing : Text.breaksLine "]" = false := rfl
  unfold named at done
  split at done
  · rw [Draft.outcome_bind_of_ok given] at done
    obtain ⟨inside, joined, done⟩ := Draft.bind_eq_ok_iff.mp done
    cases done
    have promise : Text.breaksLine "[Promise]<" = false := rfl
    have ending : Text.breaksLine ">" = false := rfl
    rw [Text.breaksLine_append, Text.breaksLine_append, promise, ending, Bool.false_or,
      Bool.or_false, breaksLine_alternatives joined]
    rfl
  · next other =>
      cases done
      rw [Text.breaksLine_append, Text.breaksLine_append, opening, closing, Bool.false_or,
        Bool.or_false]
      unfold namedBreaksLine
      split
      · exact absurd rfl other
      · rfl

end TypeText

mutual

theorem TypeExpr.breaksLine_of_text {type : TypeExpr} (textual : type.isTextual) {s : String}
    (done : type.text.outcome = .ok (.string s)) : Text.breaksLine s = type.breaksLine := by
  match type with
  | .intrinsic name | .literal name =>
      rw [TypeExpr.text] at done
      cases done
      rw [TypeExpr.breaksLine]
      rfl
  | .reference name arguments =>
      rw [TypeExpr.isTextual, Bool.and_eq_true] at textual
      obtain ⟨texts, given, breaks⟩ := TypeExpr.breaksLine_of_texts textual.2
      rw [TypeExpr.text] at done
      rw [TypeText.breaksLine_named given done, breaks, TypeExpr.breaksLine]
  | .array element =>
      rw [TypeExpr.isTextual] at textual
      obtain ⟨inner, given⟩ := TypeExpr.text_of_isTextual textual
      rw [TypeExpr.text, Draft.outcome_bind_of_ok given] at done
      cases done
      have brackets : Text.breaksLine "[]" = false := rfl
      rw [Value.display_string, Text.breaksLine_append, brackets, Bool.or_false,
        TypeExpr.breaksLine_of_text textual given, TypeExpr.breaksLine]
  | .union members =>
      rw [TypeExpr.isTextual] at textual
      obtain ⟨texts, given, breaks⟩ := TypeExpr.breaksLine_of_texts textual
      rw [TypeExpr.text, Draft.outcome_bind_of_ok given] at done
      obtain ⟨joined, inside, done⟩ := Draft.bind_eq_ok_iff.mp done
      cases done
      rw [TypeText.breaksLine_alternatives inside, breaks, TypeExpr.breaksLine]
  | .inline declaration =>
      rw [TypeExpr.isTextual] at textual
      rw [TypeExpr.text] at done
      rw [TypeExpr.breaksLine]
      exact Node.breaksLine_of_declarationText textual done
  | .unknown tag =>
      rw [TypeExpr.text] at done
      cases done
      rw [TypeExpr.breaksLine]
      rfl

theorem TypeExpr.breaksLine_of_texts {types : List TypeExpr}
    (textual : TypeExpr.areTextual types) :
    ∃ texts : List String, (TypeExpr.texts types).outcome = .ok (texts.map .string) ∧
      texts.any Text.breaksLine = TypeExpr.anyBreaksLine types := by
  match types with
  | [] => exact ⟨[], by rw [TypeExpr.texts]; rfl, by rw [TypeExpr.anyBreaksLine]; rfl⟩
  | type :: rest =>
      rw [TypeExpr.areTextual, Bool.and_eq_true] at textual
      obtain ⟨s, first⟩ := TypeExpr.text_of_isTextual textual.1
      obtain ⟨more, remaining, breaks⟩ := TypeExpr.breaksLine_of_texts textual.2
      refine ⟨s :: more, ?_, ?_⟩
      · rw [TypeExpr.texts, Draft.outcome_bind_of_ok first, Draft.outcome_bind_of_ok remaining]
        rfl
      · rw [List.any_cons, TypeExpr.breaksLine_of_text textual.1 first, breaks,
          TypeExpr.anyBreaksLine]

theorem TypeExpr.breaksLine_of_textOrEmpty {type : Option TypeExpr}
    (textual : TypeExpr.isTextualIfAny type) {s : String}
    (done : (TypeExpr.textOrEmpty type).outcome = .ok (.string s)) :
    Text.breaksLine s = TypeExpr.breaksLineIfAny type := by
  match type with
  | none =>
      rw [TypeExpr.textOrEmpty] at done
      cases done
      rw [TypeExpr.breaksLineIfAny]
      rfl
  | some type =>
      rw [TypeExpr.isTextualIfAny] at textual
      rw [TypeExpr.textOrEmpty] at done
      rw [TypeExpr.breaksLineIfAny]
      exact TypeExpr.breaksLine_of_text textual done

theorem Node.breaksLine_of_declarationText {n : Node} (textual : n.hasTextualTypes) {s : String}
    (done : n.declarationText.outcome = .ok (.string s)) :
    Text.breaksLine s = n.declarationBreaksLine := by
  match n with
  | .mk name kindName _ children signatures _ _ _ _ =>
      rw [Node.hasTextualTypes, Bool.and_eq_true, Bool.and_eq_true] at textual
      obtain ⟨⟨-, membersTextual⟩, signaturesTextual⟩ := textual
      unfold Node.declarationText at done
      split at done
      · next literal =>
          unfold Node.declarationBreaksLine
          rw [literal]
          split at done
          · next child more =>
              obtain ⟨texts, given, -⟩ := Node.scan_of_memberTexts membersTextual
              rw [Draft.outcome_bind_of_ok given] at done
              exact TypeText.breaksLine_object (Except.ok.inj done)
          · simp only [Node.haveTextualTypes, Node.hasTextualTypes, Bool.and_eq_true]
              at signaturesTextual
            exact TypeExpr.breaksLine_of_textOrEmpty signaturesTextual.1.1.1 done
          · cases done
            rfl
      · next other =>
          cases done
          unfold Node.declarationBreaksLine
          split
          · next literal => exact absurd literal other
          · rfl

end

/-! ## Lines of parameters -/

theorem Writer.breaksLine_parameterLine (name type description : String) (optional : Bool) :
    Text.breaksLine (parameterLine name type description optional) =
      (Text.breaksLine name || Text.breaksLine type ||
        Text.breaksLine (Text.strip description)) := by
  have bullet : Text.breaksLine "* " = false := rfl
  have mark : Text.breaksLine "* \x60" = false := rfl
  have unmark : Text.breaksLine "\x60 " = false := rfl
  have blank : Text.breaksLine " " = false := rfl
  have opening : Text.breaksLine "<" = false := rfl
  have closing : Text.breaksLine ">" = false := rfl
  have slot : Text.breaksLine (if optional then "(Optional)" else "") = false := by
    cases optional <;> rfl
  unfold parameterLine
  dsimp only
  split
  · simp only [Text.breaksLine_append, bullet, blank, opening, closing, Bool.false_or,
      Bool.or_false]
  · simp only [Text.breaksLine_append, mark, unmark, blank, opening, closing, slot, Bool.false_or,
      Bool.or_false]

/-- The text of a type, and the line of a parameter of the type that is described without line
breaks. The text is one line exactly if no name or literal that is shown as it is given breaks it;
the line of the parameter is one exactly if the name of the parameter does not break it either. -/
theorem TypeExpr.text_breaks_line_iff {type : TypeExpr} (textual : type.isTextual) :
    ∃ s, type.text.outcome = .ok (.string s) ∧
      (('\n' ∈ s.toList ∨ '\r' ∈ s.toList) ↔ type.breaksLine) ∧
      ∀ name description optional, Text.breaksLine description = false →
        ∃ line, (Writer.parameter name type.text description optional).outcome = .ok () ∧
          (Writer.parameter name type.text description optional).lines = [.scanned line] ∧
          (('\n' ∈ line.toList ∨ '\r' ∈ line.toList) ↔
            Text.breaksLine name ∨ type.breaksLine) := by
  obtain ⟨s, done⟩ := text_of_isTextual textual
  have breaks := breaksLine_of_text textual done
  refine ⟨s, done, by rw [← breaks, Text.breaksLine_iff], ?_⟩
  intro name description optional free
  have written := Draft.lines_bind_of_ok done fun text =>
    Writer.line (Writer.parameterLine name text.display description optional)
  rw [lines_text] at written
  refine ⟨_, Draft.outcome_bind_of_ok done _, written, ?_⟩
  have stripped : Text.breaksLine (Text.strip description) = false :=
    Text.breaksLine_eq_false_of_subset (fun _ => Text.mem_of_mem_strip) free
  rw [← Text.breaksLine_iff, Writer.breaksLine_parameterLine, stripped, Bool.or_false,
    Bool.or_eq_true, Value.display_string, breaks]

/-- Line breaks in an argument that is not shown, and in names and literals of an object. -/
def TypeExpr.hiddenBreaks : TypeExpr :=
  .reference (.string "Promise") [
    .union [.array (.reference (.string "Page") [.literal (.string "\n")]), .inlineMembers [
      ("first\nsecond", .literal (.string "\r\n")),
      ("inner", .inlineMembers [("\r", .intrinsic (.string "a\nb"))])]]]

theorem TypeExpr.hiddenBreaks_stay_on_one_line :
    hiddenBreaks.isTextual ∧ Text.breaksLine "any [one] of" = false ∧
      ∃ s line, hiddenBreaks.text.outcome = .ok (.string s) ∧ ¬('\n' ∈ s.toList ∨ '\r' ∈ s.toList) ∧
        (Writer.parameter "page" hiddenBreaks.text "any [one] of" true).lines = [.scanned line] ∧
        ¬('\n' ∈ line.toList ∨ '\r' ∈ line.toList) := by
  have textual : hiddenBreaks.isTextual := by decide
  have hidden : hiddenBreaks.breaksLine = false := by decide
  have free : Text.breaksLine "any [one] of" = false := by decide
  have named : Text.breaksLine "page" = false := by decide
  obtain ⟨s, done, breaks, lines⟩ := text_breaks_line_iff textual
  obtain ⟨line, -, written, lineBreaks⟩ := lines "page" "any [one] of" true free
  have kept : ¬('\n' ∈ s.toList ∨ '\r' ∈ s.toList) := by
    rw [breaks, hidden]
    exact nofun
  have single : ¬('\n' ∈ line.toList ∨ '\r' ∈ line.toList) := by
    rw [lineBreaks, named, hidden]
    exact not_or_intro nofun nofun
  exact ⟨textual, free, s, line, done, kept, written, single⟩

/-- A separator is shown as it is, and takes the line of its parameter to the next line. -/
theorem TypeExpr.separator_breaks_its_line :
    let separator : TypeExpr := .literal (.string "\n")
    separator.isTextual ∧ (∃ s, separator.text.outcome = .ok (.string s) ∧ '\n' ∈ s.toList) ∧
      (Writer.parameter "separator" separator.text "" false).lines =
        [.scanned "* \x60separator\x60 <\n>  "] := by
  have shown : (TypeExpr.literal (.string "\n")).text.outcome = .ok (.string "\n") := by
    rw [TypeExpr.text]
    rfl
  exact ⟨by decide, ⟨"\n", shown, by decide⟩, by decide +kernel⟩

end Bindery
