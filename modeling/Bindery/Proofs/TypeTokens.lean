import Bindery.Proofs.JsonTexts
import Bindery.Proofs.TypeReferences

/-!
# The tokens of the text of a type

Which tokens the text of a type has is told from its parts alone: every part brings its own tokens,
in order, and what is written around the parts brings none. Bars, angle brackets and quotation marks
keep the tokens beside them apart, the brackets of an array hold no word, and the escapes of a JSON
text, however deep they are nested, neither make a token nor break one.
-/

namespace Bindery

/-! ## Texts between texts -/

theorem Text.scan_intercalate {sep : String} {c : Char} (single : sep.toList = [c])
    (separates : Token.isSeparator c) (texts : List String) :
    Token.scan (sep.intercalate texts) = texts.flatMap Token.scan := by
  rw [intercalate_eq_joinWith single, Token.scan_joinWith separates]

theorem Token.scan_append_separator {last : String} {c : Char} (single : last.toList = [c])
    (separates : isSeparator c) (text : String) : scan (text ++ last) = scan text := by
  have apart := scanChars_append_separator separates text.toList []
  rw [scan, String.toList_append, single]
  exact apart.trans (List.append_nil _)

theorem Token.scan_separator_append {first : String} {c : Char} (single : first.toList = [c])
    (separates : isSeparator c) (text : String) : scan (first ++ text) = scan text := by
  have apart := scanChars_append_separator separates [] text.toList
  rw [scan, String.toList_append, single]
  exact apart

/-- The brackets of an array hold no word. -/
theorem Token.scan_append_brackets (text : String) : scan (text ++ "[]") = scan text := by
  have noWord : Text.isWord '[' = false := by decide
  have apart := scanChars_append_cons noWord (by decide) text.toList [']']
  rw [scan, String.toList_append]
  exact apart.trans (List.append_nil _)

/-! ## Escaped texts -/

namespace Json

theorem escape_cases (c : Char) :
    escape false c = [c] ∨ ∃ more, escape false c = '\\' :: more ∧ '[' ∉ more := by
  have controls : ∀ n < 32, '[' ∉ Text.hex 4 n := by decide
  unfold escape
  split_ifs with quote feed back tab bell form control
  · refine .inr ⟨_, rfl, ?_⟩
    rcases quote with rfl | rfl <;> decide
  · exact .inr ⟨_, rfl, by decide⟩
  · exact .inr ⟨_, rfl, by decide⟩
  · exact .inr ⟨_, rfl, by decide⟩
  · exact .inr ⟨_, rfl, by decide⟩
  · exact .inr ⟨_, rfl, by decide⟩
  · have low : c.toNat < 32 := by simpa using control
    rw [numberEscape, if_pos (by omega)]
    exact .inr ⟨_, rfl, by simpa using controls _ low⟩
  · exact .inl rfl

theorem not_mem_escape {c : Char} (other : c ≠ '[') : '[' ∉ escape false c := by
  rcases escape_cases c with same | ⟨more, same, free⟩
  · simpa [same] using other.symm
  · simpa [same] using free

/-- What ends a word without closing a token is written with such a character first. -/
theorem exists_escape {c : Char} (noWord : Text.isWord c = false) (unclosed : c ≠ ']') :
    ∃ d more, escape false c = d :: more ∧ Text.isWord d = false ∧ d ≠ ']' := by
  rcases escape_cases c with same | ⟨more, same, -⟩
  · exact ⟨c, [], same, noWord, unclosed⟩
  · exact ⟨'\\', more, same, by decide, by decide⟩

theorem closed?_flatMap_escape (cs : List Char) :
    Token.closed? (cs.flatMap (escape false)) = Token.closed? cs := by
  have front : ∀ c ∈ cs.takeWhile Text.isWord, Text.isWord c := fun c listed =>
    List.all_eq_true.mp List.all_takeWhile c listed
  have kept : (cs.takeWhile Text.isWord).flatMap (escape false) = cs.takeWhile Text.isWord := by
    rw [List.flatMap_congr fun c listed => escape_of_isWord (front c listed),
      List.flatMap_singleton']
  rw [← List.takeWhile_append_dropWhile (p := Text.isWord) (l := cs), List.flatMap_append, kept]
  generalize cs.takeWhile Text.isWord = word at front
  -- The word that stands in front is written as it is; what ends it decides, escaped or not.
  cases behind : cs.dropWhile Text.isWord with
  | nil => rfl
  | cons c rest =>
      have noWord : Text.isWord c = false := by
        have first := List.head_dropWhile_not Text.isWord (l := cs) (by simp [behind])
        simpa [behind] using first
      rw [List.flatMap_cons]
      by_cases closing : c = ']'
      · subst closing
        have plain : escape false ']' = [']'] := rfl
        rw [plain, List.singleton_append, Token.closed?_append_close front,
          Token.closed?_append_close front]
      · obtain ⟨d, more, escaped, stops, unclosed⟩ := exists_escape noWord closing
        rw [escaped, List.cons_append, Token.closed?_append_cons stops unclosed,
          Token.closed?_append_cons noWord closing]

/-- An escaped text has the tokens of the text. -/
theorem scanChars_flatMap_escape (cs : List Char) :
    Token.scanChars (cs.flatMap (escape false)) = Token.scanChars cs := by
  induction cs with
  | nil => rfl
  | cons c rest ih =>
      rw [List.flatMap_cons]
      by_cases opening : c = '['
      · subst opening
        have plain : escape false '[' = ['['] := rfl
        rw [plain, List.singleton_append, Token.scanChars, Token.scanChars,
          closed?_flatMap_escape, ih]
      · have free : ∀ d ∈ escape false c, d ≠ '[' := by
          rintro d listed rfl
          exact not_mem_escape opening listed
        rw [Token.scanChars_append_of_not_bracket free, ih, Token.scanChars_cons_of_ne opening]

theorem scanChars_quote_append (s : String) (rest : List Char) :
    Token.scanChars ((quote false s).toList ++ rest) = Token.scan s ++ Token.scanChars rest := by
  rw [toList_quote_append, Token.scanChars_cons_of_ne (by decide),
    Token.scanChars_append_separator (by decide), scanChars_flatMap_escape]
  rfl

theorem scan_entry (key s : String) :
    Token.scan (Layout.compact.entry (key, quote false s)) = Token.scan key ++ Token.scan s := by
  have ends := scanChars_quote_append s []
  rw [List.append_nil, Token.scanChars, List.append_nil] at ends
  rw [Token.scan, toList_entry, scanChars_quote_append, Token.scanChars_cons_of_ne (by decide), ends]

/-- The tokens of an object of texts are those of its keys and texts in turn. -/
theorem scan_write_map (entries : List (String × String)) :
    Token.scan (write .compact (.map (entries.map fun entry =>
        (.string entry.1, .string entry.2)))) =
      entries.flatMap fun entry => Token.scan entry.1 ++ Token.scan entry.2 := by
  have inside : Token.scan (Layout.compact.join
      (entries.map fun entry => Layout.compact.entry (entry.1, quote false entry.2))) =
      entries.flatMap fun entry => Token.scan entry.1 ++ Token.scan entry.2 := by
    rw [Layout.join, Text.scan_intercalate (c := ',') rfl (by decide), List.flatMap_map]
    exact List.flatMap_congr fun entry _ => scan_entry entry.1 entry.2
  rw [write, writeEntries_strings, ← inside, Token.scan_append_separator rfl (by decide),
    Token.scan_separator_append rfl (by decide), if_neg (by decide), List.map_map]
  rfl

end Json

/-! ## The tokens of a type -/

/-- The tokens of a named type. -/
def TypeText.namedTokens (name : Value) (inside : List String) : List String :=
  match name with
  | .string "Promise" => "Promise" :: inside
  | name => Token.scan ("[" ++ name.display ++ "]")

/-- Each name once, where it first comes, before what the last member of the name has. -/
def TypeText.memberTokens (members : List (String × List String)) : List String :=
  (members.map Prod.fst).eraseDups.flatMap fun name =>
    Token.scan name ++ (Table.members name members).getLastD []

mutual

/-- The tokens of a type by its parts. -/
def TypeExpr.tokens : TypeExpr → List String
  | .intrinsic name => Token.scan name.display
  | .literal value => Token.scan value.display
  | .array element => element.tokens
  | .union members => TypeExpr.tokensOfAll members
  | .reference name arguments => TypeText.namedTokens name (TypeExpr.tokensOfAll arguments)
  | .inline declaration => declaration.declarationTokens
  | .unknown _ => []

def TypeExpr.tokensOfAll : List TypeExpr → List String
  | [] => []
  | type :: rest => type.tokens ++ TypeExpr.tokensOfAll rest

def TypeExpr.tokensIfAny : Option TypeExpr → List String
  | none => []
  | some type => type.tokens

/-- The tokens of a declaration that stands in the place of a type. -/
def Node.declarationTokens : Node → List String
  | .mk _ kindName _ children signatures _ _ _ _ =>
      match Kind.ofValue kindName with
      | .typeLiteral =>
          match children, signatures with
          | child :: more, _ => TypeText.memberTokens (Node.tokensOfMembers (child :: more))
          | [], .mk _ _ _ _ _ _ type _ _ :: _ => TypeExpr.tokensIfAny type
          | [], [] => []
      | _ => []

/-- The names of nodes with the tokens of their types. -/
def Node.tokensOfMembers : List Node → List (String × List String)
  | [] => []
  | .mk name _ _ _ _ _ type _ _ :: rest =>
      (name, TypeExpr.tokensIfAny type) :: Node.tokensOfMembers rest

end

/-! ## The text of a type has the tokens of the type -/

namespace TypeText

theorem scan_alternatives {texts : List String} {joined : String}
    (done : alternatives (texts.map .string) = .ok joined) :
    Token.scan joined = texts.flatMap Token.scan := by
  obtain ⟨same, listed, rfl⟩ := alternatives_eq_ok_iff.mp done
  rw [List.map_injective_iff.mpr (fun _ _ => Value.string.inj) listed]
  exact Text.scan_intercalate rfl (by decide) same

theorem scan_named {name : Value} {arguments : Draft (List Value)} {texts : List String}
    {s : String} (given : arguments.outcome = .ok (texts.map .string))
    (done : (named name arguments).outcome = .ok (.string s)) :
    Token.scan s = namedTokens name (texts.flatMap Token.scan) := by
  unfold named at done
  split at done
  · rw [Draft.outcome_bind_of_ok given] at done
    obtain ⟨inside, joined, done⟩ := Draft.bind_eq_ok_iff.mp done
    cases done
    have promise : ("[Promise]<" ++ inside ++ ">").toList =
        "[Promise]".toList ++ '<' :: (inside ++ ">").toList := by simp
    rw [Token.scan, promise, Token.scanChars_append_separator (by decide),
      ← scan_alternatives joined]
    exact congrArg _ (Token.scan_append_separator rfl (by decide) inside)
  · next other =>
      cases done
      unfold namedTokens
      split
      · exact absurd rfl other
      · rfl

/-- Members of one name are one entry of the object, which shows the last of them. -/
theorem scan_object {texts : List (String × String)} {s : String}
    (done : object (texts.map fun member => (member.1, .string member.2)) = .string s) :
    Token.scan s = memberTokens (texts.map fun member => (member.1, Token.scan member.2)) := by
  rw [object, Table.ofList_map, List.map_map] at done
  cases done
  rw [Function.comp_def, Json.scan_write_map, Table.ofList_eq, List.flatMap_map, memberTokens,
    List.map_map]
  refine List.flatMap_congr fun name _ => congrArg (Token.scan name ++ ·) ?_
  rw [Table.members_map, List.getLastD_eq_getLast?, List.getLastD_eq_getLast?, List.getLast?_map]
  exact (Option.getD_map Token.scan "" _).symm

end TypeText

mutual

theorem TypeExpr.scan_of_text {type : TypeExpr} (textual : type.isTextual) {s : String}
    (done : type.text.outcome = .ok (.string s)) : Token.scan s = type.tokens := by
  match type with
  | .intrinsic name | .literal name =>
      rw [TypeExpr.text] at done
      cases done
      rw [TypeExpr.tokens]
      rfl
  | .reference name arguments =>
      rw [TypeExpr.isTextual, Bool.and_eq_true] at textual
      obtain ⟨texts, given, tokens⟩ := TypeExpr.scan_of_texts textual.2
      rw [TypeExpr.text] at done
      rw [TypeText.scan_named given done, tokens, TypeExpr.tokens]
  | .array element =>
      rw [TypeExpr.isTextual] at textual
      obtain ⟨inner, given⟩ := TypeExpr.text_of_isTextual textual
      rw [TypeExpr.text, Draft.outcome_bind_of_ok given] at done
      cases done
      rw [TypeExpr.tokens, ← TypeExpr.scan_of_text textual given]
      exact Token.scan_append_brackets inner
  | .union members =>
      rw [TypeExpr.isTextual] at textual
      obtain ⟨texts, given, tokens⟩ := TypeExpr.scan_of_texts textual
      rw [TypeExpr.text, Draft.outcome_bind_of_ok given] at done
      obtain ⟨joined, inside, done⟩ := Draft.bind_eq_ok_iff.mp done
      cases done
      rw [TypeExpr.tokens, ← tokens]
      exact TypeText.scan_alternatives inside
  | .inline declaration =>
      rw [TypeExpr.isTextual] at textual
      rw [TypeExpr.text] at done
      rw [TypeExpr.tokens]
      exact Node.scan_of_declarationText textual done
  | .unknown tag =>
      rw [TypeExpr.text] at done
      cases done
      rw [TypeExpr.tokens]
      rfl

theorem TypeExpr.scan_of_texts {types : List TypeExpr} (textual : TypeExpr.areTextual types) :
    ∃ texts : List String, (TypeExpr.texts types).outcome = .ok (texts.map .string) ∧
      texts.flatMap Token.scan = TypeExpr.tokensOfAll types := by
  match types with
  | [] => exact ⟨[], by rw [TypeExpr.texts]; rfl, by rw [TypeExpr.tokensOfAll]; rfl⟩
  | type :: rest =>
      rw [TypeExpr.areTextual, Bool.and_eq_true] at textual
      obtain ⟨s, first⟩ := TypeExpr.text_of_isTextual textual.1
      obtain ⟨more, remaining, tokens⟩ := TypeExpr.scan_of_texts textual.2
      refine ⟨s :: more, ?_, ?_⟩
      · rw [TypeExpr.texts, Draft.outcome_bind_of_ok first, Draft.outcome_bind_of_ok remaining]
        rfl
      · rw [List.flatMap_cons, TypeExpr.scan_of_text textual.1 first, tokens, TypeExpr.tokensOfAll]

theorem TypeExpr.scan_of_textOrEmpty {type : Option TypeExpr}
    (textual : TypeExpr.isTextualIfAny type) {s : String}
    (done : (TypeExpr.textOrEmpty type).outcome = .ok (.string s)) :
    Token.scan s = TypeExpr.tokensIfAny type := by
  match type with
  | none =>
      rw [TypeExpr.textOrEmpty] at done
      cases done
      rw [TypeExpr.tokensIfAny]
      rfl
  | some type =>
      rw [TypeExpr.isTextualIfAny] at textual
      rw [TypeExpr.textOrEmpty] at done
      rw [TypeExpr.tokensIfAny]
      exact TypeExpr.scan_of_text textual done

theorem Node.scan_of_declarationText {n : Node} (textual : n.hasTextualTypes) {s : String}
    (done : n.declarationText.outcome = .ok (.string s)) : Token.scan s = n.declarationTokens := by
  match n with
  | .mk name kindName comment children signatures parameters type optional value =>
      rw [Node.hasTextualTypes, Bool.and_eq_true, Bool.and_eq_true] at textual
      obtain ⟨⟨-, membersTextual⟩, signaturesTextual⟩ := textual
      unfold Node.declarationText at done
      split at done
      · next literal =>
          unfold Node.declarationTokens
          rw [literal]
          split at done
          · next child more =>
              obtain ⟨texts, given, tokens⟩ := Node.scan_of_memberTexts membersTextual
              rw [Draft.outcome_bind_of_ok given] at done
              exact (TypeText.scan_object (Except.ok.inj done)).trans
                (congrArg TypeText.memberTokens tokens)
          · simp only [Node.haveTextualTypes, Node.hasTextualTypes, Bool.and_eq_true]
              at signaturesTextual
            exact TypeExpr.scan_of_textOrEmpty signaturesTextual.1.1.1 done
          · cases done
            rfl
      · next other =>
          cases done
          unfold Node.declarationTokens
          split
          · next literal => exact absurd literal other
          · rfl

theorem Node.scan_of_memberTexts {nodes : List Node} (textual : Node.haveTextualTypes nodes) :
    ∃ texts : List (String × String), (Node.memberTexts nodes).outcome =
        .ok (texts.map fun member => (member.1, .string member.2)) ∧
      texts.map (fun member => (member.1, Token.scan member.2)) = Node.tokensOfMembers nodes := by
  match nodes with
  | [] => exact ⟨[], by rw [Node.memberTexts]; rfl, by rw [Node.tokensOfMembers]; rfl⟩
  | .mk name _ _ _ _ _ type _ _ :: rest =>
      simp only [Node.haveTextualTypes, Node.hasTextualTypes, Bool.and_eq_true] at textual
      obtain ⟨s, first⟩ := TypeExpr.textOrEmpty_of_isTextualIfAny textual.1.1.1
      obtain ⟨more, remaining, tokens⟩ := Node.scan_of_memberTexts textual.2
      refine ⟨(name, s) :: more, ?_, ?_⟩
      · rw [Node.memberTexts, Draft.outcome_bind_of_ok first, Draft.outcome_bind_of_ok remaining]
        rfl
      · rw [List.map_cons, TypeExpr.scan_of_textOrEmpty textual.1.1.1 first, tokens,
          Node.tokensOfMembers]

end

/-- Scanning the text of a type. The text is there, and its tokens are those of the parts of the
type, in their order. -/
theorem TypeExpr.scan_text_eq_tokens {type : TypeExpr} (textual : type.isTextual) :
    ∃ s, type.text.outcome = .ok (.string s) ∧ Token.scan s = type.tokens := by
  obtain ⟨s, done⟩ := TypeExpr.text_of_isTextual textual
  exact ⟨s, done, TypeExpr.scan_of_text textual done⟩

/-- A type literal of the members, where it is used. -/
def TypeExpr.inlineMembers (members : List (String × TypeExpr)) : TypeExpr :=
  .inline (.mk "__type" (.string "Type literal") none
    (members.map fun (name, type) => .mk name (.string "Property") none [] [] [] type false none)
    [] [] none false none)

/-- A promise of lists, or of an object with a name that comes twice and an object inside it. -/
def promisedObjects : TypeExpr :=
  .reference (.string "Promise") [
    .union [.array (.reference (.string "Foo") []), .intrinsic (.string "any [one] of")],
    .inlineMembers [
      ("key[a]", .reference (.string "Lost") []),
      ("inner \"b\"", .inlineMembers [("c", .literal (.string "\\[d]\n[e")),
        ("[f]", .reference (.string "Bar") [.reference (.string "Unseen") []])]),
      ("key[a]", .array (.reference (.string "Baz") []))]]

theorem scan_promisedObjects :
    promisedObjects.isTextual ∧
      promisedObjects.tokens = ["Promise", "Foo", "one", "a", "Baz", "d", "f", "Bar"] ∧
      ∃ s, promisedObjects.text.outcome = .ok (.string s) ∧
        Token.scan s = ["Promise", "Foo", "one", "a", "Baz", "d", "f", "Bar"] := by
  have textual : promisedObjects.isTextual := by decide
  have tokens : promisedObjects.tokens =
      ["Promise", "Foo", "one", "a", "Baz", "d", "f", "Bar"] := by decide +kernel
  obtain ⟨s, done, same⟩ := TypeExpr.scan_text_eq_tokens textual
  exact ⟨textual, tokens, s, done, same.trans tokens⟩

end Bindery
