import Bindery.Document.Writer
import Bindery.Proofs.Footers
import Bindery.Proofs.Tables
import Bindery.Proofs.TypeTexts

/-!
# References in the texts of types

A reference that is rendered anywhere in a type stands in brackets in the text of the type: behind
arrays, between alternatives, inside a promise, and in the JSON text of an inline type literal,
whose escapes leave brackets and word characters alone. The scanner finds it there exactly if its
name is a word, so the names with other characters, some of those that every book knows among them,
are never defined.
-/

namespace Bindery

/-! ## Texts inside texts -/

theorem Text.infix_intercalate (sep : String) {s : String} {texts : List String}
    (listed : s ∈ texts) : s.toList <:+: (sep.intercalate texts).toList := by
  induction texts with
  | nil => cases listed
  | cons first rest ih =>
      cases rest with
      | nil =>
          have same : s = sep.intercalate [first] := by
            rw [List.mem_singleton.mp listed, String.intercalate_singleton]
          exact ⟨[], [], by rw [same, List.nil_append, List.append_nil]⟩
      | cons second more =>
          rw [String.intercalate_cons_cons, String.toList_append, String.toList_append]
          rcases List.mem_cons.mp listed with rfl | later
          · rw [List.append_assoc]
            exact (List.prefix_append _ _).isInfix
          · exact (ih later).trans (List.suffix_append _ _).isInfix

namespace Json

/-- Word characters stand for themselves in a JSON text. -/
theorem escape_of_isWord {c : Char} (isWord : Text.isWord c) : escape false c = [c] := by
  -- Every character that has an escape is no word character.
  have escaped : ∀ d : Char, Text.isWord d = false → c ≠ d := by
    rintro d noWord rfl
    rw [isWord] at noWord
    cases noWord
  have printed : ¬ c.toNat < 32 := by
    intro control
    have controls : ∀ n < 32, Text.isWord (Char.ofNat n) = false := by decide
    rw [← Char.ofNat_toNat c, controls c.toNat control] at isWord
    cases isWord
  simp only [escape, escaped '"' (by decide), escaped '\\' (by decide), escaped '\n' (by decide),
    escaped '\r' (by decide), escaped '\t' (by decide), escaped '\x08' (by decide),
    escaped '\x0c' (by decide), printed, or_self, false_and, Bool.false_eq_true, if_false]

theorem escape_of_mem_bracketed {w : String} (word : Token.IsWord w) {c : Char}
    (inside : c ∈ Token.bracketed w) : escape false c = [c] := by
  rcases List.mem_cons.mp inside with rfl | inside
  · rfl
  · rcases List.mem_append.mp inside with inside | closing
    · exact escape_of_isWord (word.2 c inside)
    · rw [List.mem_singleton.mp closing]
      rfl

theorem infix_quote {w s : String} (word : Token.IsWord w)
    (inside : Token.bracketed w <:+: s.toList) :
    Token.bracketed w <:+: (quote false s).toList := by
  obtain ⟨before, after, whole⟩ := inside
  have kept : (Token.bracketed w).flatMap (escape false) = Token.bracketed w := by
    have each := List.flatMap_congr fun c inside => escape_of_mem_bracketed word inside
    rw [each, List.flatMap_singleton']
  rw [quote, String.toList_ofList, ← whole, List.flatMap_append, List.flatMap_append, kept]
  exact ⟨'"' :: before.flatMap (escape false), after.flatMap (escape false) ++ ['"'], by simp⟩

end Json

/-! ## Values inside values -/

theorem Json.mem_writeEntries (layout : Layout) {k v : Value} {entries : List (Value × Value)}
    (listed : (k, v) ∈ entries) : (k.display, write layout v) ∈ writeEntries layout entries := by
  induction entries with
  | nil => cases listed
  | cons entry rest ih =>
      obtain ⟨key, value⟩ := entry
      rw [writeEntries]
      rcases List.mem_cons.mp listed with same | later
      · cases same
        exact List.mem_cons_self
      · exact List.mem_cons_of_mem _ (ih later)

/-- The text of a type literal shows the type of each of its names. -/
theorem TypeText.infix_object {w k s : String} (word : Token.IsWord w)
    (inside : Token.bracketed w <:+: s.toList) {members : List (String × Value)}
    (listed : (k, .string s) ∈ Table.ofList members) :
    ∃ text, TypeText.object members = .string text ∧ Token.bracketed w <:+: text.toList := by
  refine ⟨_, rfl, ?_⟩
  have written := Json.mem_writeEntries .compact
    (List.mem_map_of_mem (f := fun member => (Value.string member.1, member.2)) listed)
  have quoted : Token.bracketed w <:+: (Json.write .compact (.string s)).toList := by
    rw [Json.write]
    exact Json.infix_quote word inside
  have entry : Token.bracketed w <:+:
      (Json.Layout.compact.entry (k, Json.write .compact (.string s))).toList := by
    rw [Json.Layout.entry, String.toList_append]
    exact quoted.trans (List.suffix_append _ _).isInfix
  have joined := Text.infix_intercalate ("," ++ Json.Layout.compact.itemGap)
    (List.mem_map_of_mem (f := Json.Layout.compact.entry) written)
  rw [Json.write, String.toList_append, String.toList_append]
  exact (entry.trans joined).trans (List.infix_append _ _ _)

/-! ## Rendered references -/

/-- Is a reference type of the name rendered in the text of the type? Arguments are rendered only
behind promises, and among members of one name only the last one. -/
inductive TypeExpr.Renders (n : String) : TypeExpr → Prop where
  | named {name : Value} {arguments : List TypeExpr} (called : name.display = n) :
      Renders n (.reference name arguments)
  | argument {arguments : List TypeExpr} {type : TypeExpr} (given : type ∈ arguments)
      (inside : Renders n type) : Renders n (.reference (.string "Promise") arguments)
  | element {type : TypeExpr} (inside : Renders n type) : Renders n (.array type)
  | member {members : List TypeExpr} {type : TypeExpr} (listed : type ∈ members)
      (inside : Renders n type) : Renders n (.union members)
  | field {declaration child : Node} {before after : List Node} {type : TypeExpr}
      (literal : declaration.kind = .typeLiteral)
      (placed : declaration.children = before ++ child :: after)
      (last : ∀ later ∈ after, later.name ≠ child.name) (typed : child.type = some type)
      (inside : Renders n type) : Renders n (.inline declaration)
  | result {declaration signature : Node} {more : List Node} {type : TypeExpr}
      (literal : declaration.kind = .typeLiteral) (empty : declaration.children = [])
      (called : declaration.signatures = signature :: more) (typed : signature.type = some type)
      (inside : Renders n type) : Renders n (.inline declaration)

theorem TypeExpr.texts_eq_ok {types : List TypeExpr} {values : List Value}
    (result : (texts types).outcome = .ok values) {type : TypeExpr} (listed : type ∈ types) :
    ∃ v ∈ values, type.text.outcome = .ok v := by
  induction types generalizing values with
  | nil => cases listed
  | cons first rest ih =>
      rw [texts] at result
      obtain ⟨v, done, result⟩ := Draft.bind_eq_ok_iff.mp result
      obtain ⟨more, remaining, result⟩ := Draft.bind_eq_ok_iff.mp result
      cases result
      rcases List.mem_cons.mp listed with rfl | later
      · exact ⟨v, List.mem_cons_self, done⟩
      · obtain ⟨u, present, found⟩ := ih remaining later
        exact ⟨u, List.mem_cons_of_mem _ present, found⟩

theorem Node.memberTexts_cons_eq_ok {node : Node} {rest : List Node}
    {members : List (String × Value)}
    (result : (memberTexts (node :: rest)).outcome = .ok members) :
    ∃ v more, (TypeExpr.textOrEmpty node.type).outcome = .ok v ∧
      (memberTexts rest).outcome = .ok more ∧ members = (node.name, v) :: more := by
  obtain ⟨name, kindName, comment, children, signatures, parameters, type, optional, value⟩ := node
  rw [memberTexts] at result
  obtain ⟨v, done, result⟩ := Draft.bind_eq_ok_iff.mp result
  obtain ⟨more, remaining, result⟩ := Draft.bind_eq_ok_iff.mp result
  cases result
  exact ⟨v, more, done, remaining, rfl⟩

theorem Node.memberTexts_eq_ok {nodes : List Node} {members : List (String × Value)}
    (result : (memberTexts nodes).outcome = .ok members) :
    members.map Prod.fst = nodes.map Node.name := by
  induction nodes generalizing members with
  | nil =>
      rw [memberTexts] at result
      cases result
      rfl
  | cons node rest ih =>
      obtain ⟨v, more, -, remaining, rfl⟩ := memberTexts_cons_eq_ok result
      rw [List.map_cons, List.map_cons, ih remaining]

/-- The member of a type literal stands between the members before and after it. -/
theorem Node.memberTexts_append_eq_ok {before after : List Node} {child : Node}
    {members : List (String × Value)}
    (result : (memberTexts (before ++ child :: after)).outcome = .ok members) :
    ∃ front v back, members = front ++ (child.name, v) :: back ∧
      (TypeExpr.textOrEmpty child.type).outcome = .ok v ∧
      back.map Prod.fst = after.map Node.name := by
  induction before generalizing members with
  | nil =>
      obtain ⟨v, more, done, remaining, rfl⟩ := memberTexts_cons_eq_ok result
      exact ⟨[], v, more, rfl, done, memberTexts_eq_ok remaining⟩
  | cons node rest ih =>
      obtain ⟨u, more, -, remaining, rfl⟩ := memberTexts_cons_eq_ok result
      obtain ⟨front, v, back, rfl, done, names⟩ := ih remaining
      exact ⟨(node.name, u) :: front, v, back, rfl, done, names⟩

/-- Does the type show the word in brackets whenever it has a text? -/
def TypeExpr.Shows (w : String) (type : TypeExpr) : Prop :=
  ∀ v, type.text.outcome = .ok v → ∃ s, v = .string s ∧ Token.bracketed w <:+: s.toList

/-- Alternatives show what one of them shows. -/
theorem TypeExpr.Shows.infix_alternatives {w joined : String} {type : TypeExpr}
    (shown : type.Shows w) {types : List TypeExpr} (listed : type ∈ types) {values : List Value}
    (done : (texts types).outcome = .ok values)
    (alternatives : TypeText.alternatives values = .ok joined) :
    Token.bracketed w <:+: joined.toList := by
  obtain ⟨strings, rfl, rfl⟩ := TypeText.alternatives_eq_ok_iff.mp alternatives
  obtain ⟨v, present, found⟩ := texts_eq_ok done listed
  obtain ⟨s, rfl, inside⟩ := shown v found
  obtain ⟨t, listed, same⟩ := List.mem_map.mp present
  cases same
  exact inside.trans (Text.infix_intercalate "|" listed)

/-- A type shows every word that is rendered in it. -/
theorem TypeExpr.Renders.shows {n : String} (word : Token.IsWord n) {type : TypeExpr}
    (rendered : type.Renders n) : type.Shows n := by
  induction rendered with
  | named called =>
      intro v result
      rw [TypeExpr.text] at result
      obtain ⟨after, rfl⟩ := TypeText.named_eq_ok result
      refine ⟨_, rfl, [], after.toList, ?_⟩
      simp [Token.bracketed, called]
  | argument given inside shown =>
      intro v result
      rw [TypeExpr.text] at result
      obtain ⟨values, joined, done, alternatives, rfl⟩ := TypeText.named_promise_eq_ok result
      refine ⟨_, rfl, (shown.infix_alternatives given done alternatives).trans ?_⟩
      rw [String.toList_append, String.toList_append]
      exact List.infix_append _ _ _
  | element inside shown =>
      intro v result
      rw [TypeExpr.text] at result
      obtain ⟨u, done, result⟩ := Draft.bind_eq_ok_iff.mp result
      cases result
      obtain ⟨s, rfl, inside⟩ := shown u done
      refine ⟨_, rfl, inside.trans ?_⟩
      rw [String.toList_append]
      exact (List.prefix_append _ _).isInfix
  | member listed inside shown =>
      intro v result
      rw [TypeExpr.text] at result
      obtain ⟨values, done, result⟩ := Draft.bind_eq_ok_iff.mp result
      obtain ⟨joined, alternatives, result⟩ := Draft.bind_eq_ok_iff.mp result
      cases result
      exact ⟨joined, rfl, shown.infix_alternatives listed done alternatives⟩
  | field literal placed last typed inside shown =>
      intro v result
      rw [TypeExpr.text, Node.declarationText_of_children literal (by simp [placed]), placed]
        at result
      obtain ⟨members, done, result⟩ := Draft.bind_eq_ok_iff.mp result
      cases result
      obtain ⟨front, u, back, rfl, found, names⟩ := Node.memberTexts_append_eq_ok done
      rw [typed, TypeExpr.textOrEmpty] at found
      obtain ⟨s, rfl, inside⟩ := shown u found
      apply TypeText.infix_object word inside
      -- No later member takes the place of this one, since none has its name.
      apply Table.mem_ofList front
      intro pair listed same
      have named : pair.1 ∈ back.map Prod.fst := List.mem_map_of_mem listed
      rw [names] at named
      obtain ⟨later, present, called⟩ := List.mem_map.mp named
      exact last later present (called.trans same)
  | result literal empty called typed inside shown =>
      intro v result
      rw [TypeExpr.text, Node.declarationText_of_signature literal empty called, typed,
        TypeExpr.textOrEmpty] at result
      exact shown v result

/-! ## Parameters -/

theorem Writer.infix_parameterLine (name type description : String) (optional : Bool) :
    type.toList <:+: (parameterLine name type description optional).toList := by
  unfold parameterLine
  dsimp only
  split
  · refine ⟨("* " ++ name ++ " <").toList, ("> " ++ Text.strip description).toList, ?_⟩
    simp
  · refine ⟨("* \x60" ++ name ++ "\x60 <").toList,
      ("> " ++ (if optional then "(Optional)" else "") ++ " " ++ Text.strip description).toList, ?_⟩
    simp

theorem Writer.parameter_eq_ok {name description : String} {optional : Bool}
    {type : Draft Value} (result : (parameter name type description optional).outcome = .ok ()) :
    ∃ v, type.outcome = .ok v ∧ (parameter name type description optional).lines =
      type.lines ++ [.scanned (parameterLine name v.display description optional)] := by
  obtain ⟨v, done, -⟩ := Draft.bind_eq_ok_iff.mp result
  refine ⟨v, done, ?_⟩
  rw [parameter, Draft.lines_bind_of_ok done]
  rfl

namespace Document

theorem mem_references_of_parameter {n : String} (word : Token.IsWord n) {type : TypeExpr}
    (rendered : type.Renders n) {name description : String} {optional : Bool}
    (result : (Writer.parameter name type.text description optional).outcome = .ok ())
    (path : String) :
    n ∈ ((blank path).extend
      (Writer.parameter name type.text description optional).lines).references := by
  obtain ⟨v, done, written⟩ := Writer.parameter_eq_ok result
  obtain ⟨s, rfl, inside⟩ := rendered.shows word v done
  rw [references_extend, written, List.flatMap_append, List.mem_append, List.mem_append]
  refine Or.inr (Or.inr (List.mem_flatMap.mpr ⟨_, List.mem_singleton_self _, ?_⟩))
  exact Token.mem_scan_iff.mpr ⟨word, inside.trans (Writer.infix_parameterLine _ _ _ _)⟩

/-- A parameter of a type into which a known name is rendered: the line can be written whenever the
type is textual, and once it is written, the footer defines the name if it is a word, only then, and
only once. -/
theorem rendered_name_defined_iff_word {registry : Registry} {n : String} {entry : Entry}
    (known : registry.resolve n = some entry) (leads : entry.target ≠ "") {type : TypeExpr}
    (rendered : type.Renders n) (path name description : String) (optional : Bool) (book : Path) :
    let draft := Writer.parameter name type.text description optional
    let d := (blank path).extend draft.lines
    (type.isTextual → draft.outcome = .ok ()) ∧
      (draft.outcome = .ok () →
        (d.link registry book).lines = d.lines ++ "" ::
            (d.definitions registry book).map (fun link => definition link.1 link.2) ∧
          (d.definitions registry book).filter (fun link => link.1 = n) =
            if Token.IsWord n then [(n, Registry.seen book (d.place book).parent entry)]
            else []) := by
  intro draft d
  constructor
  · intro textual
    obtain ⟨s, done⟩ := TypeExpr.text_of_isTextual textual
    exact Draft.outcome_bind_of_ok done _
  · intro result
    constructor
    · show (d.extend _).lines = _
      rw [lines_extend, footer, List.map_cons, List.map_map]
      rfl
    · have needed : n ∈ d.references ↔ Token.IsWord n := by
        constructor
        · exact isWord_of_mem_references
        · exact fun word => mem_references_of_parameter word rendered result path
      have links := Registry.filter_links book (d.place book).parent d.references registry n
      rw [Registry.lead_eq_some_iff.mpr ⟨known, leads⟩] at links
      simp only [needed] at links
      exact links

/-- Buffers that are promised one after another. -/
def promisedBuffers : TypeExpr :=
  .array (.reference (.string "Promise") [.reference (.string "Buffer") []])

theorem buffer_defined_for_promised_buffers :
    let draft := Writer.parameter "body" promisedBuffers.text "" false
    let d := (blank "api/Foo.md").extend draft.lines
    draft.outcome = .ok () ∧
      (d.definitions (Registry.withBuiltins []) (Path.ofString "docs")).filter
          (fun link => link.1 = "Buffer") =
        [("Buffer", ⟨"https://nodejs.org/api/buffer.html#buffer_class_buffer", none⟩)] := by
  have known : (Registry.withBuiltins []).resolve "Buffer" =
      some ⟨"https://nodejs.org/api/buffer.html#buffer_class_buffer", none⟩ := by decide +kernel
  have rendered : promisedBuffers.Renders "Buffer" :=
    .element (.argument (List.mem_singleton_self _) (.named rfl))
  obtain ⟨written, defined⟩ := rendered_name_defined_iff_word known (by decide) rendered
    "api/Foo.md" "body" "" false (Path.ofString "docs")
  have outcome := written (by decide)
  refine ⟨outcome, (defined outcome).2.trans ?_⟩
  rw [if_pos (by decide)]
  decide +kernel

/-- A name that every book knows and no document defines: it is no word. -/
theorem readable_known_but_not_defined :
    let readable : TypeExpr := .reference (.string "stream.Readable") []
    let draft := Writer.parameter "body" readable.text "" false
    let d := (blank "api/Foo.md").extend draft.lines
    (Registry.withBuiltins []).resolve "stream.Readable" =
        some ⟨"https://nodejs.org/api/stream.html#stream_class_stream_readable", none⟩ ∧
      readable.Renders "stream.Readable" ∧ draft.outcome = .ok () ∧
      (d.link (Registry.withBuiltins []) (Path.ofString "docs")).lines = d.lines ++ [""] := by
  exact ⟨by decide +kernel, .named rfl, rfl, by decide +kernel⟩

end Document

end Bindery
