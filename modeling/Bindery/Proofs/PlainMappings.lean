import Bindery.Proofs.LoadedMappings
import Bindery.Proofs.PlainLines
import Bindery.Proofs.PlainScalars

/-!
# What plain lines load to

The lexemes of plain lines read as a mapping whose nodes are the words of the lines, in order. The
outline of that document meets each word once, and nothing waits to be filled but the mapping. So
the text loads to the mapping of what the words stand for, which is told for texts and for numbers
in base sixteen.
-/

namespace Bindery.Yaml

/-! ## Nodes -/

/-- What a word stands for as a plain scalar. -/
def Means (w : List Char) (v : Value) : Prop :=
  isScalarType (.ofPlain (String.ofList w)) ∧
    Yaml.scalar (.ofPlain (String.ofList w)) (String.ofList w) = .ok v

/-- What a line stands for. -/
def LineMeans (entry : List Char × List Char) (found : Value × Value) : Prop :=
  Means entry.1 found.1 ∧ Means entry.2 found.2

theorem of_isScalarType {type : TypeTag} (isScalar : isScalarType type) :
    type ≠ .merge ∧ type ≠ .default ∧ isCollectionType type = false := by
  revert isScalar
  cases type <;> decide

namespace Graph

/-- The node of a plain word. -/
def ofWord (w : List Char) : GraphNode := ⟨.ofPlain (String.ofList w), .scalar (String.ofList w)⟩

/-- The nodes of a line. -/
def lineNodes (entry : List Char × List Char) : List GraphNode := [ofWord entry.1, ofWord entry.2]

/-- The entries of lines, whose nodes have the numbers from the first one on. -/
def numbered : (first count : Nat) → List (Nat × Nat)
  | _, 0 => []
  | n, count + 1 => (n, n + 1) :: numbered (n + 2) count

variable {lines : List (List Char × List Char)}

/-- The document of the lines. -/
def ofLines (lines : List (List Char × List Char)) : Graph :=
  ⟨⟨.mapping, .mapping (numbered 1 lines.length)⟩ :: lines.flatMap lineNodes, 0⟩

/-- A word is a node of its own. -/
theorem node_word (ending : Failure) (fuel : Nat) (w : List Char) (rest : List Lexeme)
    (nodes : List GraphNode) (handles : List (String × String)) :
    node ending true true (fuel + 1) ⟨.scalar (String.ofList w) true :: rest, nodes, [], handles⟩ =
      .ok (nodes.length, ⟨rest, nodes ++ [ofWord w], [], handles⟩) := by
  rw [node]
  rfl

theorem blockEntries_lines (ending : Failure) (lines : List (List Char × List Char)) (fuel : Nat)
    (rest : List Lexeme) (nodes : List GraphNode) (handles : List (String × String)) :
    blockEntries ending (fuel + lines.length + 1)
        ⟨lines.flatMap lineLexemes ++ .blockEnd :: rest, nodes, [], handles⟩ =
      .ok (numbered nodes.length lines.length,
        ⟨rest, nodes ++ lines.flatMap lineNodes, [], handles⟩) := by
  induction lines generalizing nodes with
  | nil =>
      rw [List.flatMap_nil, List.flatMap_nil, List.append_nil]
      rfl
  | cons entry more ih =>
      have counts : fuel + (entry :: more).length + 1 = fuel + more.length + 1 + 1 := rfl
      have lexemes : (entry :: more).flatMap lineLexemes ++ .blockEnd :: rest =
          .key :: .scalar (String.ofList entry.1) true :: .value ::
            .scalar (String.ofList entry.2) true ::
              (more.flatMap lineLexemes ++ .blockEnd :: rest) := rfl
      have two : (nodes ++ [ofWord entry.1] ++ [ofWord entry.2]).length = nodes.length + 2 := by
        simp
      have all : nodes ++ [ofWord entry.1] ++ [ofWord entry.2] ++ more.flatMap lineNodes =
          nodes ++ (entry :: more).flatMap lineNodes := by
        simp [lineNodes]
      rw [counts, lexemes, blockEntries]
      simp only [endsPart, Reading.on, node_word, ih, two, all, bind, Except.bind]
      simp [numbered, pure, Except.pure]

/-- The lexemes of the lines read as their document. -/
theorem ofList_lines (ending : Failure) (lines : List (List Char × List Char)) :
    ofList ending
        (.blockMappingStart :: (lines.flatMap lineLexemes ++ [.blockEnd, .streamEnd])) =
      .ok (some (ofLines lines)) := by
  have read : content ending
      (.blockMappingStart :: (lines.flatMap lineLexemes ++ [.blockEnd, .streamEnd]))
      commonHandles = .ok (ofLines lines) := by
    have four : (lines.flatMap lineLexemes).length = 4 * lines.length := by
      simp [List.length_flatMap, lineLexemes, Nat.mul_comm]
    have counts : 4 * (Lexeme.blockMappingStart ::
        (lines.flatMap lineLexemes ++ [.blockEnd, .streamEnd])).length + 4 =
          (15 * lines.length + 14) + lines.length + 1 + 1 := by
      rw [List.length_cons, List.length_append, four, List.length_cons, List.length_singleton]
      omega
    have found := blockEntries_lines ending lines (15 * lines.length + 14) [.streamEnd]
      [⟨.mapping, .mapping []⟩] commonHandles
    rw [content, counts, node]
    simp only [properties, fullTag, Reading.on, Reading.add, bind, Except.bind]
    simp [found, collectionType]
    rfl
  show (content ending _ commonHandles >>= fun g => .ok (some g)) = _
  rw [read]
  rfl

/-! ## Outlines -/

/-- What a plain word is met as. -/
def wordOf (w : List Char) : Word := .ok (.ofPlain (String.ofList w), String.ofList w)

/-- Is no collection written in the line? -/
def HasScalars (entry : List Char × List Char) : Prop :=
  isScalarType (.ofPlain (String.ofList entry.1)) ∧ isScalarType (.ofPlain (String.ofList entry.2))

theorem type_ofWord {g : Graph} {n : Nat} {w : List Char}
    (present : g.nodes[n]? = some (ofWord w)) : g.type n = .ofPlain (String.ofList w) := by
  rw [Graph.type, present]
  rfl

theorem word_ofWord {g : Graph} {n : Nat} {w : List Char} (present : g.nodes[n]? = some (ofWord w))
    (isScalar : isScalarType (.ofPlain (String.ofList w))) : g.word n = wordOf w := by
  obtain ⟨inside, -⟩ := List.getElem?_eq_some_iff.mp present
  obtain ⟨count, counts⟩ := Nat.exists_eq_succ_of_ne_zero (Nat.ne_of_gt (Nat.zero_lt_of_lt inside))
  have content : g.contentOf n = .scalar (String.ofList w) := by
    rw [contentOf, present]
    rfl
  have noMapping : g.isMapping n = false := by rw [isMapping, content]
  have text : g.textOf g.nodes.length n = .ok (String.ofList w) := by rw [counts, textOf, content]
  rw [word, type_ofWord present, text, noMapping]
  simp [isScalar, wordOf, bind, Except.bind, pure, Except.pure]

/-- The outline with a word that was met. -/
def withWord (o : Outline) (n : Nat) (w : List Char) : Outline :=
  { o with met := (n, .word (wordOf w)) :: o.met, words := o.words ++ [wordOf w] }

/-- Have only nodes before a number been met? -/
def IsMetBelow (o : Outline) (n : Nat) : Prop := ∀ known ∈ o.met, known.1 < n

theorem isMetBelow_withWord {o : Outline} {n : Nat} (below : IsMetBelow o n) (w : List Char) :
    IsMetBelow (withWord o n w) (n + 1) := by
  intro known listed
  rcases List.mem_cons.mp listed with rfl | listed
  · exact Nat.lt_succ_self n
  · exact Nat.lt_succ_of_lt (below known listed)

/-- A word that was not met before is met as itself. -/
theorem meet_ofWord {o : Outline} {n : Nat} {w : List Char}
    (present : o.graph.nodes[n]? = some (ofWord w))
    (isScalar : isScalarType (.ofPlain (String.ofList w))) (below : IsMetBelow o n) :
    o.meet n = (.word (wordOf w), withWord o n w) := by
  have unmet : o.met.lookup n = none := by
    refine List.lookup_eq_none_iff.mpr fun known listed => ?_
    exact bne_iff_ne.mpr (Nat.ne_of_gt (below known listed))
  rw [Outline.meet, unmet]
  dsimp only
  rw [type_ofWord present, (of_isScalarType isScalar).2.2, word_ofWord present isScalar]
  rfl

/-- The parts of a line. -/
def lineParts (entry : List Char × List Char) : Part × Part :=
  (.word (wordOf entry.1), .word (wordOf entry.2))

/-- The words of a line. -/
def lineWords (entry : List Char × List Char) : List Word := [wordOf entry.1, wordOf entry.2]

/-- The words of lines are met in order. -/
theorem meetEntries_lines {o : Outline} {before : List GraphNode}
    (nodes : o.graph.nodes = before ++ lines.flatMap lineNodes)
    (below : IsMetBelow o before.length) (each : ∀ entry ∈ lines, HasScalars entry) :
    ∃ met, o.meetEntries (numbered before.length lines.length) =
      (lines.map lineParts,
        { o with met := met, words := o.words ++ lines.flatMap lineWords }) := by
  induction lines generalizing o before with
  | nil => exact ⟨o.met, by simp [numbered, Outline.meetEntries]⟩
  | cons entry rest ih =>
      obtain ⟨⟨key, value⟩, others⟩ := List.forall_mem_cons.mp each
      -- The nodes of the line come first, and those of the others behind them.
      have nodes : o.graph.nodes =
          before ++ ofWord entry.1 :: ofWord entry.2 :: rest.flatMap lineNodes := nodes
      have first : o.graph.nodes[before.length]? = some (ofWord entry.1) := by
        simp [nodes]
      let middle := withWord o before.length entry.1
      have second : middle.graph.nodes[before.length + 1]? = some (ofWord entry.2) := by
        simp [middle, withWord, nodes]
      have belowMiddle : IsMetBelow middle (before.length + 1) := isMetBelow_withWord below entry.1
      let after := withWord middle (before.length + 1) entry.2
      have length : (before ++ lineNodes entry).length = before.length + 2 := by simp [lineNodes]
      have remaining : after.graph.nodes = before ++ lineNodes entry ++ rest.flatMap lineNodes := by
        simp [after, middle, withWord, nodes, lineNodes]
      have belowAfter : IsMetBelow after (before ++ lineNodes entry).length := by
        rw [length]
        exact isMetBelow_withWord belowMiddle entry.2
      obtain ⟨met, step⟩ := ih remaining belowAfter others
      rw [length] at step
      refine ⟨met, ?_⟩
      rw [List.length_cons, numbered, Outline.meetEntries, meet_ofWord first key below]
      dsimp only
      rw [meet_ofWord second value belowMiddle]
      dsimp only
      rw [step]
      simp [after, middle, withWord, lineParts, lineWords]

/-- The keys of lines are their words. -/
theorem type_of_mem_numbered {g : Graph} {before : List GraphNode}
    (nodes : g.nodes = before ++ lines.flatMap lineNodes) {entry : Nat × Nat}
    (listed : entry ∈ numbered before.length lines.length) :
    ∃ written ∈ lines, g.type entry.1 = .ofPlain (String.ofList written.1) := by
  induction lines generalizing before with
  | nil => cases listed
  | cons first rest ih =>
      have nodes : g.nodes =
          before ++ ofWord first.1 :: ofWord first.2 :: rest.flatMap lineNodes := nodes
      rcases List.mem_cons.mp listed with rfl | later
      · exact ⟨first, List.mem_cons_self, type_ofWord (by simp [nodes])⟩
      · have remaining : g.nodes = before ++ lineNodes first ++ rest.flatMap lineNodes := by
          simp [nodes, lineNodes]
        have listed : entry ∈ numbered (before ++ lineNodes first).length rest.length := by
          simpa [lineNodes] using later
        obtain ⟨written, known, type⟩ := ih remaining listed
        exact ⟨written, List.mem_cons_of_mem _ known, type⟩

/-- A mapping without merge keys and default keys stays as it is. -/
theorem merged_of_plain {g : Graph} {n : Nat} {entries : List (Nat × Nat)}
    (content : g.contentOf n = .mapping entries)
    (plain : ∀ entry ∈ entries, g.type entry.1 ≠ .merge ∧ g.type entry.1 ≠ .default) :
    g.merged n = some (g.setEntries n entries) := by
  have own : g.entries n = entries := by rw [Graph.entries, content]
  have noMerge : g.cutAtMerge entries = none := by
    clear content own
    induction entries with
    | nil => rfl
    | cons entry rest ih =>
        obtain ⟨here, others⟩ := List.forall_mem_cons.mp plain
        rw [cutAtMerge, if_neg here.1, ih others]
        rfl
  have kept : g.withTextKeys entries = g := by
    clear content own noMerge
    unfold withTextKeys
    induction entries with
    | nil => rfl
    | cons entry rest ih =>
        obtain ⟨here, others⟩ := List.forall_mem_cons.mp plain
        rw [List.foldl_cons]
        dsimp only
        rw [if_neg here.2]
        exact ih others
  unfold merged merge
  dsimp only
  rw [own, noMerge]
  dsimp only
  rw [kept, List.nil_append]

theorem merged_ofLines (each : ∀ entry ∈ lines, HasScalars entry) :
    (ofLines lines).merged 0 = some (ofLines lines) := by
  have nodes : (ofLines lines).nodes =
      [⟨.mapping, .mapping (numbered 1 lines.length)⟩] ++ lines.flatMap lineNodes := rfl
  refine merged_of_plain rfl fun entry listed => ?_
  obtain ⟨written, known, type⟩ := type_of_mem_numbered nodes listed
  obtain ⟨noMerge, noDefault, -⟩ := of_isScalarType (each written known).1
  rw [type]
  exact ⟨noMerge, noDefault⟩

theorem fill_of_merged {o : Outline} {n : Nat} {own : List (Nat × Nat)} {g : Graph}
    (type : o.graph.type n = .mapping) (content : o.graph.contentOf n = .mapping own)
    (merged : o.graph.merged n = some g) :
    o.fill n =
      ({ o with graph := g }.meetEntries (g.entries n)).2.put n
        (.mapping ({ o with graph := g }.meetEntries (g.entries n)).1) := by
  rw [Outline.fill, type, content]
  dsimp only
  rw [merged]

/-- The outline of lines has their words, and their parts in the mapping. -/
theorem outline_ofLines (each : ∀ entry ∈ lines, HasScalars entry) :
    ∃ met, (ofLines lines).outline = (.collection 0,
      ⟨ofLines lines, met, lines.flatMap lineWords, [],
        [(0, .mapping (lines.map lineParts))]⟩) := by
  let start : Outline := ⟨ofLines lines, [(0, .collection 0)], [], [], []⟩
  have nodes : start.graph.nodes =
      [⟨.mapping, .mapping (numbered 1 lines.length)⟩] ++ lines.flatMap lineNodes := rfl
  have below : IsMetBelow start 1 := by
    intro known listed
    rw [List.mem_singleton.mp listed]
    exact Nat.one_pos
  obtain ⟨met, entries⟩ : ∃ met, start.meetEntries (numbered 1 lines.length) =
      (lines.map lineParts, { start with met := met, words := lines.flatMap lineWords }) :=
    meetEntries_lines nodes below each
  have filled : start.fill 0 = ⟨ofLines lines, met, lines.flatMap lineWords, [],
      [(0, .mapping (lines.map lineParts))]⟩ := by
    rw [fill_of_merged rfl rfl (merged_ofLines each)]
    show Outline.put (start.meetEntries (numbered 1 lines.length)).2 0
      (.mapping (start.meetEntries (numbered 1 lines.length)).1) = _
    rw [entries]
    rfl
  refine ⟨met, ?_⟩
  show (Part.collection 0, (start.fill 0).run _) = _
  rw [filled]
  rfl

theorem value_wordOf {w : List Char} {v : Value} (means : Means w v) : (wordOf w).value = .ok v :=
  means.2

theorem failure?_wordOf {w : List Char} {v : Value} (means : Means w v) :
    (wordOf w).failure? = none := by
  rw [Word.failure?, value_wordOf means]

theorem findSome?_lineWords {found : List (Value × Value)}
    (means : List.Forall₂ LineMeans lines found) :
    (lines.flatMap lineWords).findSome? Word.failure? = none := by
  induction means with
  | nil => rfl
  | cons line _ ih =>
      rw [List.flatMap_cons, List.findSome?_append, ih]
      simp [lineWords, failure?_wordOf line.1, failure?_wordOf line.2]

theorem hasScalars_of_means {found : List (Value × Value)}
    (means : List.Forall₂ LineMeans lines found) : ∀ entry ∈ lines, HasScalars entry := by
  induction means with
  | nil => exact nofun
  | cons line _ ih => exact List.forall_mem_cons.mpr ⟨⟨line.1.1, line.2.1⟩, ih⟩

theorem map_lineParts {found : List (Value × Value)} (means : List.Forall₂ LineMeans lines found)
    (o : Outline) (fuel : Nat) (around : List Nat) :
    (lines.map lineParts).map (fun (k, v) =>
      (o.valueIn (fuel + 1) around k, o.valueIn (fuel + 1) around v)) = found := by
  induction means with
  | nil => rfl
  | cons line _ ih =>
      obtain ⟨key, value⟩ := line
      rw [List.map_cons, List.map_cons, ih]
      simp [lineParts, Outline.valueIn, value_wordOf key, value_wordOf value, Except.toOption]

/-- The document of lines stands for the mapping of what its words stand for. -/
theorem value_ofLines {found : List (Value × Value)} (means : List.Forall₂ LineMeans lines found) :
    (ofLines lines).value = .ok (Value.ofEntries found) := by
  obtain ⟨met, outline⟩ := outline_ofLines (hasScalars_of_means means)
  rw [Graph.value, outline]
  dsimp only
  rw [findSome?_lineWords means]
  exact congrArg (fun entries => Except.ok (Value.ofEntries entries)) (map_lineParts means _ _ _)

end Graph

/-! ## Words that stand for texts and numbers -/

section Hexadecimal

variable {digits : List Char}

/-- A number in base sixteen. -/
def hexadecimal (digits : List Char) : List Char := '0' :: 'x' :: digits

theorem isWord_hexadecimal (hex : ∀ c ∈ digits, Quoted.isHexDigit c) :
    IsWord (hexadecimal digits) := by
  have facts : digitChars.all fun c => decide (isFree c) := by decide
  refine ⟨List.cons_ne_nil _ _, List.forall_mem_cons.mpr ⟨by decide, ?_⟩⟩
  exact List.forall_mem_cons.mpr ⟨by decide, fun c listed => forall_isHexDigit facts (hex c listed)⟩

theorem isFloat_hexadecimal (digits : List Char) :
    TypeTag.isFloat (hexadecimal digits) = false := by
  have noPoint : ∀ word : String, word.toList.head? = some '.' →
      String.ofList (hexadecimal digits) ≠ word := by
    rintro _ point rfl
    rw [String.toList_ofList] at point
    cases point
  have unsigned : TypeTag.unsigned (hexadecimal digits) = hexadecimal digits := rfl
  unfold TypeTag.isFloat
  rw [unsigned]
  dsimp only
  rw [if_neg (by simp only [noPoint ".inf" rfl, noPoint ".Inf" rfl, noPoint ".INF" rfl, or_self,
    not_false_eq_true])]
  -- Behind the first digit stands neither a point nor a colon.
  cases digits <;> rfl

theorem isInt_hexadecimal (filled : digits ≠ []) (hex : ∀ c ∈ digits, Quoted.isHexDigit c) :
    TypeTag.isInt (hexadecimal digits) := by
  have some : digits.isEmpty = false := List.isEmpty_eq_false_iff.mpr filled
  have all : digits.all fun c => Quoted.isHexDigit c || c == '_' :=
    List.all_eq_true.mpr fun c listed => Bool.or_eq_true_iff.mpr (.inl (hex c listed))
  show (!digits.isEmpty && digits.all fun c => Quoted.isHexDigit c || c == '_') = true
  rw [some, all]
  rfl

theorem ofPlain_hexadecimal (filled : digits ≠ []) (hex : ∀ c ∈ digits, Quoted.isHexDigit c) :
    TypeTag.ofPlain (String.ofList (hexadecimal digits)) = .int := by
  have noTruth : TypeTag.truthWords.contains (String.ofList (hexadecimal digits)) = false := by
    have heads : TypeTag.truthWords.all fun word => word.toList.head? ≠ some '0' := by
      decide +kernel
    rw [Bool.eq_false_iff, ne_eq, List.contains_iff_mem]
    intro listed
    have differ := List.all_eq_true.mp heads _ listed
    rw [String.toList_ofList] at differ
    exact absurd rfl (of_decide_eq_true differ)
  simp only [TypeTag.ofPlain, String.toList_ofList,
    TypeTag.withoutFeed_of_open (isWord_hexadecimal hex).getLast?_ne, noTruth,
    isFloat_hexadecimal, isInt_hexadecimal filled hex]
  rfl

theorem int_hexadecimal (filled : digits ≠ []) (hex : ∀ c ∈ digits, Quoted.isHexDigit c) :
    Number.int (String.ofList (hexadecimal digits)) = .ok (Decimal.natOfBase 16 digits) := by
  have facts : digitChars.all fun c => decide (c ≠ '_' ∧ Number.isDigitIn 16 c) := by decide
  have inBase : ∀ c ∈ digits, Number.isDigitIn 16 c := fun c listed =>
    (forall_isHexDigit facts (hex c listed)).2
  have noLine : Number.withoutLines (hexadecimal digits) = hexadecimal digits := by
    have kept : Number.withoutLines digits = digits := List.filter_eq_self.mpr fun c listed =>
      decide_eq_true (forall_isHexDigit facts (hex c listed)).1
    rw [hexadecimal, Number.withoutLines_cons (by decide), Number.withoutLines_cons (by decide),
      kept]
  rw [Number.int, String.toList_ofList, noLine]
  show (Number.whole 16 digits).map _ = _
  rw [Number.whole_of_digits inBase, if_neg (by simp [filled])]
  rfl

theorem means_hexadecimal (filled : digits ≠ []) (hex : ∀ c ∈ digits, Quoted.isHexDigit c) :
    Means (hexadecimal digits) (.int (Decimal.natOfBase 16 digits)) := by
  rw [Means, ofPlain_hexadecimal filled hex, Yaml.scalar, int_hexadecimal filled hex]
  exact ⟨rfl, rfl⟩

end Hexadecimal

theorem means_text {w : List Char} (type : TypeTag.ofPlain (String.ofList w) = .text) :
    Means w (.string (String.ofList w)) := by
  rw [Means, type]
  exact ⟨rfl, rfl⟩

/-- A text of lines is the mapping from what the keys stand for to what the values stand for. -/
theorem load_ofLines {lines : List (List Char × List Char)} (filled : lines ≠ [])
    (each : ∀ entry ∈ lines, IsLine entry) {found : List (Value × Value)}
    (means : List.Forall₂ LineMeans lines found) (once : Value.BindsOnce found) :
    load (ofLines lines) = .ok (.map found) := by
  rw [load, lexemes_ofLines filled each]
  show (Graph.ofList _ _ >>= _) = _
  rw [Graph.ofList_lines]
  show (Graph.ofLines lines).value = _
  rw [Graph.value_ofLines means, Value.ofEntries_of_bindsOnce once]

end Bindery.Yaml
