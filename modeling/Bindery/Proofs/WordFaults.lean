import Bindery.Proofs.LexicalFaults
import Bindery.Yaml.Outline

/-!
# Faults of words

A document that was read as YAML stops a build only for a word: for a scalar with the form of a type
and no value of it, for a date that is looked for under a default key, or for a default key that
leads back to itself. The text of every word stands in a scalar of the document, although the nodes
of the document change while it is built.
-/

namespace Bindery.Yaml

open StopsOnly (ite malformed)

/-- The faults that a word can have. -/
inductive IsOfScalar : Fault → Prop
  | impossibleDate : IsOfScalar (.value .impossibleDate)
  | badNumber : IsOfScalar (.value .badNumber)
  | tooLarge : IsOfScalar (.value .tooLarge)
  | noFirst : IsOfScalar .noFirst
  | badDate : IsOfScalar .badDate
  | badTruth : IsOfScalar .badTruth
  | wrongType : IsOfScalar .wrongType
  | endless : IsOfScalar .endless

/-! ## Values of scalars -/

namespace StopsOnly

variable {α β : Type} {among : Fault → Prop}

theorem map {r : Except Failure α} (stops : StopsOnly among r) (f : α → β) :
    StopsOnly among (r.map f) := by
  cases r with
  | ok a => exact .ok _
  | error failure => exact fun cause same => stops cause (by cases same; rfl)

theorem fault {cause : Fault} (found : among cause) :
    StopsOnly among (.error (.fault cause) : Except Failure α) := by
  intro other same
  cases same
  exact found

theorem mapM {f : α → Except Failure β} (each : ∀ a, StopsOnly among (f a)) (items : List α) :
    StopsOnly among (items.mapM f) := by
  induction items with
  | nil => exact .ok _
  | cons a rest ih =>
      rw [List.mapM_cons]
      exact .bind (each a) fun _ => .bind ih fun _ => .ok _

end StopsOnly

namespace Number

theorem stopsOnly_whole (base : Nat) (cs : List Char) : StopsOnly IsOfScalar (whole base cs) := by
  unfold whole
  exact ite (.fault .badNumber) (.ok _)

theorem stopsOnly_magnitude (cs : List Char) : StopsOnly IsOfScalar (magnitude cs) := by
  unfold magnitude
  split
  · exact .fault .noFirst
  · exact .ok _
  · exact stopsOnly_whole _ _
  · exact stopsOnly_whole _ _
  · exact stopsOnly_whole _ _
  · exact ite ((StopsOnly.mapM (stopsOnly_whole 10) _).map _) (stopsOnly_whole _ _)

theorem stopsOnly_decimal (cs : List Char) : StopsOnly IsOfScalar (decimal cs) := by
  unfold decimal
  refine ite (.ok _) (ite (.ok _) ?_)
  dsimp only
  refine ite (.fault .badNumber) ?_
  split
  · exact .ok _
  · exact ite (.ok _) (.fault .badNumber)

theorem stopsOnly_sixtiesFrom (unit : Nat) (sum : Float) (parts : List Float) :
    StopsOnly IsOfScalar (sixtiesFrom unit sum parts) := by
  induction parts generalizing unit sum with
  | nil => exact .ok _
  | cons part rest ih => exact ite (.fault .tooLarge) (ih _ _)

theorem stopsOnly_float (text : String) : StopsOnly IsOfScalar (float text) := by
  unfold float
  refine ite (.fault .noFirst) (ite (.ok _) (ite (.ok _) (ite ?_ ?_)))
  · refine .bind (.mapM stopsOnly_decimal _) fun _ => ?_
    exact .bind (stopsOnly_sixtiesFrom _ _ _) fun _ => .ok _
  · exact .bind (stopsOnly_decimal _) fun _ => .ok _

end Number

theorem Stamp.stopsOnly_value (text : String) : StopsOnly IsOfScalar (value text) := by
  unfold value
  split
  · exact .fault .badDate
  · dsimp only
    split
    · exact ite (.ok _) (.fault .impossibleDate)
    · exact ite (.ok _) (.fault .impossibleDate)

/-- A scalar stops a build only for a text that does not fit its type. -/
theorem stopsOnly_scalar (type : TypeTag) (text : String) :
    StopsOnly IsOfScalar (scalar type text) := by
  cases type with
  | truth => exact ite (.ok _) (ite (.ok _) (.fault .badTruth))
  | int => exact ((Number.stopsOnly_magnitude _).map _).map _
  | float => exact (Number.stopsOnly_float text).map _
  | timestamp => exact Stamp.stopsOnly_value text
  | binary =>
      refine ite ?_ malformed
      split
      · exact .ok _
      · exact malformed
  | null | text => exact .ok _
  | _ => exact malformed

/-! ## Texts of a document -/

namespace Graph

variable {g doc : Graph}

/-- Does a scalar of the document have the text? -/
def Says (g : Graph) (text : String) : Prop := ∃ node ∈ g.nodes, node.content = .scalar text

/-- Is every text of the graph one of the document? -/
def SaysOnly (doc g : Graph) : Prop := ∀ text, g.Says text → doc.Says text

theorem says_of_contentOf {n : Nat} {text : String} (same : g.contentOf n = .scalar text) :
    g.Says text := by
  unfold contentOf at same
  cases found : g.nodes[n]? with
  | none =>
      rw [found] at same
      cases same
  | some node =>
      rw [found] at same
      exact ⟨node, List.mem_of_getElem? found, same⟩

/-- Changing nodes in a way that makes no scalars adds no texts. -/
theorem saysOnly_modify (only : doc.SaysOnly g) (n : Nat) {f : GraphNode → GraphNode}
    (kept : ∀ node text, (f node).content = .scalar text → node.content = .scalar text) :
    doc.SaysOnly { g with nodes := g.nodes.modify n f } := by
  rintro text ⟨node, listed, same⟩
  obtain ⟨i, found⟩ := List.mem_iff_getElem?.mp listed
  rw [List.getElem?_modify] at found
  obtain ⟨old, present, rfl⟩ := Option.map_eq_some_iff.mp found
  refine only text ⟨old, List.mem_of_getElem? present, ?_⟩
  split at same
  · exact kept old text same
  · exact same

theorem saysOnly_setType (only : doc.SaysOnly g) (n : Nat) (type : TypeTag) :
    doc.SaysOnly (g.setType n type) :=
  saysOnly_modify only n fun _ _ same => same

theorem saysOnly_setEntries (only : doc.SaysOnly g) (n : Nat) (entries : List (Nat × Nat)) :
    doc.SaysOnly (g.setEntries n entries) :=
  saysOnly_modify only n nofun

theorem saysOnly_withTextKeys (only : doc.SaysOnly g) (entries : List (Nat × Nat)) :
    doc.SaysOnly (g.withTextKeys entries) := by
  unfold withTextKeys
  induction entries generalizing g with
  | nil => exact only
  | cons entry rest ih =>
      obtain ⟨k, v⟩ := entry
      rw [List.foldl_cons]
      refine ih ?_
      dsimp only
      split
      · exact saysOnly_setType only _ _
      · exact only

/-- What every step of a walk keeps, the walk keeps. -/
theorem holds_of_foldlM {σ α : Type} {holds : σ → Prop} {f : σ → α → Option σ}
    (step : ∀ s a t, holds s → f s a = some t → holds t) {items : List α} {s t : σ}
    (start : holds s) (walked : items.foldlM f s = some t) : holds t := by
  induction items generalizing s with
  | nil =>
      cases walked
      exact start
  | cons a rest ih =>
      rw [List.foldlM_cons] at walked
      obtain ⟨next, stepped, walked⟩ := Option.bind_eq_some_iff.mp walked
      exact ih (step s a next start stepped) walked

theorem saysOnly_merge {fuel n : Nat} {merged : List (Nat × Nat)} {after : Graph}
    (only : doc.SaysOnly g) (done : merge fuel n merged g = some after) : doc.SaysOnly after := by
  induction fuel generalizing n merged g after with
  | zero => cases done
  | succ fuel ih =>
      unfold merge at done
      dsimp only at done
      split at done
      · cases done
        exact saysOnly_setEntries (saysOnly_withTextKeys only _) _ _
      · obtain ⟨mappings, -, done⟩ := Option.bind_eq_some_iff.mp done
        obtain ⟨⟨more, inner⟩, walked, done⟩ := Option.bind_eq_some_iff.mp done
        refine ih ?_ done
        -- Each mapping of a list is merged in the nodes that the one before it left.
        let holds (state : List (Nat × Nat) × Graph) : Prop := doc.SaysOnly state.2
        have step : ∀ s m t, holds s → (do
            let g ← merge fuel m [] s.2
            return (g.entries m ++ s.1, g)) = some t → holds t := by
          rintro _ m _ kept stepped
          obtain ⟨_, merged, same⟩ := Option.bind_eq_some_iff.mp stepped
          cases same
          exact ih kept merged
        exact holds_of_foldlM step (saysOnly_setEntries only _ _) walked

/-! ## Words -/

/-- The text of a node is one of the document, or looking for it fails in one of two ways. -/
theorem textOf_outcome (fuel n : Nat) :
    (∃ text, g.textOf fuel n = .ok text ∧ g.Says text) ∨
      g.textOf fuel n = .error .malformed ∨ g.textOf fuel n = .error (.fault .endless) := by
  induction fuel generalizing n with
  | zero => exact .inr (.inr rfl)
  | succ fuel ih =>
      unfold textOf
      split
      · next text same => exact .inl ⟨text, rfl, says_of_contentOf same⟩
      · exact .inr (.inl rfl)
      · split
        · exact ih _
        · exact .inr (.inl rfl)

end Graph

namespace Word

/-- Can the word be one of a document: is its text one of the document's, and its fault one that a
word can have? -/
structure IsOf (doc : Graph) (w : Word) : Prop where
  text : ∀ type text, w = .ok (type, text) → doc.Says text
  stops : StopsOnly IsOfScalar w

variable {doc g : Graph}

theorem isOf_malformed : IsOf doc (.error .malformed) := ⟨nofun, malformed⟩

theorem isOf_word (only : doc.SaysOnly g) (n : Nat) : IsOf doc (g.word n) := by
  unfold Graph.word
  dsimp only
  split
  · exact isOf_malformed
  · rcases g.textOf_outcome g.nodes.length n with ⟨text, found, written⟩ | failed | endless
    · rw [found]
      show IsOf doc (if _ then _ else _)
      split
      · exact ⟨nofun, .fault .wrongType⟩
      · refine ⟨fun type other same => ?_, .ok _⟩
        cases same
        exact only text written
    · rw [failed]
      exact isOf_malformed
    · rw [endless]
      exact ⟨nofun, .fault .endless⟩

/-- A word stops a build only with a fault that words can have. -/
theorem IsOf.stopsOnly_value {w : Word} (isOf : w.IsOf doc) : StopsOnly IsOfScalar w.value :=
  isOf.stops.bind fun ⟨_, _⟩ => stopsOnly_scalar _ _

theorem failure?_eq_none_iff {w : Word} : w.failure? = none ↔ ∃ v, w.value = .ok v := by
  unfold failure?
  cases w.value with
  | ok v => exact ⟨fun _ => ⟨v, rfl⟩, fun _ => rfl⟩
  | error failure => exact ⟨nofun, nofun⟩

theorem failure?_eq_some_iff {w : Word} {failure : Failure} :
    w.failure? = some failure ↔ w.value = .error failure := by
  unfold failure?
  cases w.value with
  | ok v => exact ⟨nofun, nofun⟩
  | error other => rw [Option.some.injEq, Except.error.injEq]

end Word

/-- Is the failure that of a word, with a value for every word before it? -/
def FailsFirst (words : List Word) (failure : Failure) : Prop :=
  ∃ before w after, words = before ++ w :: after ∧ (∀ v ∈ before, ∃ x, v.value = .ok x) ∧
    w.value = .error failure

theorem FailsFirst.word {words : List Word} {failure : Failure} (first : FailsFirst words failure) :
    ∃ w ∈ words, w.value = .error failure := by
  obtain ⟨before, w, after, rfl, -, fails⟩ := first
  exact ⟨w, List.mem_append_right _ List.mem_cons_self, fails⟩

theorem findSome?_eq_some_iff {words : List Word} {failure : Failure} :
    words.findSome? Word.failure? = some failure ↔ FailsFirst words failure := by
  rw [List.findSome?_eq_some_iff, FailsFirst]
  constructor
  · rintro ⟨before, w, after, same, fails, others⟩
    exact ⟨before, w, after, same, fun v listed => Word.failure?_eq_none_iff.mp (others v listed),
      Word.failure?_eq_some_iff.mp fails⟩
  · rintro ⟨before, w, after, same, others, fails⟩
    exact ⟨before, w, after, same, Word.failure?_eq_some_iff.mpr fails,
      fun v listed => Word.failure?_eq_none_iff.mpr (others v listed)⟩

/-! ## Outlines -/

namespace Outline

/-- Is the outline one of the document, as far as it was built? -/
structure IsOf (doc : Graph) (o : Outline) : Prop where
  texts : doc.SaysOnly o.graph
  words : ∀ w ∈ o.words, w.IsOf doc

variable {doc : Graph} {o : Outline}

theorem IsOf.add (isOf : o.IsOf doc) {w : Word} (found : w.IsOf doc) :
    ∀ v ∈ o.words ++ [w], v.IsOf doc := by
  intro v listed
  rcases List.mem_append.mp listed with known | new
  · exact isOf.words v known
  · rw [List.mem_singleton.mp new]
    exact found

theorem IsOf.refuse (isOf : o.IsOf doc) : o.refuse.IsOf doc :=
  ⟨isOf.texts, isOf.add Word.isOf_malformed⟩

theorem IsOf.meet (isOf : o.IsOf doc) (n : Nat) : (o.meet n).2.IsOf doc := by
  unfold Outline.meet
  split
  · exact isOf
  · split
    · exact ⟨isOf.texts, isOf.words⟩
    · exact ⟨isOf.texts, isOf.add (Word.isOf_word isOf.texts n)⟩

theorem IsOf.meetAll (isOf : o.IsOf doc) (items : List Nat) : (o.meetAll items).2.IsOf doc := by
  induction items generalizing o with
  | nil => exact isOf
  | cons n rest ih => exact ih (isOf.meet n)

theorem IsOf.meetEntries (isOf : o.IsOf doc) (entries : List (Nat × Nat)) :
    (o.meetEntries entries).2.IsOf doc := by
  induction entries generalizing o with
  | nil => exact isOf
  | cons entry rest ih =>
      obtain ⟨k, v⟩ := entry
      unfold Outline.meetEntries
      dsimp only
      refine ih (IsOf.meet ?_ v)
      split
      · exact isOf.meet k
      · exact (isOf.meet k).refuse

theorem IsOf.meetPairs (isOf : o.IsOf doc) (items : List Nat) :
    (o.meetPairs items).2.IsOf doc := by
  induction items generalizing o with
  | nil => exact isOf
  | cons n rest ih =>
      unfold Outline.meetPairs
      split
      · exact ih ((isOf.meet _).meet _)
      · exact isOf.refuse

theorem IsOf.put (isOf : o.IsOf doc) (n : Nat) (shape : Shape) : (o.put n shape).IsOf doc :=
  ⟨isOf.texts, isOf.words⟩

theorem IsOf.on (isOf : o.IsOf doc) {n : Nat} {g : Graph} (merged : o.graph.merged n = some g) :
    { o with graph := g }.IsOf doc :=
  ⟨Graph.saysOnly_merge isOf.texts merged, isOf.words⟩

/-- Filling a collection adds words of the document alone. -/
theorem IsOf.fill (isOf : o.IsOf doc) (n : Nat) : (o.fill n).IsOf doc := by
  unfold Outline.fill
  split
  · exact (isOf.meetAll _).put _ _
  · exact (isOf.meetPairs _).put _ _
  · exact (isOf.meetPairs _).put _ _
  · split
    · next g merged => exact ((isOf.on merged).meetEntries _).put _ _
    · exact isOf.refuse
  · split
    · next g merged => exact ((isOf.on merged).meetEntries _).put _ _
    · exact isOf.refuse
  · exact isOf.refuse

theorem IsOf.run (isOf : o.IsOf doc) (fuel : Nat) : (o.run fuel).IsOf doc := by
  induction fuel generalizing o with
  | zero => exact isOf
  | succ fuel ih =>
      unfold Outline.run
      split
      · exact isOf
      · next n rest _ =>
        have start : IsOf doc { o with waiting := rest } := ⟨isOf.texts, isOf.words⟩
        exact ih (start.fill n)

end Outline

theorem Graph.isOf_outline (g : Graph) : g.outline.2.IsOf g := by
  have start : Outline.IsOf g ⟨g, [], [], [], []⟩ :=
    ⟨fun _ written => written, fun _ listed => nomatch listed⟩
  exact (start.meet g.root).run _

/-! ## Documents -/

/-- The fault at which loading a text stops, if it does: the one that its lexemes end with, if more
of them are asked for, or else that of the first word without a value. -/
def stop? (text : String) : Option Fault :=
  match Graph.ofLexed (lexemes text) with
  | .error (.fault cause) => some cause
  | .ok (some g) =>
      match g.outline.2.words.findSome? Word.failure? with
      | some (.fault cause) => some cause
      | _ => none
  | _ => none

/-- Loading a text stops with a fault exactly where it is said to. -/
theorem load_eq_fault_iff {text : String} {cause : Fault} :
    load text = .error (.fault cause) ↔ stop? text = some cause := by
  unfold load stop?
  cases Graph.ofLexed (lexemes text) with
  | error failure =>
      cases failure with
      | malformed => exact ⟨nofun, nofun⟩
      | fault found =>
          show Except.error (Failure.fault found) = _ ↔ some found = _
          rw [Except.error.injEq, Failure.fault.injEq, Option.some.injEq]
  | ok content =>
      cases content with
      | none => exact ⟨nofun, nofun⟩
      | some g =>
          show g.value = _ ↔ _
          unfold Graph.value
          dsimp only
          cases g.outline.2.words.findSome? Word.failure? with
          | none => exact ⟨nofun, nofun⟩
          | some failure =>
              cases failure with
              | malformed => exact ⟨nofun, nofun⟩
              | fault found =>
                  show Except.error (Failure.fault found) = _ ↔ some found = _
                  rw [Except.error.injEq, Failure.fault.injEq, Option.some.injEq]

/-- Do the lexemes of a text stop it at a number, of a character or of a version, which is asked for
before the document is known to be none? -/
def StopsAtLexeme (text : String) (cause : Fault) : Prop :=
  IsLexical cause ∧ (lexemes text).ending = .fault cause ∧
    Graph.ofLexed (lexemes text) = .error (.fault cause)

/-- Does a word stop a text, the first one of its document without a value? The texts of words are
those that stand in the document. -/
def StopsAtWord (text : String) (cause : Fault) : Prop :=
  IsOfScalar cause ∧ ∃ g, Graph.ofLexed (lexemes text) = .ok (some g) ∧
    FailsFirst g.outline.2.words (.fault cause) ∧ ∀ w ∈ g.outline.2.words, w.IsOf g

/-- Where loading a text stops. -/
theorem stop?_eq_some_iff {text : String} {cause : Fault} :
    stop? text = some cause ↔ StopsAtLexeme text cause ∨ StopsAtWord text cause := by
  constructor
  · intro stops
    unfold stop? at stops
    split at stops
    · next found failed =>
        cases stops
        have ends := Graph.ending_of_ofLexed failed
        exact .inl ⟨isLexical_of_ending ends, ends, failed⟩
    · next g read =>
        split at stops
        · next found fails =>
            cases stops
            have first := findSome?_eq_some_iff.mp fails
            have words := g.isOf_outline.words
            obtain ⟨w, listed, stopped⟩ := first.word
            exact .inr ⟨(words w listed).stopsOnly_value cause stopped, g, read, first, words⟩
        · cases stops
    · cases stops
  · unfold stop?
    rintro (⟨-, -, failed⟩ | ⟨-, g, read, first, -⟩)
    · rw [failed]
    · rw [read]
      dsimp only
      rw [findSome?_eq_some_iff.mpr first]

end Bindery.Yaml
