import Bindery.Yaml.Graph

/-!
# Faults of lexemes

A text that is no YAML is malformed, which is reported and passed over. Only few texts stop a build
before their values are built: those that escape a number without a character, and those that ask for
a version with too many digits. Reading lexemes as a document stops for nothing else than the failure
that the lexemes end with.
-/

namespace Bindery.Yaml

/-! ## Results that stop for certain faults only -/

/-- Every fault that the result may be has the property. -/
def StopsOnly {α : Type} (among : Fault → Prop) (r : Except Failure α) : Prop :=
  ∀ cause, r = .error (.fault cause) → among cause

namespace StopsOnly

variable {α β : Type} {among : Fault → Prop}

theorem ok (a : α) : StopsOnly among (.ok a : Except Failure α) := nofun

theorem malformed : StopsOnly among (.error .malformed : Except Failure α) := nofun

theorem bind {r : Except Failure α} {next : α → Except Failure β} (first : StopsOnly among r)
    (later : ∀ a, StopsOnly among (next a)) : StopsOnly among (r >>= next) := by
  intro cause stopped
  cases r with
  | error failure =>
      cases stopped
      exact first cause rfl
  | ok a => exact later a cause stopped

theorem ite {p : Prop} [Decidable p] {r s : Except Failure α} (yes : StopsOnly among r)
    (no : StopsOnly among s) : StopsOnly among (if p then r else s) := by
  split
  · exact yes
  · exact no

/-- Two ways to the same step. -/
theorem ite_bind {p : Prop} [Decidable p] {r s : Except Failure α}
    {next : α → Except Failure β} (yes : StopsOnly among r) (no : StopsOnly among s)
    (later : ∀ a, StopsOnly among (next a)) :
    StopsOnly among (if p then r >>= next else s >>= next) :=
  ite (yes.bind later) (no.bind later)

end StopsOnly

open StopsOnly (ite ite_bind malformed)

/-- The faults that reading a lexeme can have. -/
inductive IsLexical : Fault → Prop
  | noCharacter : IsLexical (.value .noCharacter)
  | tooLarge : IsLexical (.value .tooLarge)
  | longNumber : IsLexical (.value .longNumber)

/-! ## Scalars -/

namespace Quoted

theorem stopsOnly_charOf (n : Nat) : StopsOnly IsLexical (charOf n) := by
  intro cause stopped
  unfold charOf at stopped
  split at stopped
  · cases stopped
    exact .tooLarge
  · split at stopped
    · cases stopped
      exact .noCharacter
    · cases stopped

theorem stopsOnly_breaks {among : Fault → Prop} (fuel : Nat) (c : Cursor) (found : List Char) :
    StopsOnly among (breaks fuel c found) := by
  induction fuel generalizing c found with
  | zero => exact .ok _
  | succ fuel ih =>
      unfold breaks
      refine ite malformed ?_
      dsimp only
      split
      · exact ih _ _
      · exact .ok _

theorem stopsOnly_body (quote : Char) (fuel : Nat) (c : Cursor) (text : String) :
    StopsOnly IsLexical (body quote fuel c text) := by
  induction fuel generalizing c text with
  | zero => exact malformed
  | succ fuel ih =>
      unfold body
      split
      · exact malformed
      · refine ite (ite (ih _ _) (.ok _)) (ite ?_ (ite ?_ (ih _ _)))
        · dsimp only
          split
          · exact .bind (stopsOnly_breaks _ _ _) fun ⟨_, _⟩ => ih _ _
          · exact ih _ _
        · split
          · exact malformed
          · split
            · exact ih _ _
            · exact ite (.bind (stopsOnly_charOf _) fun _ => ih _ _) malformed
            · split
              · exact .bind (stopsOnly_breaks _ _ _) fun ⟨_, _⟩ => ih _ _
              · exact malformed

end Quoted

theorem Block.stopsOnly_indicators {among : Fault → Prop} (c : Cursor) :
    StopsOnly among (indicators c) := by
  unfold indicators
  exact ite malformed (.ok _)

theorem Block.stopsOnly_read {among : Fault → Prop} (folded : Bool) (parent : Int) (c : Cursor) :
    StopsOnly among (read folded parent c) := by
  unfold read
  refine .bind (stopsOnly_indicators _) fun _ => ?_
  exact ite malformed (.ok _)

/-! ## Tags, names and directives -/

namespace Tag

variable {among : Fault → Prop}

theorem stopsOnly_escapes (fuel : Nat) (c : Cursor) (bytes : List UInt8) :
    StopsOnly among (escapes fuel c bytes) := by
  induction fuel generalizing c bytes with
  | zero => exact .ok _
  | succ fuel ih =>
      unfold escapes
      split
      · exact ite (ih _ _) malformed
      · exact malformed
      · exact .ok _

theorem stopsOnly_uriFrom (fuel : Nat) (c : Cursor) (text : String) :
    StopsOnly among (uriFrom fuel c text) := by
  induction fuel generalizing c text with
  | zero => exact .ok _
  | succ fuel ih =>
      unfold uriFrom
      split
      · refine .bind (stopsOnly_escapes _ _ _) fun ⟨_, _⟩ => ?_
        dsimp only
        split
        · exact ih _ _
        · exact malformed
      · exact ite (ih _ _) (.ok _)
      · exact .ok _

theorem stopsOnly_uri (c : Cursor) : StopsOnly among (uri c) :=
  .bind (stopsOnly_uriFrom _ _ _) fun _ => ite malformed (.ok _)

theorem stopsOnly_handle (c : Cursor) : StopsOnly among (handle c) := by
  unfold handle
  split
  · exact .ok _
  · dsimp only
    split
    · exact .ok _
    · exact malformed
  · exact malformed

theorem stopsOnly_read (c : Cursor) : StopsOnly among (read c) := by
  have closed (l : Lexeme) (c : Cursor) :
      StopsOnly among (if endsWord c.next then .ok (l, c) else .error .malformed) :=
    ite (.ok _) malformed
  unfold read
  split
  · refine .bind (stopsOnly_uri _) fun ⟨_, _⟩ => ?_
    exact ite_bind (.ok _) malformed fun ⟨_, _⟩ => closed _ _
  · refine ite (.bind (.ok _) fun ⟨_, _⟩ => closed _ _) (ite ?_ ?_)
    · refine .bind (stopsOnly_handle _) fun ⟨_, _⟩ => .bind (stopsOnly_uri _) fun ⟨_, _⟩ => ?_
      exact .bind (.ok _) fun ⟨_, _⟩ => closed _ _
    · refine .bind (stopsOnly_uri _) fun ⟨_, _⟩ => ?_
      exact .bind (.ok _) fun ⟨_, _⟩ => closed _ _

end Tag

theorem stopsOnly_anchorName {among : Fault → Prop} (c : Cursor) :
    StopsOnly among (anchorName c) := by
  unfold anchorName
  exact ite malformed (.ok _)

namespace Directive

theorem stopsOnly_number (c : Cursor) : StopsOnly IsLexical (number c) := by
  unfold number
  refine ite malformed (ite ?_ (.ok _))
  intro cause stopped
  cases stopped
  exact .longNumber

theorem stopsOnly_content (c : Cursor) : StopsOnly IsLexical (content c) := by
  unfold content
  refine ite malformed (ite ?_ (ite ?_ (.ok _)))
  · refine .bind (stopsOnly_number _) fun _ => ite malformed ?_
    exact .bind (stopsOnly_number _) fun _ => ite (.ok _) malformed
  · refine .bind (Tag.stopsOnly_handle _) fun _ => ite malformed ?_
    exact .bind (Tag.stopsOnly_uri _) fun _ => ite (.ok _) malformed

theorem stopsOnly_read (c : Cursor) : StopsOnly IsLexical (read c) :=
  .bind (stopsOnly_content _) fun _ => ite (.ok _) malformed

end Directive

/-! ## Lexemes -/

namespace Progress

variable {among : Fault → Prop}

theorem stopsOnly_dropStale (p : Progress) : StopsOnly among p.dropStale := ite malformed (.ok _)

theorem stopsOnly_dropPlace (p : Progress) : StopsOnly among p.dropPlace := ite malformed (.ok _)

theorem stopsOnly_keepPlace (p : Progress) : StopsOnly among p.keepPlace :=
  ite (.bind (stopsOnly_dropPlace _) fun _ => .ok _) (.ok _)

theorem stopsOnly_leaveDocument (p : Progress) : StopsOnly among p.leaveDocument :=
  .bind (stopsOnly_dropPlace _) fun _ => .ok _

theorem stopsOnly_separator (l : Lexeme) (p : Progress) : StopsOnly among (p.separator l) :=
  .bind (stopsOnly_leaveDocument _) fun _ => .ok _

theorem stopsOnly_openFlow (l : Lexeme) (p : Progress) : StopsOnly among (p.openFlow l) :=
  .bind (stopsOnly_keepPlace _) fun _ => .ok _

theorem stopsOnly_closeFlow (l : Lexeme) (p : Progress) : StopsOnly among (p.closeFlow l) :=
  .bind (stopsOnly_dropPlace _) fun _ => ite malformed (.ok _)

theorem stopsOnly_flowEntry (p : Progress) : StopsOnly among p.flowEntry :=
  .bind (stopsOnly_dropPlace _) fun _ => .ok _

theorem stopsOnly_openEntry (l : Lexeme) (p : Progress) : StopsOnly among (p.openEntry l) :=
  ite (.ok _) (ite (.ok _) malformed)

theorem stopsOnly_blockEntry (p : Progress) : StopsOnly among p.blockEntry :=
  .bind (stopsOnly_openEntry _ _) fun _ => .bind (stopsOnly_dropPlace _) fun _ => .ok _

theorem stopsOnly_explicitKey (p : Progress) : StopsOnly among p.explicitKey :=
  .bind (stopsOnly_openEntry _ _) fun _ => .bind (stopsOnly_dropPlace _) fun _ => .ok _

theorem stopsOnly_valueMark (p : Progress) : StopsOnly among p.valueMark := by
  unfold valueMark
  split
  · exact .ok _
  · exact .bind (stopsOnly_openEntry _ _) fun _ => .bind (stopsOnly_dropPlace _) fun _ => .ok _

theorem stopsOnly_atPlace {read : Cursor → Except Failure (Lexeme × Cursor)}
    (reads : ∀ c, StopsOnly among (read c)) (p : Progress) : StopsOnly among (p.atPlace read) :=
  .bind (stopsOnly_keepPlace _) fun _ => .bind (reads _) fun _ => .ok _

theorem stopsOnly_named (make : String → Lexeme) (c : Cursor) : StopsOnly among (named make c) :=
  .bind (stopsOnly_anchorName _) fun _ => .ok _

theorem stopsOnly_quoted (quote : Char) (c : Cursor) : StopsOnly IsLexical (quoted quote c) :=
  .bind (Quoted.stopsOnly_body _ _ _ _) fun _ => .ok _

theorem stopsOnly_block (folded : Bool) (p : Progress) : StopsOnly among (p.block folded) :=
  .bind (stopsOnly_dropPlace _) fun _ => .bind (Block.stopsOnly_read _ _ _) fun _ => .ok _

theorem stopsOnly_plain (p : Progress) : StopsOnly among p.plain :=
  .bind (stopsOnly_keepPlace _) fun _ => .ok _

theorem stopsOnly_advance (p : Progress) (ch : Char) : StopsOnly IsLexical (p.advance ch) := by
  unfold advance
  refine ite ?_ ?_
  · exact .bind (stopsOnly_leaveDocument _) fun _ => .bind (Directive.stopsOnly_read _) fun _ => .ok _
  refine ite (stopsOnly_separator _ _) (ite (stopsOnly_separator _ _) ?_)
  refine ite (stopsOnly_openFlow _ _) (ite (stopsOnly_openFlow _ _) ?_)
  refine ite (stopsOnly_closeFlow _ _) (ite (stopsOnly_closeFlow _ _) ?_)
  refine ite (stopsOnly_flowEntry _) (ite (stopsOnly_blockEntry _) ?_)
  refine ite (stopsOnly_explicitKey _) (ite (stopsOnly_valueMark _) ?_)
  refine ite (stopsOnly_atPlace (stopsOnly_named _) _) ?_
  refine ite (stopsOnly_atPlace (stopsOnly_named _) _) ?_
  refine ite (stopsOnly_atPlace Tag.stopsOnly_read _) ?_
  refine ite (stopsOnly_block _ _) (ite (stopsOnly_block _ _) ?_)
  exact ite (stopsOnly_atPlace (stopsOnly_quoted _) _) (ite (stopsOnly_plain _) malformed)

theorem stopsOnly_following (p : Progress) : StopsOnly IsLexical p.following := by
  refine .bind (stopsOnly_dropStale _) fun _ => ?_
  dsimp only
  split
  · exact .bind (stopsOnly_leaveDocument _) fun _ => .ok _
  · exact .bind (stopsOnly_advance _ _) fun _ => .ok _

theorem isLexical_of_run {fuel : Nat} {p : Progress} {cause : Fault}
    (ends : (p.run fuel).ending = .fault cause) : IsLexical cause := by
  induction fuel generalizing p with
  | zero => cases ends
  | succ fuel ih =>
      unfold run at ends
      split at ends
      · exact ih ends
      · cases ends
      · next failure stopped =>
          cases ends
          exact stopsOnly_following p cause stopped

end Progress

/-- The lexemes of a text end with a fault only at a number: of a character or of a version. -/
theorem isLexical_of_ending {text : String} {cause : Fault}
    (ends : (lexemes text).ending = .fault cause) : IsLexical cause := by
  unfold lexemes at ends
  dsimp only at ends
  split at ends
  · exact Progress.isLexical_of_run ends
  · cases ends

/-! ## Graphs -/

namespace Graph

/-- Is the fault the failure that the lexemes end with? -/
def Ends (ending : Failure) (cause : Fault) : Prop := ending = .fault cause

variable {ending : Failure}

theorem stopsOnly_refusal {α : Type} (rest : List Lexeme) :
    StopsOnly (Ends ending) (.error (refusal ending rest) : Except Failure α) := by
  intro cause stopped
  unfold refusal at stopped
  split at stopped
  · exact Except.error.inj stopped
  · cases stopped

theorem stopsOnly_properties (ls : List Lexeme) :
    StopsOnly (Ends ending) (properties ending ls) := by
  unfold properties
  split
  case h_4 => exact fun cause stopped => Except.error.inj stopped
  all_goals exact .ok _

theorem stopsOnly_fullTag {among : Fault → Prop} (handles : List (String × String))
    (tag : Option (Option String × String)) : StopsOnly among (fullTag handles tag) := by
  unfold fullTag
  split
  · exact .ok _
  · exact .ok _
  · split
    · exact .ok _
    · exact malformed

theorem stopsOnly_passSeparator (first : Bool) (r : Reading) :
    StopsOnly (Ends ending) (passSeparator ending first r) := by
  unfold passSeparator
  refine ite (.ok _) ?_
  split
  · exact .ok _
  · exact stopsOnly_refusal _

/-- The readers of one amount of fuel, which call one another with less. -/
structure Readers (ending : Failure) (fuel : Nat) : Prop where
  node : ∀ inBlock unindented r,
    StopsOnly (Ends ending) (Graph.node ending inBlock unindented fuel r)
  blockItems : ∀ r, StopsOnly (Ends ending) (Graph.blockItems ending fuel r)
  unindentedItems : ∀ r, StopsOnly (Ends ending) (Graph.unindentedItems ending fuel r)
  blockEntries : ∀ r, StopsOnly (Ends ending) (Graph.blockEntries ending fuel r)
  flowItems : ∀ first r, StopsOnly (Ends ending) (Graph.flowItems ending first fuel r)
  flowEntries : ∀ first r, StopsOnly (Ends ending) (Graph.flowEntries ending first fuel r)

theorem stopsOnly_node_succ {fuel : Nat} (readers : Readers ending fuel)
    (inBlock unindented : Bool) (r : Reading) :
    StopsOnly (Ends ending) (node ending inBlock unindented (fuel + 1) r) := by
  unfold node
  split
  · split
    · exact .ok _
    · exact malformed
  · refine .bind (stopsOnly_properties _) fun ⟨props, rest⟩ => ?_
    refine .bind (stopsOnly_fullTag _ _) fun _ => ite (stopsOnly_refusal _) ?_
    dsimp only
    split
    · exact .ok _
    · exact .bind (readers.flowItems _ _) fun _ => .ok _
    · exact .bind (readers.flowEntries _ _) fun _ => .ok _
    · split
      · exact .bind (readers.unindentedItems _) fun _ => .ok _
      · exact .bind (readers.blockItems _) fun _ => .ok _
      · exact .bind (readers.blockEntries _) fun _ => .ok _
      · exact ite (stopsOnly_refusal _) (.ok _)

theorem stopsOnly_blockItems_succ {fuel : Nat} (readers : Readers ending fuel) (r : Reading) :
    StopsOnly (Ends ending) (blockItems ending (fuel + 1) r) := by
  unfold blockItems
  split
  · refine ite_bind (.ok _) (readers.node _ _ _) fun ⟨_, _⟩ => ?_
    exact .bind (readers.blockItems _) fun _ => .ok _
  · exact .ok _
  · exact stopsOnly_refusal _

theorem stopsOnly_unindentedItems_succ {fuel : Nat} (readers : Readers ending fuel)
    (r : Reading) : StopsOnly (Ends ending) (unindentedItems ending (fuel + 1) r) := by
  unfold unindentedItems
  split
  · refine ite_bind (.ok _) (readers.node _ _ _) fun ⟨_, _⟩ => ?_
    exact .bind (readers.unindentedItems _) fun _ => .ok _
  · exact .ok _

theorem stopsOnly_blockEntries_succ {fuel : Nat} (readers : Readers ending fuel) (r : Reading) :
    StopsOnly (Ends ending) (blockEntries ending (fuel + 1) r) := by
  unfold blockEntries
  split
  · refine ite_bind (.ok _) (readers.node _ _ _) fun ⟨_, _⟩ => ?_
    dsimp only
    split
    · refine ite_bind (.ok _) (readers.node _ _ _) fun ⟨_, _⟩ => ?_
      exact .bind (readers.blockEntries _) fun _ => .ok _
    · exact .bind (.ok _) fun ⟨_, _⟩ => .bind (readers.blockEntries _) fun _ => .ok _
  · exact .ok _
  · exact stopsOnly_refusal _

theorem stopsOnly_flowItems_succ {fuel : Nat} (readers : Readers ending fuel) (first : Bool)
    (r : Reading) : StopsOnly (Ends ending) (flowItems ending first (fuel + 1) r) := by
  unfold flowItems
  split
  · exact .ok _
  · refine .bind (stopsOnly_passSeparator _ _) fun _ => ?_
    split
    · exact .ok _
    · refine ite_bind (.ok _) (readers.node _ _ _) fun ⟨_, _⟩ => ?_
      dsimp only
      split
      · refine ite_bind (.ok _) (readers.node _ _ _) fun ⟨_, _⟩ => ?_
        exact .bind (readers.flowItems _ _) fun _ => .ok _
      · exact .bind (.ok _) fun ⟨_, _⟩ => .bind (readers.flowItems _ _) fun _ => .ok _
    · refine .bind (readers.node _ _ _) fun ⟨_, _⟩ => ?_
      exact .bind (readers.flowItems _ _) fun _ => .ok _

theorem stopsOnly_flowEntries_succ {fuel : Nat} (readers : Readers ending fuel) (first : Bool)
    (r : Reading) : StopsOnly (Ends ending) (flowEntries ending first (fuel + 1) r) := by
  unfold flowEntries
  split
  · exact .ok _
  · refine .bind (stopsOnly_passSeparator _ _) fun _ => ?_
    split
    · exact .ok _
    · refine ite_bind (.ok _) (readers.node _ _ _) fun ⟨_, _⟩ => ?_
      dsimp only
      split
      · refine ite_bind (.ok _) (readers.node _ _ _) fun ⟨_, _⟩ => ?_
        exact .bind (readers.flowEntries _ _) fun _ => .ok _
      · exact .bind (.ok _) fun ⟨_, _⟩ => .bind (readers.flowEntries _ _) fun _ => .ok _
    · refine .bind (readers.node _ _ _) fun ⟨_, _⟩ => ?_
      exact .bind (readers.flowEntries _ _) fun _ => .ok _

theorem readers (fuel : Nat) : Readers ending fuel := by
  induction fuel with
  | zero =>
      exact ⟨fun _ _ _ => malformed, fun _ => malformed, fun _ => malformed, fun _ => malformed,
        fun _ _ => malformed, fun _ _ => malformed⟩
  | succ fuel ih =>
      exact ⟨stopsOnly_node_succ ih, stopsOnly_blockItems_succ ih, stopsOnly_unindentedItems_succ ih,
        stopsOnly_blockEntries_succ ih, stopsOnly_flowItems_succ ih, stopsOnly_flowEntries_succ ih⟩

theorem stopsOnly_directives {among : Fault → Prop} (versioned : Bool)
    (handles : List (String × String)) (ls : List Lexeme) :
    StopsOnly among (directives versioned handles ls) := by
  fun_induction directives versioned handles ls with
  | case1 | case3 => exact malformed
  | case2 _ _ _ _ _ _ ih | case4 _ _ _ _ _ _ ih | case5 _ _ _ ih => exact ih
  | case6 => exact .ok _

theorem stopsOnly_close (ls : List Lexeme) : StopsOnly (Ends ending) (close ending ls) := by
  fun_induction close ending ls with
  | case1 _ ih => exact ih
  | case2 => exact .ok _
  | case3 => exact .bind (stopsOnly_directives _ _ _) fun ⟨_, _⟩ => stopsOnly_refusal _

theorem stopsOnly_content (ls : List Lexeme) (handles : List (String × String)) :
    StopsOnly (Ends ending) (content ending ls handles) :=
  .bind ((readers _).node _ _ _) fun _ => .bind (stopsOnly_close _) fun _ => .ok _

theorem stopsOnly_ofList (ls : List Lexeme) : StopsOnly (Ends ending) (ofList ending ls) := by
  unfold ofList
  split
  case h_1 => exact .ok _
  case h_2 | h_3 =>
    refine .bind (stopsOnly_directives _ _ _) fun ⟨_, _⟩ => ?_
    dsimp only
    split
    · split
      case h_5 => exact .bind (stopsOnly_content _ _) fun _ => .ok _
      all_goals exact .bind (stopsOnly_close _) fun _ => .ok _
    · exact stopsOnly_refusal _
  case h_4 => exact .bind (stopsOnly_content _ _) fun _ => .ok _

/-- Reading a document stops a build only for the failure that its lexemes end with. -/
theorem ending_of_ofLexed {l : Lexed} {cause : Fault}
    (stopped : ofLexed l = .error (.fault cause)) : l.ending = .fault cause :=
  stopsOnly_ofList l.found cause stopped

end Graph

end Bindery.Yaml
