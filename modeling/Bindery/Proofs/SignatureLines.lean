import Bindery.Proofs.Defects
import Bindery.Proofs.TableRows
import Bindery.Proofs.TypeReferences

/-!
# The lines of signatures and properties

A signature has a heading, one line for each of its parameters that has a name and a type, and one
for its result; a class-like entity has one line for each property. The lines stand in the order of
the record. What a line is about is told by its form: a name in the marks of code with a place for
the mark of what is optional, or a bare name, which is the form of results. Names that begin as the
name of a result does have that form too, and nothing tells which of them are optional.
-/

namespace Bindery

open Draft

namespace Writer

/-! ## Forms of lines -/

/-- The name stands in the marks of code, and the mark of what is optional is there exactly if it is
asked for. -/
def IsMarked (name : String) (type : TypeExpr) (description : String) (optional : Bool)
    (line : String) : Prop :=
  ∃ shown, type.text.outcome = .ok shown ∧
    line = "* \x60" ++ name ++ "\x60 <" ++ shown.display ++ "> " ++
      (if optional then "(Optional)" else "") ++ " " ++ Text.strip description

/-- The name stands as it is, and there is no place for the mark of what is optional. -/
def IsBare (name : String) (type : TypeExpr) (description line : String) : Prop :=
  ∃ shown, type.text.outcome = .ok shown ∧
    line = "* " ++ name ++ " <" ++ shown.display ++ "> " ++ Text.strip description

/-- A written parameter is one line, whose form is decided by the name. -/
theorem exists_line_of_parameter {name description : String} {type : TypeExpr} {optional : Bool}
    (done : (parameter name type.text description optional).outcome = .ok ()) :
    ∃ line, (parameter name type.text description optional).lines = [.scanned line] ∧
      if isReturns name then IsBare name type description line
      else IsMarked name type description optional line := by
  obtain ⟨shown, given, lines⟩ := parameter_eq_ok done
  rw [TypeExpr.lines_text, List.nil_append] at lines
  refine ⟨_, lines, ?_⟩
  by_cases returns : isReturns name
  · rw [if_pos returns]
    refine ⟨shown, given, ?_⟩
    rw [parameterLine, if_pos returns]
    simp [← String.toList_inj]
  · rw [if_neg returns]
    refine ⟨shown, given, ?_⟩
    rw [parameterLine, if_neg returns]
    simp [← String.toList_inj]

/-- Does the line begin as the line of a result does? -/
def inResultForm (line : String) : Bool := "* returns".toList.isPrefixOf line.toList

theorem inResultForm_of_isMarked {name description line : String} {type : TypeExpr}
    {optional : Bool} (marked : IsMarked name type description optional line) :
    inResultForm line = false := by
  obtain ⟨shown, -, rfl⟩ := marked
  simp only [inResultForm, String.toList_append, List.append_assoc]
  rfl

theorem inResultForm_of_isBare {name description line : String} {type : TypeExpr}
    (returns : isReturns name) (bare : IsBare name type description line) :
    inResultForm line = true := by
  obtain ⟨shown, -, rfl⟩ := bare
  obtain ⟨rest, whole⟩ := List.isPrefixOf_iff_prefix.mp returns
  simp [inResultForm, ← whole]

end Writer

/-- The line shows the node with its type and its description, in the form of results if the name
begins as theirs does, and otherwise in the marks of code and marked as optional if the node is. -/
def Node.IsDescribedBy (n : Node) (line : String) : Prop :=
  ∃ type description, n.type = some type ∧ n.commentText = .ok description ∧
    if Writer.isReturns n.name then Writer.IsBare n.name type description line
    else Writer.IsMarked n.name type description n.isOptional line

/-- A line is in the form of results exactly if the name of its node asks for it. -/
theorem Node.IsDescribedBy.inResultForm_eq {n : Node} {line : String} (shown : n.IsDescribedBy line) :
    Writer.inResultForm line = Writer.isReturns n.name := by
  obtain ⟨type, description, -, -, form⟩ := shown
  split at form
  · next returns => rw [returns, Writer.inResultForm_of_isBare returns form]
  · next other => rw [Writer.inResultForm_of_isMarked form, Bool.eq_false_iff.mpr other]

theorem Node.countP_inResultForm {nodes : List Node} {lines : List String}
    (each : List.Forall₂ IsDescribedBy nodes lines) :
    lines.countP Writer.inResultForm = nodes.countP fun n => Writer.isReturns n.name := by
  induction each with
  | nil => rfl
  | cons shown _ ih => rw [List.countP_cons, List.countP_cons, shown.inResultForm_eq, ih]

/-- Has a parameter a line of its own? -/
def Node.hasLine (n : Node) : Bool := !n.name.isEmpty && n.type.isSome

namespace Entity

/-! ## Parameters -/

theorem describe_eq_ok {n : Node} {p : Parameter} (described : (describe n).outcome = .ok p) :
    p.node = n ∧ n.commentText = .ok p.description := by
  obtain ⟨description, known, given⟩ := bind_eq_ok_iff.mp described
  cases given
  exact ⟨rfl, known⟩

theorem exists_line_of_parameterLine {p : Parameter} (known : p.node.commentText = .ok p.description)
    (done : (parameterLine p).outcome = .ok ()) :
    if p.node.hasLine then
      ∃ line, (parameterLine p).lines = [.scanned line] ∧ p.node.IsDescribedBy line
    else (parameterLine p).lines = [] := by
  unfold parameterLine at done ⊢
  unfold Node.hasLine
  split at done
  · next type typed =>
      split at done
      · next unnamed => simp [typed, unnamed, Draft.lines]
      · next named =>
          obtain ⟨line, lines, form⟩ := Writer.exists_line_of_parameter done
          simp only [typed, named]
          exact ⟨line, lines, type, p.description, typed, known, form⟩
  · next untyped => simp [untyped, Draft.lines]

/-- Of the parameters those with a name and a type have one line each, in order. -/
theorem exists_lines_of_parameters {nodes : List Node} {parameters : List Parameter}
    (described : List.Forall₂ (fun n p => (describe n).outcome = .ok p) nodes parameters)
    (done : ∀ p ∈ parameters, (parameterLine p).outcome = .ok ()) :
    ∃ texts : List String,
      (parameters.flatMap fun p => (parameterLine p).lines) = texts.map .scanned ∧
        List.Forall₂ Node.IsDescribedBy (nodes.filter Node.hasLine) texts := by
  induction described with
  | nil => exact ⟨[], rfl, .nil⟩
  | @cons n p _ _ first _ ih =>
      rw [List.forall_mem_cons] at done
      obtain ⟨texts, lines, each⟩ := ih done.2
      obtain ⟨rfl, known⟩ := describe_eq_ok first
      have here := exists_line_of_parameterLine known done.1
      rw [List.flatMap_cons, lines]
      split at here
      · next shown =>
          obtain ⟨line, written, form⟩ := here
          rw [List.filter_cons_of_pos shown, written]
          exact ⟨line :: texts, rfl, .cons form each⟩
      · next silent =>
          rw [List.filter_cons_of_neg silent, here]
          exact ⟨texts, rfl, each⟩

theorem exists_line_of_result {type : Option TypeExpr} (done : (result type).outcome = .ok ()) :
    ∃ texts : List String, (result type).lines = texts.map .scanned ∧
      List.Forall₂ (fun type line => Writer.IsBare "returns:" type "" line) type.toList texts := by
  cases type with
  | none => exact ⟨[], rfl, .nil⟩
  | some type =>
      obtain ⟨line, written, form⟩ := Writer.exists_line_of_parameter done
      have bare : Writer.isReturns "returns:" = true := by decide
      rw [if_pos bare] at form
      exact ⟨[line], written, .cons form .nil⟩

/-! ## Signatures -/

/-- The heading of a signature: the names of the parameters that are required, then, if there is
anything to show, the names of those that are optional in a bracket of their own. -/
def headingOf (owner : String) (n : Node) : String :=
  let required := ", ".intercalate ((n.parameters.filter fun p => !p.isOptional).map Node.name)
  let optional := ", ".intercalate ((n.parameters.filter fun p => p.isOptional).map Node.name)
  "#### \x60" ++ qualified owner n.name ++ "(" ++ required ++
    (if optional = "" then "" else "[, " ++ optional ++ "]") ++ ")\x60"

/-- The lines are those of a signature. Below the heading every parameter with a name and a type has
one line, in order, and the result, if there is one, has one line behind them. No other line has the
form of a result, except those of parameters whose names ask for it. Below an empty line stands the
comment. -/
def IsSignatureOf (owner : String) (n : Node) (lines : List Line) : Prop :=
  ∃ parameters result : List String,
    lines =
      .scanned (headingOf owner n) ::
        ((parameters ++ result).map .scanned ++
          .scanned "" :: (Writer.comment n.comment).lines) ∧
      List.Forall₂ Node.IsDescribedBy (n.parameters.filter Node.hasLine) parameters ∧
      List.Forall₂ (fun type line => Writer.IsBare "returns:" type "" line) n.type.toList result ∧
      (parameters ++ result).countP Writer.inResultForm =
        ((n.parameters.filter Node.hasLine).countP fun p => Writer.isReturns p.name) +
          n.type.toList.length

theorem headingOf_eq (owner : String) (n : Node) :
    "#### " ++ code (qualified owner n.name ++ "(" ++ parameterList n.parameters ++ ")") =
      headingOf owner n := by
  simp [headingOf, code, parameterList, nameList, ← String.toList_inj, apply_ite String.toList]

theorem countP_inResultForm_of_result {types : List TypeExpr} {lines : List String}
    (each : List.Forall₂ (fun type line => Writer.IsBare "returns:" type "" line) types lines) :
    lines.countP Writer.inResultForm = types.length := by
  have returns : Writer.isReturns "returns:" = true := by decide
  rw [each.length_eq, List.countP_eq_length]
  exact forall_of_forall₂ (each.imp fun _ _ bare => Writer.inResultForm_of_isBare returns bare)

theorem isSignatureOf_lines {owner : String} {n : Node}
    (done : (signature owner n).outcome = .ok ()) :
    IsSignatureOf owner n (signature owner n).lines := by
  obtain ⟨parameters, described, rest⟩ := bind_eq_ok_iff.mp done
  obtain ⟨⟨⟩, headed, rest⟩ := bind_eq_ok_iff.mp rest
  obtain ⟨⟨⟩, listed, rest⟩ := bind_eq_ok_iff.mp rest
  obtain ⟨⟨⟩, resulted, -⟩ := bind_eq_ok_iff.mp rest
  obtain ⟨each, written⟩ := forEach_eq_ok listed
  obtain ⟨texts, lines, shown⟩ := exists_lines_of_parameters (each_eq_ok_iff.mp described) each
  obtain ⟨results, line, bare⟩ := exists_line_of_result resulted
  refine ⟨texts, results, ?_, shown, bare, ?_⟩
  · rw [← headingOf_eq, signature, lines_bind_of_ok described, lines_each_eq_nil lines_describe,
      lines_bind_of_ok headed, lines_bind_of_ok listed, lines_bind_of_ok resulted, written, lines,
      line, List.map_append, List.append_assoc]
    rfl
  · rw [List.countP_append, Node.countP_inResultForm shown, countP_inResultForm_of_result bare]

/-- Signatures that are required and written stand one below the other. -/
theorem exists_lines_of_signatures {owner : String} {n : Node}
    (done : (do forEach (signature owner) (← ofExcept n.requireSignatures)).outcome = .ok ()) :
    ∃ each : List (List Line),
      (do forEach (signature owner) (← ofExcept n.requireSignatures)).lines = each.flatten ∧
        List.Forall₂ (IsSignatureOf owner) n.signatures each := by
  obtain ⟨signatures, required, listed⟩ := bind_eq_ok_iff.mp done
  obtain rfl := Node.signatures_of_requireSignatures required
  obtain ⟨each, written⟩ := forEach_eq_ok listed
  refine ⟨n.signatures.map fun s => (signature owner s).lines, ?_, ?_⟩
  · rw [lines_bind_of_ok required, written]
    rfl
  · exact List.forall₂_map_right_iff.mpr (List.forall₂_same.mpr fun s listed =>
      isSignatureOf_lines (each s listed))

/-! ## Class-like entities -/

theorem exists_lines_of_methods {owner : String} {methods : List Node}
    (done : ∀ m ∈ methods, (method owner m).outcome = .ok ()) :
    ∃ each : List (List Line),
      (methods.flatMap fun m => (method owner m).lines) = each.flatten ∧
        List.Forall₂ (IsSignatureOf owner) (methods.flatMap Node.signatures) each := by
  induction methods with
  | nil => exact ⟨[], rfl, .nil⟩
  | cons m rest ih =>
      rw [List.forall_mem_cons] at done
      obtain ⟨first, written, shown⟩ := exists_lines_of_signatures done.1
      obtain ⟨others, lines, each⟩ := ih done.2
      refine ⟨first ++ others, ?_, List.rel_append shown each⟩
      rw [List.flatMap_cons, method, written, lines, List.flatten_append]

theorem exists_line_of_property {owner : String} {n : Node}
    (done : (property owner n).outcome = .ok ()) :
    ∃ line, (property owner n).lines = [.scanned line] ∧ n.IsDescribedBy line := by
  cases typed : n.type with
  | none =>
      simp only [property, typed] at done
      cases done
  | some type =>
      simp only [property, typed] at done ⊢
      obtain ⟨description, known, rest⟩ := bind_eq_ok_iff.mp done
      obtain ⟨line, lines, form⟩ := Writer.exists_line_of_parameter rest
      refine ⟨line, ?_, type, description, typed, known, form⟩
      rw [lines_bind_of_ok known, lines]
      rfl

theorem exists_lines_of_properties {owner : String} {nodes : List Node}
    (done : ∀ n ∈ nodes, (property owner n).outcome = .ok ()) :
    ∃ texts : List String,
      (nodes.flatMap fun n => (property owner n).lines) = texts.map .scanned ∧
        List.Forall₂ Node.IsDescribedBy nodes texts := by
  induction nodes with
  | nil => exact ⟨[], rfl, .nil⟩
  | cons n rest ih =>
      rw [List.forall_mem_cons] at done
      obtain ⟨line, written, form⟩ := exists_line_of_property done.1
      obtain ⟨texts, lines, each⟩ := ih done.2
      exact ⟨line :: texts, by rw [List.flatMap_cons, written, lines]; rfl, .cons form each⟩

/-- The lines are those of a class-like entity: its opening, its signatures, one line for each of its
properties, the table of its members, and its comment once more below an empty line. No line of a
property has the form of a result, except where the name asks for it. -/
def IsSectionOf (n : Node) (lines : List Line) : Prop :=
  ∃ (signatures : List (List Line)) (properties : List String),
    lines =
      (Writer.openSection (code n.name)).lines ++ (Writer.comment n.comment).lines ++
        signatures.flatten ++ properties.map .scanned ++
        (memberTable (n.childrenOf .enumerationMember)).lines ++
        .scanned "" :: (Writer.comment n.comment).lines ∧
      List.Forall₂ (IsSignatureOf n.name) ((n.childrenOf .method).flatMap Node.signatures)
        signatures ∧
      List.Forall₂ Node.IsDescribedBy (n.childrenOf .property) properties ∧
      properties.countP Writer.inResultForm =
        (n.childrenOf .property).countP fun p => Writer.isReturns p.name

theorem isSectionOf_lines {n : Node} (done : (classLike n).outcome = .ok ()) :
    IsSectionOf n (classLike n).lines := by
  obtain ⟨⟨⟩, opened, rest⟩ := bind_eq_ok_iff.mp done
  obtain ⟨⟨⟩, commented, rest⟩ := bind_eq_ok_iff.mp rest
  obtain ⟨⟨⟩, methods, rest⟩ := bind_eq_ok_iff.mp rest
  obtain ⟨⟨⟩, listed, rest⟩ := bind_eq_ok_iff.mp rest
  obtain ⟨⟨⟩, tabled, -⟩ := bind_eq_ok_iff.mp rest
  obtain ⟨signed, methodLines⟩ := forEach_eq_ok methods
  obtain ⟨typed, propertyLines⟩ := forEach_eq_ok listed
  obtain ⟨signatures, signatureLines, signature⟩ := exists_lines_of_methods signed
  obtain ⟨properties, lines, described⟩ := exists_lines_of_properties typed
  refine ⟨signatures, properties, ?_, signature, described, Node.countP_inResultForm described⟩
  rw [classLike, lines_bind_of_ok opened, lines_bind_of_ok commented, lines_bind_of_ok methods,
    lines_bind_of_ok listed, lines_bind_of_ok tabled, methodLines, signatureLines, propertyLines,
    lines]
  simp only [List.append_assoc]
  rfl

/-! ## Which lines there are, and which form they have -/

/-- The lines of signatures, wherever they stand, and of properties. The heading of a signature names
the parameters that are required, and those that are optional in a bracket of their own; every
parameter with a name and a type has one line, in order, and the result, if there is one, has one
line behind them. Every property has one line, in order. Names stand in the marks of code and what
is optional is marked, except that a name that begins with `returns` has the form of a result. That
form is used for nothing else. -/
theorem signatures_and_properties_line_by_line :
    (∀ (owner : String) (n : Node), (signature owner n).outcome = .ok () →
      IsSignatureOf owner n (signature owner n).lines) ∧
    (∀ n : Node, (function n).outcome = .ok () →
      ∃ each : List (List Line), (function n).lines = each.flatten ∧
        List.Forall₂ (IsSignatureOf "") n.signatures each) ∧
    ∀ n : Node, (classLike n).outcome = .ok () → IsSectionOf n (classLike n).lines := by
  refine ⟨?signature, ?function, ?classLike⟩
  case signature => exact fun owner n done => isSignatureOf_lines done
  case function => exact fun n done => exists_lines_of_signatures done
  case classLike => exact fun n done => isSectionOf_lines done

/-- A parameter or a property without a comment. -/
def member (name kind : String) (type : Option TypeExpr) (optional : Bool) : Node :=
  .mk name (.string kind) none [] [] [] type optional none

/-- A signature with parameters of every form: two have no line, and one has the form of a result. -/
def findSignature : Node :=
  let text : TypeExpr := .intrinsic (.string "string")
  .mk "find" (.string "Call signature") none [] []
    [member "selector" "Parameter" (some text) false, member "" "Parameter" (some text) true,
      member "scope" "Parameter" none true, member "returnsAll" "Parameter" (some text) true,
      member "limit" "Parameter" (some text) true]
    (some (.reference (.string "Element") [])) false none

/-- A function or a method with that signature. -/
def find (kind : String) : Node :=
  .mk "find" (.string kind) none [] [findSignature] [] none false none

/-- A class with properties around its method. -/
def finder : Node :=
  .mk "Finder" (.string "Class") (some ⟨.string "Finds things.", .string ""⟩)
    [member "scope" "Property" (some (.reference (.string "Element") [])) false, find "Method",
      member "depth" "Property" (some (.intrinsic (.string "number"))) true] [] [] none false none

theorem finder_line_by_line :
    (signature "" findSignature).outcome = .ok () ∧ (function (find "Function")).outcome = .ok () ∧
      (classLike finder).outcome = .ok () ∧
      IsSignatureOf "" findSignature (signature "" findSignature).lines ∧
      IsSectionOf finder (classLike finder).lines ∧
      (∃ each : List (List Line), (function (find "Function")).lines = each.flatten ∧
        List.Forall₂ (IsSignatureOf "") [findSignature] each) ∧
      (signature "" findSignature).lines.map Line.text =
        ["#### \x60find(selector[, , scope, returnsAll, limit])\x60", "* \x60selector\x60 <string>  ",
          "* returnsAll <string> ", "* \x60limit\x60 <string> (Optional) ",
          "* returns: <[Element]> ", ""] := by
  have signed : (signature "" findSignature).outcome = .ok () :=
    (endsAt_signature "" (by decide)).outcome_eq_ok
  have called : (function (find "Function")).outcome = .ok () :=
    (endsAt_signatures "" (n := find "Function") (by decide)).outcome_eq_ok
  have sectioned : (classLike finder).outcome = .ok () :=
    (endsAt_classLike (n := finder) (by decide)).outcome_eq_ok
  obtain ⟨ofSignature, ofFunction, ofClass⟩ := signatures_and_properties_line_by_line
  exact ⟨signed, called, sectioned, ofSignature "" _ signed, ofClass _ sectioned,
    ofFunction _ called, by decide +kernel⟩

/-- A signature without a result whose optional parameter is called as a result is. -/
def returnsFirst : Node :=
  .mk "find" (.string "Call signature") none [] []
    [member "returnsFirst" "Parameter" (some (.intrinsic (.string "boolean"))) true] none false none

/-- The form of a result is used where there is none, and nothing tells that the parameter is
optional. -/
theorem returnsFirst_reads_as_result :
    (signature "" returnsFirst).outcome = .ok () ∧ returnsFirst.type = none ∧
      (signature "" returnsFirst).lines =
        [.scanned "#### \x60find([, returnsFirst])\x60", .scanned "* returnsFirst <boolean> ",
          .scanned ""] ∧
      Writer.inResultForm "* returnsFirst <boolean> " ∧
      ¬ ∃ line, .scanned line ∈ (signature "" returnsFirst).lines ∧
        Writer.IsMarked "returnsFirst" (.intrinsic (.string "boolean")) "" true line := by
  have written : (signature "" returnsFirst).lines =
      [.scanned "#### \x60find([, returnsFirst])\x60", .scanned "* returnsFirst <boolean> ",
        .scanned ""] := by
    decide +kernel
  refine ⟨(endsAt_signature "" (by decide)).outcome_eq_ok, rfl, written, by decide, ?_⟩
  rintro ⟨line, listed, shown, given, rfl⟩
  rw [written] at listed
  obtain rfl : Value.string "boolean" = shown := by
    rw [TypeExpr.text] at given
    exact Except.ok.inj given
  revert listed
  decide +kernel

end Entity

end Bindery
