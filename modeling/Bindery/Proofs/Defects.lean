import Bindery.Proofs.Compilation
import Bindery.Proofs.Stopping

/-!
# Defects of records

A record whose data are texts is refused for its structure alone: its module is missing, a function
or a method has no signatures, or a property has no type. The first defect in the order of the walk
decides, and a record without one stops at its example pages or not at all.
-/

namespace Bindery

open Draft

/-- Is the cause a defect of an entity? -/
def RecordFault.isOfEntity : RecordFault → Bool
  | .noSignatures _ _ | .untypedProperty _ _ => true
  | _ => false

/-! ## Records of texts -/

mutual

/-- Are the kinds, the comments and the types of the node and its parts texts? -/
def Node.isTextual : Node → Bool
  | .mk _ kindName comment children signatures parameters type _ _ =>
      kindName.text?.isSome && comment.all Comment.isTextual && TypeExpr.isTextualIfAny type &&
        Node.areTextual children && Node.areTextual signatures && Node.areTextual parameters

def Node.areTextual : List Node → Bool
  | [] => true
  | node :: rest => node.isTextual && Node.areTextual rest

end

namespace Node

theorem areTextual_iff {nodes : List Node} :
    areTextual nodes ↔ ∀ node ∈ nodes, node.isTextual := by
  induction nodes with
  | nil => simp [areTextual]
  | cons node rest ih => rw [areTextual, Bool.and_eq_true, ih, List.forall_mem_cons]

/-- What is known of a node of texts. -/
structure Textual (n : Node) : Prop where
  kind : n.kindName.text?.isSome
  comment : n.comment.all Comment.isTextual
  type : ∀ type, n.type = some type → type.isTextual
  children : ∀ child ∈ n.children, child.isTextual
  signatures : ∀ signature ∈ n.signatures, signature.isTextual
  parameters : ∀ parameter ∈ n.parameters, parameter.isTextual

theorem textual_of_isTextual {n : Node} (textual : n.isTextual) : n.Textual := by
  obtain ⟨name, kindName, comment, children, signatures, parameters, type, optional, value⟩ := n
  simp only [isTextual, Bool.and_eq_true] at textual
  obtain ⟨⟨⟨⟨⟨kind, comment⟩, typed⟩, children⟩, signatures⟩, parameters⟩ := textual
  refine ⟨kind, comment, ?_, areTextual_iff.mp children, areTextual_iff.mp signatures,
    areTextual_iff.mp parameters⟩
  intro type present
  obtain rfl := present
  exact typed

theorem isTextual_childrenOf {n member : Node} {kind : Kind} (textual : n.isTextual)
    (listed : member ∈ n.childrenOf kind) : member.isTextual :=
  (textual_of_isTextual textual).children member (List.mem_filter.mp listed).1

/-- The defect of a function or a method without signatures. -/
def unsigned? (n : Node) : Option RecordFault :=
  if n.signatures.isEmpty then some (.noSignatures n.kindName n.name) else none

theorem endsAt_requireSignatures (n : Node) : (ofExcept n.requireSignatures).EndsAt n.unsigned? := by
  unfold requireSignatures unsigned?
  split
  · rfl
  · exact ⟨n.signatures, rfl⟩

theorem signatures_of_requireSignatures {n : Node} {signatures : List Node}
    (required : (ofExcept n.requireSignatures).outcome = .ok signatures) :
    signatures = n.signatures := by
  rw [outcome_ofExcept, requireSignatures] at required
  split at required
  · cases required
  · exact (Except.ok.inj required).symm

end Node

/-! ## Entities -/

namespace Entity

theorem lines_describe (node : Node) : (describe node).lines = [] :=
  lines_bind_eq_nil rfl fun _ => rfl

theorem describe_of_isTextual {n : Node} (textual : n.isTextual) :
    ∃ p, (describe n).outcome = .ok p ∧ p.node.isTextual := by
  obtain ⟨description, known⟩ :=
    Node.commentText_of_isTextual (Node.textual_of_isTextual textual).comment
  refine ⟨⟨n, description⟩, ?_, textual⟩
  rw [describe, outcome_bind_of_ok known]
  rfl

theorem endsAt_parameterLine {p : Parameter} (textual : p.node.isTextual) :
    (parameterLine p).EndsAt none := by
  unfold parameterLine
  split
  · next type typed =>
      split
      · exact ⟨(), rfl⟩
      · exact Writer.endsAt_parameter ((Node.textual_of_isTextual textual).type type typed) _ _ _
  · exact ⟨(), rfl⟩

theorem endsAt_result {type : Option TypeExpr} (textual : ∀ t, type = some t → t.isTextual) :
    (result type).EndsAt none := by
  cases type with
  | none => exact ⟨(), rfl⟩
  | some type => exact Writer.endsAt_parameter (textual type rfl) _ _ _

theorem endsAt_signature (owner : String) {n : Node} (textual : n.isTextual) :
    (signature owner n).EndsAt none := by
  have facts := Node.textual_of_isTextual textual
  obtain ⟨parameters, described, each⟩ :=
    each_of_all fun parameter listed => describe_of_isTextual (facts.parameters parameter listed)
  have parameterLines : (forEach parameterLine parameters).EndsAt none :=
    endsAt_forEach_of_all fun p listed => endsAt_parameterLine (each p listed)
  have closing : (do Writer.line ""; Writer.comment n.comment).EndsAt none :=
    (Writer.endsAt_line "").then (Writer.endsAt_comment facts.comment)
  have body := parameterLines.then ((endsAt_result facts.type).then closing)
  exact endsAt_bind_of_ok described ((Writer.endsAt_heading _ 4).then body)

theorem endsAt_signatures (owner : String) {n : Node} (textual : n.isTextual) :
    (do forEach (signature owner) (← ofExcept n.requireSignatures)).EndsAt n.unsigned? := by
  refine (Node.endsAt_requireSignatures n).bind_of_all fun signatures required => ?_
  rw [Node.signatures_of_requireSignatures required]
  exact endsAt_forEach_of_all fun s listed =>
    endsAt_signature owner ((Node.textual_of_isTextual textual).signatures s listed)

/-- The defect of a property without a type. -/
def untyped? (owner : String) (n : Node) : Option RecordFault :=
  match n.type with
  | none => some (.untypedProperty owner n.name)
  | some _ => none

theorem endsAt_property (owner : String) {n : Node} (textual : n.isTextual) :
    (property owner n).EndsAt (untyped? owner n) := by
  have facts := Node.textual_of_isTextual textual
  unfold property untyped?
  cases typed : n.type with
  | none => rfl
  | some type =>
      obtain ⟨description, known⟩ := Node.commentText_of_isTextual facts.comment
      exact endsAt_bind_of_ok known (Writer.endsAt_parameter (facts.type type typed) _ _ _)

theorem endsAt_memberTable {members : List Node} (textual : ∀ member ∈ members, member.isTextual) :
    (memberTable members).EndsAt none := by
  cases members with
  | nil => exact ⟨(), rfl⟩
  | cons first rest =>
      have rows : ∀ member ∈ first :: rest, ∃ row, (memberRow member).outcome = .ok row ∧ True := by
        intro member listed
        obtain ⟨description, known⟩ :=
          Node.commentText_of_isTextual (Node.textual_of_isTextual (textual member listed)).comment
        exact ⟨_, outcome_bind_of_ok known _, trivial⟩
      obtain ⟨table, written, -⟩ := each_of_all rows
      exact endsAt_bind_of_ok written (Writer.endsAt_table _)

/-- The first defect of a class-like entity: methods come before properties. -/
def memberDefect? (n : Node) : Option RecordFault :=
  ((n.childrenOf .method).findSome? Node.unsigned?).or
    ((n.childrenOf .property).findSome? (untyped? n.name))

theorem endsAt_classLike {n : Node} (textual : n.isTextual) :
    (classLike n).EndsAt (memberDefect? n) := by
  have comment := Writer.endsAt_comment (Node.textual_of_isTextual textual).comment
  have methods : (forEach (method n.name) (n.childrenOf .method)).EndsAt
      ((n.childrenOf .method).findSome? Node.unsigned?) :=
    endsAt_forEach fun member listed =>
      endsAt_signatures n.name (Node.isTextual_childrenOf textual listed)
  have properties : (forEach (property n.name) (n.childrenOf .property)).EndsAt
      ((n.childrenOf .property).findSome? (untyped? n.name)) :=
    endsAt_forEach fun member listed =>
      endsAt_property n.name (Node.isTextual_childrenOf textual listed)
  have members : (memberTable (n.childrenOf .enumerationMember)).EndsAt none :=
    endsAt_memberTable fun member listed => Node.isTextual_childrenOf textual listed
  have closing : EndsAt none _ := members.then ((Writer.endsAt_line "").then comment)
  have body := methods.then (properties.then closing)
  rw [Option.or_none] at body
  exact (Writer.endsAt_openSection _).then (comment.then body)

/-- The first defect of an entity, by its kind. -/
def defect? (n : Node) : Option RecordFault :=
  match n.kind with
  | .module | .enumeration | .interface | .objectClass => memberDefect? n
  | .function => n.unsigned?
  | _ => none

theorem endsAt_draft {draft : Node → Draft Unit} {n : Node} (drafted : draft? n.kind = some draft)
    (textual : n.isTextual) : (draft n).EndsAt (defect? n) := by
  unfold defect?
  cases kind : n.kind <;> rw [kind] at drafted <;> cases drafted
  case function => exact endsAt_signatures "" textual
  case typeAlias => exact Writer.endsAt_heading _ 1
  all_goals exact endsAt_classLike textual

theorem defect?_of_undrafted {n : Node} (undrafted : draft? n.kind = none) : defect? n = none := by
  unfold defect?
  cases kind : n.kind <;> rw [kind] at undrafted <;> first | rfl | cases undrafted

/-- A function without signatures, or a class-like entity with a method without signatures or a
property without a type. -/
def IsDefective (n : Node) : Prop :=
  (n.kind = .function ∧ n.signatures = []) ∨
    (n.kind ∈ [.module, .objectClass, .interface, .enumeration] ∧
      ∃ member ∈ n.children,
        (member.kind = .method ∧ member.signatures = []) ∨
          (member.kind = .property ∧ member.type = none))

theorem isSome_unsigned? {n : Node} : n.unsigned?.isSome ↔ n.signatures = [] := by
  unfold Node.unsigned?
  cases n.signatures <;> simp

theorem isSome_untyped? {owner : String} {n : Node} :
    (untyped? owner n).isSome ↔ n.type = none := by
  unfold untyped?
  cases n.type <;> simp

theorem isSome_memberDefect? {n : Node} :
    (memberDefect? n).isSome ↔
      ∃ member ∈ n.children,
        (member.kind = .method ∧ member.signatures = []) ∨
          (member.kind = .property ∧ member.type = none) := by
  unfold memberDefect?
  rw [Option.isSome_or, Bool.or_eq_true, List.isSome_findSome?, List.isSome_findSome?]
  simp only [List.any_eq_true, isSome_unsigned?, isSome_untyped?, Node.childrenOf, List.mem_filter,
    decide_eq_true_eq]
  constructor
  · rintro (⟨member, ⟨listed, kind⟩, unsigned⟩ | ⟨member, ⟨listed, kind⟩, untyped⟩)
    · exact ⟨member, listed, .inl ⟨kind, unsigned⟩⟩
    · exact ⟨member, listed, .inr ⟨kind, untyped⟩⟩
  · rintro ⟨member, listed, ⟨kind, unsigned⟩ | ⟨kind, untyped⟩⟩
    · exact .inl ⟨member, ⟨listed, kind⟩, unsigned⟩
    · exact .inr ⟨member, ⟨listed, kind⟩, untyped⟩

theorem isSome_defect? {n : Node} : (defect? n).isSome ↔ IsDefective n := by
  unfold defect? IsDefective
  cases n.kind <;> simp [isSome_memberDefect?, isSome_unsigned?]

instance : DecidablePred IsDefective := fun _ => decidable_of_iff _ isSome_defect?

theorem isSome_findSome?_defect? {nodes : List Node} :
    (nodes.findSome? defect?).isSome ↔ ∃ n ∈ nodes, IsDefective n := by
  rw [List.isSome_findSome?, List.any_eq_true]
  exact exists_congr fun n => and_congr_right fun _ => isSome_defect?

theorem isOfEntity_of_unsigned? {n : Node} {cause : RecordFault} (found : n.unsigned? = some cause) :
    cause.isOfEntity := by
  unfold Node.unsigned? at found
  split at found <;> cases found
  rfl

theorem isOfEntity_of_untyped? {owner : String} {n : Node} {cause : RecordFault}
    (found : untyped? owner n = some cause) : cause.isOfEntity := by
  unfold untyped? at found
  split at found <;> cases found
  rfl

theorem isOfEntity_of_memberDefect? {n : Node} {cause : RecordFault}
    (found : memberDefect? n = some cause) : cause.isOfEntity := by
  rcases Option.or_eq_some_iff.mp found with method | ⟨-, property⟩
  · obtain ⟨member, -, defect⟩ := List.exists_of_findSome?_eq_some method
    exact isOfEntity_of_unsigned? defect
  · obtain ⟨member, -, defect⟩ := List.exists_of_findSome?_eq_some property
    exact isOfEntity_of_untyped? defect

theorem isOfEntity_of_findSome? {nodes : List Node} {cause : RecordFault}
    (found : nodes.findSome? defect? = some cause) : cause.isOfEntity := by
  obtain ⟨n, -, defect⟩ := List.exists_of_findSome?_eq_some found
  unfold defect? at defect
  split at defect
  case h_5 => exact isOfEntity_of_unsigned? defect
  case h_6 => cases defect
  all_goals exact isOfEntity_of_memberDefect? defect

end Entity

/-! ## The walk -/

theorem Tally.count_of_isTextual {kind : Value} (textual : kind.text?.isSome) (t : Tally) :
    ∃ counted, t.count kind = .ok counted := by
  obtain ⟨s, rfl⟩ := Value.eq_string_of_isSome_text? textual
  exact ⟨_, rfl⟩

namespace Report

theorem endsAt_document {kind : Value} (textual : kind.text?.isSome) (name path : Value)
    (r : Report) : (r.document kind name path).EndsAt none := by
  obtain ⟨counted, done⟩ := Tally.count_of_isTextual textual r.rendered
  exact endsAt_bind_of_ok done ⟨_, rfl⟩

theorem endsAt_skip {kind : Value} (textual : kind.text?.isSome) (name : Value) (r : Report) :
    (r.skip kind name).EndsAt none := by
  have named : (kindOrNode kind).text?.isSome := by
    unfold kindOrNode Value.orElse
    split
    · exact textual
    · rfl
  obtain ⟨counted, done⟩ := Tally.count_of_isTextual named r.skipped
  exact endsAt_bind_of_ok done ⟨_, rfl⟩

end Report

namespace Visit

theorem endsAt_pageOf {draft : Node → Draft Unit} {n : Node}
    (drafted : Entity.draft? n.kind = some draft) (textual : n.isTextual) :
    (pageOf draft n).EndsAt (Entity.defect? n) := by
  have routed : Route.isRouted n.kind := by
    rw [Entity.isRouted_eq_isDocumented, Entity.isDocumented, drafted]
    rfl
  obtain ⟨path, placed⟩ := Route.place_of_isRouted routed n.name
  have ends := Entity.endsAt_draft drafted textual
  refine endsAt_bind_of_ok placed ?_
  exact ends.capture.bind_of_all fun _ _ => ⟨_, rfl⟩

theorem endsAt_ofNode {n : Node} (textual : n.isTextual) (report : Report) :
    (ofNode n report).EndsAt (Entity.defect? n) := by
  have kind := (Node.textual_of_isTextual textual).kind
  unfold ofNode
  split
  · next draft drafted =>
      refine (endsAt_pageOf drafted textual).bind_of_all fun p paged => ?_
      exact (Report.endsAt_document kind _ _ report).bind fun _ _ => ⟨_, rfl⟩
  · next undrafted =>
      rw [Entity.defect?_of_undrafted undrafted]
      exact (Report.endsAt_skip kind _ report).bind fun _ _ => ⟨_, rfl⟩

/-- The first child with a defect stops the walk. -/
theorem endsAt_walk {nodes : List Node} (textual : ∀ n ∈ nodes, n.isTextual) (report : Report) :
    (walk nodes report).EndsAt (nodes.findSome? Entity.defect?) := by
  induction nodes generalizing report with
  | nil => exact ⟨_, rfl⟩
  | cons n rest ih =>
      have first := endsAt_ofNode (textual n List.mem_cons_self) report
      rw [walk, findSome?_cons_eq_or]
      refine first.bind fun (visit, counted) _ => ?_
      have others := ih (fun later listed => textual later (List.mem_cons_of_mem _ listed)) counted
      exact others.bind_of_all fun _ _ => ⟨_, rfl⟩

end Visit

/-! ## Whole records -/

namespace Compiler

variable {c : Compiler}

/-- What a record is refused for. -/
def defect? (c : Compiler) (root : Node) : Option RecordFault :=
  match root.children.find? fun child => child.name == c.moduleName with
  | none => some (.missingModule c.moduleName)
  | some module => module.children.findSome? Entity.defect?

theorem stopsAt_generated {t : FileTree} {stop : Option Fault}
    (discovered : (Example.discover t c.directory c.examples).StopsAt stop)
    (packaged : c.templates = none) (b : Book) : (c.generated t b).StopsAt stop := by
  cases stop with
  | none =>
      obtain ⟨examples, done⟩ := discovered
      exact ⟨_, generated_of_discovered done packaged b⟩
  | some cause =>
      show (c.generated t b).outcome = .error cause
      rw [generated, bind_of_error discovered]

/-- A record is refused for its first defect, and without one for what stops its example pages. -/
theorem stopsAt_compile {t : FileTree} {root : Node} {stop : Option Fault} (textual : root.isTextual)
    (discovered : (Example.discover t c.directory c.examples).StopsAt stop)
    (packaged : c.templates = none) :
    (c.compile t root).StopsAt (((c.defect? root).map .record).or stop) := by
  unfold compile defect? Node.findModule
  cases found : root.children.find? fun child => child.name == c.moduleName with
  | none => rfl
  | some module =>
      have childTextual := (Node.textual_of_isTextual textual).children module
        (List.mem_of_find?_eq_some found)
      have walked := Visit.endsAt_walk (Node.textual_of_isTextual childTextual).children .empty
      refine StopsAt.bind_of_ok rfl ?_
      refine walked.stopsAt.bind fun (visits, report) _ => ?_
      exact (stopsAt_generated discovered packaged _).bind_of_all fun (summary, index) _ => ⟨_, rfl⟩

theorem defect?_eq_missingModule_iff {root : Node} :
    c.defect? root = some (.missingModule c.moduleName) ↔
      ∀ child ∈ root.children, child.name ≠ c.moduleName := by
  unfold defect?
  split
  · next absent =>
      refine ⟨fun _ child listed named => ?_, fun _ => rfl⟩
      exact List.find?_eq_none.mp absent child listed (beq_iff_eq.mpr named)
  · next module found =>
      have named := List.find?_some found
      constructor
      · intro refused
        cases Entity.isOfEntity_of_findSome? refused
      · intro absent
        exact absurd (beq_iff_eq.mp named) (absent module (List.mem_of_find?_eq_some found))

end Compiler

end Bindery
