import Bindery.Proofs.Defects

/-!
# How the children of an entity are mixed

A class-like entity is drafted in passes over its children: one for its methods, one for its
properties, one for the table of its members. Each pass sees the children of its kind in their order,
and no pass sees how the kinds are mixed or what else is listed between them. A draft that stops is
no exception: its steps are the same, so the first one that stops is the same, and so is all that was
written before it. A record in which the children of its entities are mixed otherwise gives the same
book, or is refused for the same reason.
-/

namespace Bindery

/-! ## Steps up to the first that stops -/

namespace Draft

def fault? (d : Draft Unit) : Option Fault :=
  match d.outcome with
  | .ok _ => none
  | .error fault => some fault

/-- The steps that are taken: all up to the first one that stops, and that one. -/
def taken : List (Draft Unit) → List (Draft Unit)
  | [] => []
  | d :: rest => d :: if d.fault?.isSome then [] else taken rest

theorem forEach_map {α : Type} (f : α → Draft Unit) (items : List α) :
    forEach id (items.map f) = forEach f items := by
  induction items with
  | nil => rfl
  | cons a rest ih => rw [List.map_cons, forEach, ih, forEach, id]

theorem forEach_append (steps more : List (Draft Unit)) :
    forEach id (steps ++ more) = (do forEach id steps; forEach id more) := by
  induction steps with
  | nil => rw [List.nil_append, forEach, pure_bind]
  | cons d rest ih => rw [List.cons_append, forEach, ih, forEach, bind_assoc]

/-- Steps in order leave what the taken ones leave, and end as the first one that stops. -/
theorem forEach_eq (steps : List (Draft Unit)) :
    forEach id steps = ⟨(taken steps).flatMap marks,
      match steps.findSome? fault? with
      | some fault => .error fault
      | none => .ok ()⟩ := by
  induction steps with
  | nil => rfl
  | cons d rest ih =>
      rw [forEach, id, taken, List.flatMap_cons, List.findSome?_cons]
      cases ended : d.outcome with
      | ok done =>
          have goesOn : d.fault? = none := by rw [fault?, ended]
          rw [bind_of_ok ended, ih, goesOn]
          rfl
      | error fault =>
          have stops : d.fault? = some fault := by rw [fault?, ended]
          rw [bind_of_error ended, stops]
          simp

theorem lines_forEach (steps : List (Draft Unit)) :
    (forEach id steps).lines = (taken steps).flatMap lines := by
  rw [forEach_eq]
  exact List.filterMap_flatMap

end Draft

open Draft

/-- The nodes have one name and one comment, and each kind of child that a class-like entity shows
forms the same sequence in both. -/
structure Node.AgreesWith (a b : Node) : Prop where
  name : a.name = b.name
  comment : a.comment = b.comment
  methods : a.childrenOf .method = b.childrenOf .method
  properties : a.childrenOf .property = b.childrenOf .property
  members : a.childrenOf .enumerationMember = b.childrenOf .enumerationMember

namespace Entity

/-- The kinds of class-like entities. -/
def classLikeKinds : List Kind := [.module, .objectClass, .interface, .enumeration]

theorem draft?_of_mem_classLikeKinds {kind : Kind} (listed : kind ∈ classLikeKinds) :
    draft? kind = some classLike := by
  cases kind <;> first | rfl | exact absurd listed (by decide)

/-- The steps of a class-like entity, one for each method and each property. -/
def steps (n : Node) : List (Draft Unit) :=
  Writer.openSection (code n.name) :: Writer.comment n.comment ::
    ((n.childrenOf .method).map (method n.name) ++ ((n.childrenOf .property).map (property n.name) ++
      [memberTable (n.childrenOf .enumerationMember), Writer.line "", Writer.comment n.comment]))

theorem classLike_eq_forEach (n : Node) : classLike n = forEach id (steps n) := by
  have closing (table line comment : Draft Unit) :
      forEach id [table, line, comment] = (do table; line; comment) := by
    simp only [forEach, id, bind_pure_unit]
  rw [steps, forEach, forEach, forEach_append, forEach_append, forEach_map, forEach_map, closing]
  rfl

/-- The steps show nothing in which the nodes may differ. -/
theorem steps_eq_of_agreesWith {a b : Node} (agrees : a.AgreesWith b) : steps a = steps b := by
  obtain ⟨name, comment, methods, properties, members⟩ := agrees
  rw [steps, steps, name, comment, methods, properties, members]

theorem classLike_eq_of_agreesWith {a b : Node} (agrees : a.AgreesWith b) :
    classLike a = classLike b := by
  rw [classLike_eq_forEach, steps_eq_of_agreesWith agrees, ← classLike_eq_forEach]

/-- Class-like entities of one name and one comment whose methods, properties and members form the
same sequences are drafted alike, however these are mixed, whatever else is listed between them and
whichever of the kinds each entity has: they give the same lines, the same references and the same
entries, and both are complete or both stop with the same fault. That is the fault of the first step
that stops, and the lines are those of the steps up to it. -/
theorem mixed_members_are_drafted_alike {a b : Node} (first : a.kind ∈ classLikeKinds)
    (second : b.kind ∈ classLikeKinds) (agrees : a.AgreesWith b) :
    draft? a.kind = some classLike ∧ draft? b.kind = some classLike ∧
      (classLike a).lines = (classLike b).lines ∧
      (∀ path, ((Document.blank path).extend (classLike a).lines).references =
        ((Document.blank path).extend (classLike b).lines).references) ∧
      (classLike a).entries = (classLike b).entries ∧
      (classLike a).outcome = (classLike b).outcome ∧
      (classLike a).lines = (taken (steps b)).flatMap Draft.lines ∧
      (classLike a).outcome = match (steps b).findSome? fault? with
        | some fault => .error fault
        | none => .ok () := by
  have same : classLike a = classLike b := classLike_eq_of_agreesWith agrees
  refine ⟨draft?_of_mem_classLikeKinds first, draft?_of_mem_classLikeKinds second, ?lines,
    ?references, ?entries, ?outcome, ?written, ?ended⟩
  case lines => rw [same]
  case references => exact fun path => by rw [same]
  case entries => rw [same]
  case outcome => rw [same]
  case written => rw [same, classLike_eq_forEach, lines_forEach]
  case ended => rw [same, classLike_eq_forEach, forEach_eq]

/-- A method that returns an element. -/
def elementMethod (name : String) : Node :=
  .mk name (.string "Method") none [] (Compiler.openFunction name "Element").signatures [] none
    false none

/-- A child without anything but its name and its kind. -/
def bareChild (name kind : String) : Node :=
  .mk name (.string kind) none [] [] [] none false none

/-- A class whose last method has no signatures and whose property has no type. -/
def sortedDriver : Node :=
  .mk "Driver" (.string "Class") none
    [elementMethod "find", elementMethod "focus", bareChild "stop" "Method",
      bareChild "page" "Property"] [] [] none false none

/-- An interface with the same methods and the same property among other children. -/
def jumbledDriver : Node :=
  .mk "Driver" (.string "Interface") none
    [bareChild "page" "Property", bareChild "constructor" "Constructor", elementMethod "find",
      bareChild "Options" "Class", elementMethod "focus", bareChild "stop" "Method",
      bareChild "moved" "Event"] [] [] none false none

/-- Both are drafted up to the method without signatures, which comes before the property. -/
theorem jumbledDriver_stops_as_sortedDriver :
    sortedDriver.kind ∈ classLikeKinds ∧ jumbledDriver.kind ∈ classLikeKinds ∧
      sortedDriver.AgreesWith jumbledDriver ∧
      (classLike sortedDriver).lines = (classLike jumbledDriver).lines ∧
      (classLike sortedDriver).outcome = (classLike jumbledDriver).outcome ∧
      (classLike jumbledDriver).lines.map Line.text =
        ["-------", "# \x60Driver\x60", "", "#### \x60driver.find()\x60", "* returns: <[Element]> ", "",
          "#### \x60driver.focus()\x60", "* returns: <[Element]> ", ""] ∧
      (classLike jumbledDriver).outcome =
        .error (.record (.noSignatures (.string "Method") "stop")) := by
  have sorted : sortedDriver.kind ∈ classLikeKinds := by decide
  have jumbled : jumbledDriver.kind ∈ classLikeKinds := by decide
  have agrees : sortedDriver.AgreesWith jumbledDriver := ⟨rfl, rfl, rfl, rfl, rfl⟩
  obtain ⟨-, -, lines, -, -, outcome, -, -⟩ := mixed_members_are_drafted_alike sorted jumbled agrees
  have defect : memberDefect? jumbledDriver = some (.noSignatures (.string "Method") "stop") := rfl
  have stops := endsAt_classLike (n := jumbledDriver) (by decide)
  rw [defect] at stops
  exact ⟨sorted, jumbled, agrees, lines, outcome, by decide +kernel, stops⟩

end Entity

/-! ## Whole records -/

/-- The second node may stand in the place of the first one: it is the same, or a class-like entity
whose children are mixed otherwise. -/
inductive Node.Remixed : Node → Node → Prop
  | same (n : Node) : Remixed n n
  | mixed {a b : Node} (kind : a.kindName = b.kindName) (classLike : a.kind ∈ Entity.classLikeKinds)
      (agrees : a.AgreesWith b) : Remixed a b

theorem Node.kind_eq_of_kindName {a b : Node} (same : a.kindName = b.kindName) :
    a.kind = b.kind := by
  unfold Node.kind
  rw [same]

namespace Visit

/-- The page of a class-like entity is the same, and so is what is reported of it. -/
theorem ofNode_eq_of_remixed {a b : Node} (remixed : a.Remixed b) (report : Report) :
    ofNode a report = ofNode b report := by
  cases remixed with
  | same => rfl
  | mixed kindName classLike agrees =>
      have kind := Node.kind_eq_of_kindName kindName
      have drafted := Entity.draft?_of_mem_classLikeKinds classLike
      have draft := Entity.classLike_eq_of_agreesWith agrees
      have notFunction : a.kind ≠ .function := by
        rintro function
        rw [function] at classLike
        exact absurd classLike (by decide)
      have registered : Entity.registeredNames a = Entity.registeredNames b := by
        rw [Entity.registeredNames, Entity.registeredNames, ← kind, if_neg notFunction,
          if_neg notFunction, agrees.name]
      have page : pageOf Entity.classLike a = pageOf Entity.classLike b := by
        rw [pageOf, pageOf, kind, agrees.name, registered, draft]
      simp only [ofNode, ← kind, drafted, page, kindName, agrees.name]

theorem walk_eq_of_remixed {nodes others : List Node}
    (remixed : List.Forall₂ Node.Remixed nodes others) (report : Report) :
    walk nodes report = walk others report := by
  induction remixed generalizing report with
  | nil => rfl
  | cons first _ ih => simp only [walk, ofNode_eq_of_remixed first, ih]

end Visit

/-- Records whose modules differ only in how the children of their entities are mixed are compiled
alike: on every session both give the same book with the same entries, or both are refused for the
same reason. -/
theorem Compiler.process_eq_of_remixed {c : Compiler} {root other module mixed : Node}
    (found : root.findModule c.moduleName = .ok module)
    (alsoFound : other.findModule c.moduleName = .ok mixed)
    (remixed : List.Forall₂ Node.Remixed module.children mixed.children) (s : Session) :
    (c.process root).on s = (c.process other).on s := by
  have compiled (t : FileTree) : c.compile t root = c.compile t other := by
    have entered (n : Node) : Draft.ofExcept (.ok n) = pure n := rfl
    rw [compile, compile, found, alsoFound, entered, entered, pure_bind, pure_bind,
      Visit.walk_eq_of_remixed remixed]
  unfold process
  simp only [compiled]

end Bindery
