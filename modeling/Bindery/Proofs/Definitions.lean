import Bindery.Proofs.Footers
import Bindery.Proofs.Grouping
import Bindery.Proofs.RelativeTargets
import Mathlib.Data.List.Forall2

/-!
# The definitions of a footer

A registry knows a name if it leads somewhere with it. The footer of a document is an empty line and
one definition for each known name that the document needs, in the order in which these names first
come; a name that is not known may come any number of times in between, and a known one again. A
definition shows the target as it is seen from the directory of the document, and the title of the
link between quotes where there is one.
-/

namespace Bindery

/-- What is mapped stands behind what it is mapped from. -/
theorem forall₂_filterMap {α β : Type} (f : α → Option β) (items : List α) :
    List.Forall₂ (fun a b => f a = some b) (items.filter fun a => (f a).isSome)
      (items.filterMap f) := by
  induction items with
  | nil => exact .nil
  | cons a rest ih =>
      cases mapped : f a with
      | none =>
          rw [List.filter_cons_of_neg (by simp [mapped]), List.filterMap_cons_none mapped]
          exact ih
      | some b =>
          rw [List.filter_cons_of_pos (by simp [mapped]), List.filterMap_cons_some mapped]
          exact .cons mapped ih

namespace Registry

/-! ## Known names -/

/-- Has the name an entry whose target is not empty? -/
def knows (r : Registry) (name : String) : Bool :=
  (r.resolve name).any fun entry => !entry.target.isEmpty

theorem knows_eq_isSome_lead (r : Registry) (name : String) :
    r.knows name = (r.lead name).isSome := by
  unfold knows lead
  cases r.resolve name with
  | none => rfl
  | some entry => cases empty : entry.target.isEmpty <;> simp [Option.filter, empty]

theorem firsts_eq_eraseDups (names : List String) : firsts names = names.eraseDups := by
  induction names with
  | nil => rfl
  | cons name rest ih =>
      rw [firsts, ih, List.eraseDups_cons, Table.eraseDups_filter]
      refine congrArg (name :: ·) (List.filter_congr fun other _ => ?_)
      by_cases same : other = name <;> simp [same]

/-- The known names have one link each, in the order in which they first come. -/
theorem forall₂_links (book directory : Path) (names : List String) (r : Registry) :
    List.Forall₂ (fun name link => ∃ entry, r.lead name = some entry ∧
        link = (name, seen book directory entry))
      (names.filter r.knows).eraseDups (r.links book directory names) := by
  have linked := forall₂_filterMap (fun name =>
    (r.lead name).map fun entry => (name, seen book directory entry)) (firsts names)
  have known : (firsts names).filter (fun name =>
      ((r.lead name).map fun entry => (name, seen book directory entry)).isSome) =
      (names.filter r.knows).eraseDups := by
    rw [Table.eraseDups_filter, firsts_eq_eraseDups]
    exact List.filter_congr fun name _ => by rw [Option.isSome_map, knows_eq_isSome_lead]
  rw [known] at linked
  refine linked.imp fun name link found => ?_
  obtain ⟨entry, leads, rfl⟩ := Option.map_eq_some_iff.mp found
  exact ⟨entry, leads, rfl⟩

end Registry

namespace Document

/-! ## Definitions -/

/-- Is the text how the target is seen from the directory? An address is seen as it is, and any other
target as a relative path that leads there from the directory, with its fragment behind it. -/
def IsSeenAs (book directory : Path) (target shown : String) : Prop :=
  (Target.HasScheme target → shown = target) ∧
    (¬ Target.HasScheme target → ∃ link : String, shown = link ++ Target.fragment target ∧
      (Path.ofString link).isAbsolute = false ∧
      Path.settle (directory / link).segments =
        Path.settle (book / Target.file target).segments)

/-- Is the text the title of a link between quotes, or empty where the title is missing or empty? -/
def IsTitle (title : Option String) (quoted : String) : Prop :=
  (title.getD "" = "" → quoted = "") ∧
    ∀ t, title = some t → t ≠ "" → quoted = " \"" ++ t ++ "\""

/-- Does the line define the name by the entry, and say nothing else? -/
def IsDefinition (book directory : Path) (name : String) (entry : Entry) (line : String) : Prop :=
  ∃ shown title, IsSeenAs book directory entry.target shown ∧ IsTitle entry.title title ∧
    line = "[" ++ name ++ "]: " ++ shown ++ title

theorem isSeenAs_seenFrom {book : Path} (read : Path.AreRead book.segments) (directory : Path)
    (target : String) : IsSeenAs book directory target (Target.seenFrom book directory target) := by
  constructor
  · intro scheme
    rw [Target.seenFrom, if_pos (Target.isAddress_iff.mpr scheme)]
  · intro plain
    have localTarget : Target.isAddress target = false :=
      Bool.eq_false_iff.mpr fun address => plain (Target.isAddress_iff.mp address)
    obtain ⟨relative, leads⟩ :=
      Target.leads_linkFrom_div directory read (Target.file target)
    exact ⟨_, Target.seenFrom_of_local localTarget book directory, relative, leads⟩

theorem isDefinition_definition {book : Path} (read : Path.AreRead book.segments) (directory : Path)
    (name : String) (entry : Entry) :
    IsDefinition book directory name entry
      (definition name (Registry.seen book directory entry)) := by
  obtain ⟨target, title⟩ := entry
  refine ⟨_, _, isSeenAs_seenFrom read directory target, ?_, rfl⟩
  constructor
  · intro untitled
    cases title with
    | none => rfl
    | some t =>
        obtain rfl : t = "" := untitled
        rfl
  · rintro t rfl filled
    show (if t.isEmpty then "" else _) = _
    rw [if_neg (by simpa using filled)]

/-- A document that is not linked stays as it is. Any other one gets an empty line and one definition
for each name it needs that the registry knows, where the name first comes, and nothing else. The
lines before, the references and the registry, which is only looked up, stay as they are. -/
theorem link_defines_known_names_once (registry : Registry) (book : String) (d : Document) :
    let after := d.link registry (Path.ofString book)
    (d.linked = false → after = d) ∧
      (d.linked → ∃ definitions, after.lines = d.lines ++ "" :: definitions ∧
        List.Forall₂ (fun name line => ∃ entry, registry.resolve name = some entry ∧
            IsDefinition (Path.ofString book) (d.place (Path.ofString book)).parent name entry line)
          (d.references.filter registry.knows).eraseDups definitions) ∧
      after.references = d.references ∧ after.path = d.path ∧ after.linked = d.linked := by
  intro after
  refine ⟨?_, ?_, d.references_link registry _, ?_⟩
  · intro unlinked
    show link registry _ d = d
    rw [link, unlinked, if_neg Bool.false_ne_true]
  · intro linked
    refine ⟨(d.definitions registry (Path.ofString book)).map fun link => definition link.1 link.2,
      ?_, ?_⟩
    · show (link registry _ d).lines = _
      rw [link, if_pos linked, lines_extend, footer, List.map_cons, List.map_map]
      rfl
    · rw [List.forall₂_map_right_iff]
      refine (Registry.forall₂_links _ _ d.references registry).imp fun name link found => ?_
      obtain ⟨entry, leads, rfl⟩ := found
      exact ⟨entry, (Registry.lead_eq_some_iff.mp leads).1,
        isDefinition_definition (Path.areRead_ofString book) _ name entry⟩
  · show (link registry _ d).path = _ ∧ (link registry _ d).linked = _
    unfold link
    split <;> exact ⟨rfl, rfl⟩

/-- Names that are known, unknown and known without a target, some of them more than once. -/
theorem footer_of_mixed_names :
    let registry := ((Registry.empty.register "Foo" "https://foo.io" (some "")).register "Bar"
      "Enumerations.md#bar" (some "The bar")).bind "Hollow" ⟨"", none⟩
    let d : Document :=
      ⟨"api/Doc.md", [.scanned "[Bar] [Lost] [Hollow] [Foo] [Bar]", .scanned "[Lost] [Foo]"], true⟩
    let definitions := ["[Bar]: ../Enumerations.md#bar \"The bar\"", "[Foo]: https://foo.io"]
    (d.link registry (Path.ofString "/book")).lines = d.lines ++ "" :: definitions ∧
      List.Forall₂ (fun name line => ∃ entry, registry.resolve name = some entry ∧
          IsDefinition (Path.ofString "/book") ⟨.root, ["book", "api"]⟩ name entry line)
        ["Bar", "Foo"] definitions := by
  intro registry d definitions
  have lines : (d.link registry (Path.ofString "/book")).lines = d.lines ++ "" :: definitions := by
    decide +kernel
  obtain ⟨-, linked, -⟩ := link_defines_known_names_once registry "/book" d
  obtain ⟨found, added, defined⟩ := linked rfl
  rw [lines] at added
  obtain rfl : definitions = found := List.cons.inj (List.append_cancel_left added) |>.2
  have known : (d.references.filter registry.knows).eraseDups = ["Bar", "Foo"] := by decide +kernel
  have directory : (d.place (Path.ofString "/book")).parent = ⟨.root, ["book", "api"]⟩ := by
    decide +kernel
  rw [known, directory] at defined
  exact ⟨lines, defined⟩

end Document

end Bindery
