import Bindery.Document
import Bindery.Proofs.Scanning
import Mathlib.Data.List.Nodup

/-!
# Footers

The footer of a document defines a name exactly if the document needs it and the registry leads
somewhere with it, and it defines no name twice. Names that are needed are words, so that the lines
of a footer can be told apart by their beginnings.
-/

namespace Bindery

/-! ## Links -/

namespace Registry

theorem mem_firsts {names : List String} {n : String} : n ∈ firsts names ↔ n ∈ names := by
  induction names with
  | nil => exact Iff.rfl
  | cons name rest ih =>
      rw [firsts, List.mem_cons, List.mem_cons, List.mem_filter, ih]
      by_cases same : n = name <;> simp [same]

theorem nodup_firsts (names : List String) : (firsts names).Nodup := by
  induction names with
  | nil => exact List.nodup_nil
  | cons name rest ih =>
      rw [firsts, List.nodup_cons]
      exact ⟨by simp [List.mem_filter], ih.filter _⟩

theorem lead_eq_some_iff {r : Registry} {name : String} {entry : Entry} :
    r.lead name = some entry ↔ r.resolve name = some entry ∧ entry.target ≠ "" := by
  rw [lead, Option.filter_eq_some_iff]
  simp

/-- The entry of a name as it is seen from a directory. -/
def seen (book directory : Path) (entry : Entry) : Entry :=
  { entry with target := Target.seenFrom book directory entry.target }

theorem mem_of_mem_links {book directory : Path} {names : List String} {r : Registry}
    {link : String × Entry} (listed : link ∈ r.links book directory names) : link.1 ∈ names := by
  obtain ⟨name, first, linked⟩ := List.mem_filterMap.mp listed
  obtain ⟨entry, -, rfl⟩ := Option.map_eq_some_iff.mp linked
  exact mem_firsts.mp first

/-- The links under a name: one if it is among the names and leads somewhere. -/
theorem filter_links (book directory : Path) (names : List String) (r : Registry) (n : String) :
    (r.links book directory names).filter (fun link => link.1 = n) =
      if n ∈ names then ((r.lead n).map fun entry => (n, seen book directory entry)).toList
      else [] := by
  have chosen : ∀ m, Option.filter (fun link : String × Entry => decide (link.1 = n))
        ((r.lead m).map fun entry => (m, seen book directory entry)) =
      if decide (m = n) then (r.lead m).map fun entry => (m, seen book directory entry)
      else none := by
    intro m
    cases r.lead m <;> by_cases same : m = n <;> simp [same]
  have once : (firsts names).filter (fun m => decide (m = n)) = if n ∈ names then [n] else [] := by
    rw [List.filter_eq]
    by_cases needed : n ∈ names
    · rw [if_pos needed, List.count_eq_one_of_mem (nodup_firsts names) (mem_firsts.mpr needed)]
      rfl
    · rw [if_neg needed, List.count_eq_zero_of_not_mem (mem_firsts.not.mpr needed)]
      rfl
  have gathered : (r.links book directory names).filter (fun link => link.1 = n) =
      ((firsts names).filter fun m => decide (m = n)).filterMap fun m =>
        (r.lead m).map fun entry => (m, seen book directory entry) := by
    rw [links, List.filter_filterMap, List.filterMap_filter]
    exact congrArg (List.filterMap · _) (funext chosen)
  rw [gathered, once]
  by_cases needed : n ∈ names
  · rw [if_pos needed, if_pos needed, List.filterMap_cons, List.filterMap_nil]
    cases r.lead n <;> rfl
  · rw [if_neg needed, if_neg needed, List.filterMap_nil]

end Registry

/-! ## Lines of a footer -/

namespace Document

theorem isWord_of_mem_references {d : Document} {n : String} (needed : n ∈ d.references) :
    Token.IsWord n := by
  obtain ⟨l, -, found⟩ := List.mem_flatMap.mp needed
  cases l with
  | scanned text => exact (Token.mem_scan_iff.mp found).1
  | verbatim text => cases found

/-- Does a line define the name? -/
def defines (n line : String) : Bool := ("[" ++ n ++ "]: ").toList.isPrefixOf line.toList

theorem toList_definition (n : String) (entry : Entry) :
    ∃ rest, (definition n entry).toList = '[' :: (n.toList ++ ']' :: ':' :: ' ' :: rest) ∧
      (entry.title = none → rest = entry.target.toList) := by
  obtain ⟨target, title⟩ := entry
  cases title with
  | none => exact ⟨target.toList, by simp [definition], fun _ => rfl⟩
  | some title =>
      refine ⟨_, by simp only [definition, String.toList_append, List.append_assoc]; rfl, ?_⟩
      intro untitled
      cases untitled

theorem defines_definition_iff {n m : String} (entry : Entry) (first : Token.IsWord n)
    (second : Token.IsWord m) : defines n (definition m entry) ↔ m = n := by
  obtain ⟨rest, whole, -⟩ := toList_definition m entry
  have opening : ("[" ++ n ++ "]: ").toList = '[' :: (n.toList ++ ']' :: [':', ' ']) := by
    simp
  rw [defines, whole, opening, List.isPrefixOf_iff_prefix, List.cons_prefix_cons]
  constructor
  · rintro ⟨-, after, same⟩
    -- Both names end where the word characters end.
    have taken := congrArg (List.takeWhile Text.isWord) same
    rw [List.append_assoc, List.cons_append, Token.takeWhile_isWord first.2,
      Token.takeWhile_isWord second.2] at taken
    exact (String.toList_inj.mp taken).symm
  · rintro rfl
    exact ⟨rfl, rest, by simp⟩

/-- A needed name that leads somewhere is defined by exactly one line of the footer. -/
theorem filter_footer {d : Document} {n : String} (registry : Registry) (book : Path)
    {entry : Entry} (needed : n ∈ d.references) (leads : registry.lead n = some entry) :
    ((d.footer registry book).map Line.text).filter (defines n) =
      [definition n (Registry.seen book (d.place book).parent entry)] := by
  have links := Registry.filter_links book (d.place book).parent d.references registry n
  rw [if_pos needed, leads] at links
  have told_apart : ∀ link ∈ d.definitions registry book,
      (defines n ∘ fun link : String × Entry => definition link.1 link.2) link =
        decide (link.1 = n) := by
    intro link listed
    have known := isWord_of_mem_references (Registry.mem_of_mem_links listed)
    rw [Bool.eq_iff_iff, decide_eq_true_iff]
    exact defines_definition_iff link.2 (isWord_of_mem_references needed) known
  have closing : defines n "" = false := by simp [defines]
  rw [footer, List.map_cons, List.map_map, List.filter_cons_of_neg (by simp [Line.text, closing])]
  show ((d.definitions registry book).map fun link => definition link.1 link.2).filter _ = _
  rw [List.filter_map, List.filter_congr told_apart, definitions, links]
  rfl

end Document

end Bindery
