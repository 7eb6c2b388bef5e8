import Bindery.Proofs.Assembly
import Bindery.Proofs.Marks
import Mathlib.Algebra.GroupWithZero.Nat

/-!
# What a build reports

The counters of a report and the log are functions of the children that were walked: every child is
counted under its kind and logged by one entry, and the last entry of an accepted record says the
counts. The rendered ones are the documents of the book without the two generated pages.
-/

namespace Bindery

open Draft

/-! ## Counted kinds -/

namespace Tally

/-- The members, each where it first occurs, with how often it occurs. -/
def occurrences (kinds : List String) : List (String × Nat) :=
  kinds.eraseDups.map fun kind => (kind, kinds.count kind)

/-- The occurrences of all members add up to their number. -/
theorem sum_occurrences (kinds : List String) :
    ((occurrences kinds).map Prod.snd).sum = kinds.length := by
  have gathered := Table.perm_flatMap_filter (Table.nodup_eraseDups kinds) id kinds
    fun kind listed => List.mem_eraseDups.mpr listed
  rw [← gathered.length_eq, List.length_flatMap, occurrences, List.map_map]
  refine congrArg List.sum (List.map_congr_left fun kind _ => ?_)
  rw [Function.comp_apply, List.count_eq_length_filter]
  rfl

/-- The tally of kinds that came one after another. -/
def ofKinds (kinds : List String) : Tally :=
  (occurrences kinds).map fun pair => (⟨.string pair.1⟩, pair.2)

/-- Counting a kind once more. -/
theorem count_ofKinds (kinds : List String) (kind : String) :
    count (.string kind) (ofKinds kinds) = .ok (ofKinds (kinds ++ [kind])) := by
  have absent : kind ∉ kinds.eraseDups →
      (none : Option Nat).getD 0 + 1 = (some (kinds.count kind)).getD 0 + 1 := by
    intro unknown
    rw [List.mem_eraseDups] at unknown
    rw [List.count_eq_zero_of_not_mem unknown]
    rfl
  show Except.ok (Table.alter (Value.Key.mk (.string kind)) _ _) = _
  rw [ofKinds, Table.alter_mapKeys (f := fun kind => Value.Key.mk (.string kind))
    (fun _ _ => rfl), occurrences,
    Table.alter_map (Table.nodup_eraseDups _) kind _ (fun kind => kinds.count kind) absent,
    ofKinds, occurrences, Table.eraseDups_concat]
  simp only [List.elem_eq_mem, List.mem_eraseDups]
  refine congrArg (fun counted : Table String Nat =>
    Except.ok (counted.map fun pair => (Value.Key.mk (.string pair.1), pair.2)))
    (List.map_congr_left fun other _ => ?_)
  by_cases same : other = kind
  · simp [same]
  · simp [same, Ne.symm same]

theorem total_eq_sum (t : Tally) : t.total = (t.map Prod.snd).sum := by
  induction t with
  | nil => rfl
  | cons pair rest ih => rw [total, ih, List.map_cons, List.sum_cons]

theorem total_ofKinds (kinds : List String) : (ofKinds kinds).total = kinds.length := by
  rw [total_eq_sum, ofKinds, List.map_map]
  exact sum_occurrences kinds

theorem isEmpty_ofKinds (kinds : List String) : (ofKinds kinds).isEmpty = kinds.isEmpty := by
  cases kinds with
  | nil => rfl
  | cons kind rest => rw [ofKinds, occurrences, List.eraseDups_cons]; rfl

end Tally

namespace Report

/-! ## The sentence of a report -/

/-- Kinds in words: how often each occurs, in the order in which they first occur. -/
def countText (kinds : List String) : String :=
  ", ".intercalate ((Tally.occurrences kinds).map fun pair => toString pair.2 ++ " " ++ pair.1)

/-- What is said of rendered and of skipped kinds; of skipped ones nothing if there are none. -/
def sentence (rendered skipped : List String) : String :=
  "Rendered " ++ toString rendered.length ++ " entities (" ++
    (if rendered = [] then "nothing" else countText rendered) ++ ")" ++
    (if 0 < skipped.length then
      "; skipped " ++ toString skipped.length ++ " (" ++ countText skipped ++ ")"
    else "")

/-- The report of kinds that were rendered and of kinds that were skipped. -/
def ofKinds (rendered skipped : List String) : Report :=
  ⟨Tally.ofKinds rendered, Tally.ofKinds skipped⟩

theorem text_ofKinds (kinds : List String) : (Tally.ofKinds kinds).text = countText kinds := by
  rw [Tally.text, Tally.ofKinds, List.map_map]
  rfl

theorem summary_ofKinds (rendered skipped : List String) :
    (ofKinds rendered skipped).summary = sentence rendered skipped := by
  have skippedPart : skipped.isEmpty = !decide (0 < skipped.length) := by cases skipped <;> rfl
  simp only [summary, sentence, ofKinds, Tally.isEmpty_ofKinds, Tally.total_ofKinds, text_ofKinds,
    List.isEmpty_iff, skippedPart]
  by_cases skips : 0 < skipped.length <;> simp [skips]

/-! ## One child -/

/-- The entries of reports. -/
def isReported (e : Log.Entry) : Bool := e.logger == Log.loggerName component

/-- An empty kind is called a node. -/
def nodeIfEmpty (kind : String) : String := if kind = "" then "node" else kind

theorem document_ofKinds (rendered skipped : List String) (kind name path : String) :
    (ofKinds rendered skipped).document (.string kind) (.string name) (.string path) =
      ⟨[.entry ⟨.debug, Log.loggerName component,
        "Rendered " ++ kind ++ " " ++ Text.quoted name ++ " into " ++ path⟩],
        .ok (ofKinds (rendered ++ [kind]) skipped)⟩ := by
  have counted : (ofExcept ((ofKinds rendered skipped).rendered.count (.string kind))).outcome =
      .ok (Tally.ofKinds (rendered ++ [kind])) := Tally.count_ofKinds rendered kind
  rw [document, bind_of_ok counted]
  rfl

theorem skip_ofKinds (rendered skipped : List String) (kind name : String) :
    (ofKinds rendered skipped).skip (.string kind) (.string name) =
      ⟨[.entry ⟨.debug, Log.loggerName component,
        "Skipping " ++ nodeIfEmpty kind ++ " " ++ Text.quoted name⟩],
        .ok (ofKinds rendered (skipped ++ [nodeIfEmpty kind]))⟩ := by
  have called : kindOrNode (.string kind) = .string (nodeIfEmpty kind) := by
    rw [kindOrNode, Value.orElse, nodeIfEmpty]
    by_cases empty : kind = "" <;> simp [empty, Value.isTruthy]
  have counted : (ofExcept ((ofKinds rendered skipped).skipped.count
      (kindOrNode (.string kind)))).outcome =
      .ok (Tally.ofKinds (skipped ++ [nodeIfEmpty kind])) := by
    rw [called]
    exact Tally.count_ofKinds skipped (nodeIfEmpty kind)
  rw [skip, bind_of_ok counted, called]
  rfl

/-- The kind of a child as a report names it. -/
def kindOf (node : Node) : String := nodeIfEmpty (node.kindName.text?.getD "")

/-- A documented kind is never empty. -/
theorem kindName_of_documented {node : Node} (documented : Entity.isDocumented node.kind) :
    node.kindName = .string (kindOf node) := by
  rw [Node.kind] at documented
  rw [kindOf]
  cases named : node.kindName with
  | string kind =>
      by_cases empty : kind = ""
      · rw [named, empty] at documented
        exact absurd documented (by decide)
      · rw [Value.text?, Option.getD_some, nodeIfEmpty, if_neg empty]
  | _ =>
      -- Only a text names a kind with a draft.
      rw [named] at documented
      exact absurd (show Entity.isDocumented .other from documented) (by decide)

/-- The kinds of the documented children, in order. -/
def renderedKinds (nodes : List Node) : List String :=
  (nodes.filter fun node => Entity.isDocumented node.kind).map kindOf

/-- The kinds of all other children, in order. -/
def skippedKinds (nodes : List Node) : List String :=
  (nodes.filter fun node => !Entity.isDocumented node.kind).map kindOf

/-- Every child is either rendered or skipped. -/
theorem length_renderedKinds_add (nodes : List Node) :
    (renderedKinds nodes).length + (skippedKinds nodes).length = nodes.length := by
  rw [renderedKinds, skippedKinds, List.length_map, List.length_map,
    ← List.length_append, (List.filter_append_perm _ nodes).length_eq]

/-- The report of children that were walked. -/
def ofNodes (nodes : List Node) : Report := ofKinds (renderedKinds nodes) (skippedKinds nodes)

/-- The entry about a child. -/
def visitEntry (node : Node) : Log.Entry where
  level := .debug
  logger := Log.loggerName component
  message :=
    if Entity.isDocumented node.kind then
      "Rendered " ++ kindOf node ++ " " ++ Text.quoted node.name ++ " into " ++
        (Compiler.documentOf node).path
    else "Skipping " ++ kindOf node ++ " " ++ Text.quoted node.name

theorem document_ofNodes (done : List Node) {node : Node}
    (documented : Entity.isDocumented node.kind) :
    (ofNodes done).document node.kindName (.string node.name)
        (.string (Compiler.documentOf node).path) =
      ⟨[.entry (visitEntry node)], .ok (ofNodes (done ++ [node]))⟩ := by
  have entry : visitEntry node = ⟨.debug, Log.loggerName component, "Rendered " ++ kindOf node ++
      " " ++ Text.quoted node.name ++ " into " ++ (Compiler.documentOf node).path⟩ := by
    rw [visitEntry, if_pos documented]
  have rendered : renderedKinds (done ++ [node]) = renderedKinds done ++ [kindOf node] := by
    simp [renderedKinds, documented]
  have skipped : skippedKinds (done ++ [node]) = skippedKinds done := by
    simp [skippedKinds, documented]
  rw [kindName_of_documented documented, ofNodes, document_ofKinds, entry, ofNodes, rendered,
    skipped]

theorem skip_ofNodes (done : List Node) {node : Node} (named : node.kindName.text?.isSome)
    (undocumented : ¬Entity.isDocumented node.kind) :
    (ofNodes done).skip node.kindName (.string node.name) =
      ⟨[.entry (visitEntry node)], .ok (ofNodes (done ++ [node]))⟩ := by
  obtain ⟨kind, given⟩ : ∃ kind, node.kindName = .string kind := by
    cases stored : node.kindName with
    | string kind => exact ⟨kind, rfl⟩
    | _ => rw [stored] at named; cases named
  have called : kindOf node = nodeIfEmpty kind := by rw [kindOf, given]; rfl
  have entry : visitEntry node = ⟨.debug, Log.loggerName component, "Skipping " ++ kindOf node ++
      " " ++ Text.quoted node.name⟩ := by
    rw [visitEntry, if_neg undocumented]
  have rendered : renderedKinds (done ++ [node]) = renderedKinds done := by
    simp [renderedKinds, undocumented]
  have skipped : skippedKinds (done ++ [node]) = skippedKinds done ++ [kindOf node] := by
    simp [skippedKinds, undocumented]
  rw [given, ofNodes, skip_ofKinds, entry, ofNodes, rendered, skipped, called]

/-- The entry about all children. -/
def lastEntry (nodes : List Node) : Log.Entry where
  level := .info
  logger := Log.loggerName component
  message := sentence (renderedKinds nodes) (skippedKinds nodes)

theorem finish_ofNodes (nodes : List Node) :
    (ofNodes nodes).finish = ⟨[.entry (lastEntry nodes)], .ok ()⟩ := by
  rw [finish, ofNodes, summary_ofKinds]
  rfl

/-- What is logged under another name is not reported. -/
theorem filter_entries {α : Type} {logger : String} {d : Draft α} (logs : d.LogsAs logger)
    (other : logger ≠ Log.loggerName component) : d.entries.filter isReported = [] := by
  rw [List.filter_eq_nil_iff]
  intro e logged reported
  exact other ((logs e logged).symm.trans (eq_of_beq reported))

end Report

/-! ## The walk -/

namespace Visit

open Report

theorem leavesOnly_pageOf {draft : Node → Draft Unit} {node : Node}
    (drafted : Entity.draft? node.kind = some draft) :
    (pageOf draft node).LeavesOnly (fun _ => False) TypeText.logger :=
  (leavesOnly_ofExcept _).bind fun _ =>
    (Entity.leavesOnly_draft drafted node).capture.bind fun _ => leavesOnly_pure _

/-- A visit counts the node and reports it by one entry. -/
theorem ofNode_reports {done : List Node} {node : Node} {visit : Visit} {after : Report}
    (named : node.kindName.text?.isSome)
    (visited : (ofNode node (ofNodes done)).outcome = .ok (visit, after)) :
    after = ofNodes (done ++ [node]) ∧
      (ofNode node (ofNodes done)).entries.filter isReported = [visitEntry node] := by
  have reported : [visitEntry node].filter isReported = [visitEntry node] := by
    rw [List.filter_eq_self]
    exact fun e listed => List.mem_singleton.mp listed ▸ beq_self_eq_true _
  unfold ofNode at visited ⊢
  split at visited
  · next draft drafted =>
      have documented : Entity.isDocumented node.kind := by rw [Entity.isDocumented, drafted]; rfl
      obtain ⟨p, paged, rest⟩ := bind_eq_ok_iff.mp visited
      obtain ⟨rfl, -⟩ := pageOf_eq_ok drafted paged
      have counts := document_ofNodes done documented
      obtain ⟨counted, given, shaped⟩ := bind_eq_ok_iff.mp rest
      -- What drafting the page logs is no report.
      rw [entries_bind_of_ok paged, entries_bind_of_ok given, List.filter_append,
        filter_entries (leavesOnly_pageOf drafted).entries (by decide)]
      rw [Compiler.documentOf] at counts
      rw [counts] at given ⊢
      cases given
      cases shaped
      exact ⟨rfl, reported⟩
  · next undrafted =>
      have undocumented : ¬Entity.isDocumented node.kind := by
        rw [Entity.isDocumented, undrafted]
        exact Bool.false_ne_true
      have counts := skip_ofNodes done named undocumented
      obtain ⟨counted, given, shaped⟩ := bind_eq_ok_iff.mp visited
      rw [entries_bind_of_ok given]
      rw [counts] at given ⊢
      cases given
      cases shaped
      exact ⟨rfl, reported⟩

/-- A walk counts every node, and reports them in order by one entry each. -/
theorem walk_reports {nodes done : List Node} {visits : List Visit} {after : Report}
    (named : ∀ node ∈ nodes, node.kindName.text?.isSome)
    (walked : (walk nodes (ofNodes done)).outcome = .ok (visits, after)) :
    after = ofNodes (done ++ nodes) ∧
      (walk nodes (ofNodes done)).entries.filter isReported = nodes.map visitEntry := by
  -- That the report so far is the one of the nodes that are done carries the induction.
  induction nodes generalizing done visits after with
  | nil =>
      obtain ⟨-, rfl⟩ := Prod.mk.inj (pure_eq_ok_iff.mp walked)
      rw [List.append_nil]
      exact ⟨rfl, rfl⟩
  | cons node rest ih =>
      rw [List.forall_mem_cons] at named
      obtain ⟨⟨visit, counted⟩, visited, more⟩ := bind_eq_ok_iff.mp walked
      obtain ⟨rfl, first⟩ := ofNode_reports named.1 visited
      obtain ⟨⟨others, final⟩, restWalked, given⟩ := bind_eq_ok_iff.mp more
      obtain ⟨-, rfl⟩ := Prod.mk.inj (pure_eq_ok_iff.mp given)
      obtain ⟨rfl, later⟩ := ih named.2 restWalked
      have written : (walk (node :: rest) (ofNodes done)).entries =
          (ofNode node (ofNodes done)).entries ++
            (walk rest (ofNodes (done ++ [node]))).entries := by
        rw [walk, entries_bind_of_ok visited, entries_bind_of_ok restWalked]
        exact congrArg _ (List.append_nil _)
      rw [written, List.filter_append, first, later, List.append_assoc]
      exact ⟨rfl, rfl⟩

end Visit

/-! ## The book -/

namespace Compiler

open Report

/-- An accepted record reports each child of its module, and the counts of them at the end. -/
theorem compile_reports {c : Compiler} {t : FileTree} {root module : Node} {b : Book}
    (compiled : (c.compile t root).outcome = .ok b)
    (found : root.findModule c.moduleName = .ok module)
    (named : ∀ node ∈ module.children, node.kindName.text?.isSome) :
    (c.compile t root).entries.filter isReported =
        module.children.map visitEntry ++ [lastEntry module.children] ∧
      (c.compile t root).entries.getLast? = some (lastEntry module.children) := by
  obtain ⟨same, located, rest⟩ := bind_eq_ok_iff.mp compiled
  obtain rfl := Except.ok.inj (found.symm.trans located)
  obtain ⟨⟨visits, report⟩, walked, rest⟩ := bind_eq_ok_iff.mp rest
  obtain ⟨⟨summary, index⟩, generated, -⟩ := bind_eq_ok_iff.mp rest
  have fromEmpty : (Visit.walk module.children (ofNodes [])).outcome = .ok (visits, report) :=
    walked
  obtain ⟨rfl, reported⟩ := Visit.walk_reports named fromEmpty
  have written : (c.compile t root).entries =
      (Visit.walk module.children .empty).entries ++
        ((c.generated t (c.blankBook.addPages (Visit.pages visits))).entries ++
          [lastEntry module.children]) := by
    rw [compile, entries_bind_of_ok located, entries_bind_of_ok walked]
    refine congrArg (_ ++ ·) ?_
    rw [entries_bind_of_ok generated]
    refine congrArg (_ ++ ·) ?_
    rw [finish_ofNodes]
    rfl
  rw [written]
  constructor
  · rw [List.filter_append, List.filter_append,
      filter_entries (c.leavesOnly_generated t _).entries (by decide), List.nil_append]
    exact congrArg₂ (· ++ ·) reported (List.filter_eq_self.mpr fun e listed =>
      List.mem_singleton.mp listed ▸ beq_self_eq_true _)
  · rw [← List.append_assoc, List.getLast?_concat]

/-- The report of an accepted record accounts for the children of its module. Beside what types and
pages log, each child is reported by one entry, in the order of the walk, and the last entry says
the counts. The rendered ones are counted by the documents other than the generated pages. -/
theorem build_report_accounts_for_children {c : Compiler} {s : Session} {root module : Node}
    {b : Book} (processed : ((c.process root).on s).2 = .ok b)
    (found : root.findModule c.moduleName = .ok module)
    (named : ∀ node ∈ module.children, node.kindName.text?.isSome) :
    (∃ logged, ((c.process root).on s).1.entries = s.entries ++ logged ∧
      logged.filter isReported =
        module.children.map visitEntry ++ [lastEntry module.children] ∧
      logged.getLast? = some (lastEntry module.children)) ∧
    (∃ summary index, summary.path = Route.summaryFile ∧ index.path = Route.enumerationsFile ∧
      b.allDocuments.Perm ((entities module).map documentOf ++ [index, summary]) ∧
      (renderedKinds module.children).length + 2 = b.allDocuments.length) ∧
    (renderedKinds module.children).length + (skippedKinds module.children).length =
      module.children.length ∧
    ((Tally.occurrences (renderedKinds module.children)).map Prod.snd).sum =
      (renderedKinds module.children).length ∧
    ((Tally.occurrences (skippedKinds module.children)).map Prod.snd).sum =
      (skippedKinds module.children).length := by
  obtain ⟨same, summary, index, located, generated, rfl⟩ := process_eq_ok processed
  obtain rfl := Except.ok.inj (found.symm.trans located)
  obtain ⟨⟨summaryPath, -⟩, indexPath, -⟩ := generated_eq_ok generated
  have documents := c.perm_allDocuments_bookOf module summary index
  refine ⟨⟨_, ?_, compile_reports processed found named⟩,
    ⟨summary, index, summaryPath, indexPath, documents, ?_⟩, length_renderedKinds_add _,
    Tally.sum_occurrences _, Tally.sum_occurrences _⟩
  · rw [on_process]
    exact Session.entries_recordAll _ _
  · rw [documents.length_eq, renderedKinds, List.length_map, List.length_append, List.length_map]
    rfl

/-- The report on the small library, with a child that is skipped. -/
theorem report_on_library :
    ∃ b, (((plain ["book"]).process (recordOf library)).on emptySession).2 = .ok b ∧
      (∀ node ∈ library, node.kindName.text?.isSome) ∧ b.allDocuments.length = 5 ∧
      ((((plain ["book"]).process (recordOf library)).on emptySession).1.entries.filter
        isReported).map Log.Entry.message =
        ["Rendered Function 'launch' into api/Functions.md",
          "Rendered Class 'Functions' into api/Functions.md", "Skipping Variable 'version'",
          "Rendered Class 'Driver' into api/Driver.md",
          "Rendered 3 entities (1 Function, 2 Class); skipped 1 (1 Variable)"] := by
  obtain ⟨b, processed, -⟩ := processed_of_yields library_written
  have named : ∀ node ∈ library, node.kindName.text?.isSome := by decide
  obtain ⟨⟨logged, entries, reported, -⟩, ⟨summary, index, -, -, -, documents⟩, -⟩ :=
    build_report_accounts_for_children processed
      (show _ = Except.ok (moduleOf library) from rfl) named
  refine ⟨b, processed, named, documents.symm, ?_⟩
  rw [entries, List.filter_append, reported]
  decide +kernel

end Compiler

end Bindery
