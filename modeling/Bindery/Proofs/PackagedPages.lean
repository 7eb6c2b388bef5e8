import Bindery.Pages
import Bindery.Proofs.Drafting

/-!
# The packaged templates

The templates that come with the program have known parts, and so the pages that are rendered from
them have known texts: the summary has a line for each example and for each entry, the introduction
to the enumerations is the same for every book. Neither page can fail.
-/

namespace Bindery

namespace Template

/-! ## Comparing templates -/

/-- Are both the same name, or the same attribute of the same expression? -/
def Expr.isSame : Expr → Expr → Bool
  | .name s, .name s' => s == s'
  | .member e s, .member e' s' => e.isSame e' && s == s'
  | _, _ => false

mutual

/-- Are the parts the same texts, outputs and loops? -/
def Part.isSame : Part → Part → Bool
  | .text s, .text s' => s == s'
  | .output e, .output e' => e.isSame e'
  | .loop target items none body otherwise, .loop target' items' none body' otherwise' =>
      target == target' && items.isSame items' && Part.areSame body body' &&
        Part.areSame otherwise otherwise'
  | _, _ => false

def Part.areSame : List Part → List Part → Bool
  | [], [] => true
  | p :: ps, q :: qs => p.isSame q && Part.areSame ps qs
  | _, _ => false

end

theorem Expr.eq_of_isSame {e e' : Expr} (same : e.isSame e') : e = e' := by
  unfold isSame at same
  split at same
  · rw [eq_of_beq same]
  · rw [Bool.and_eq_true] at same
    rw [Expr.eq_of_isSame same.1, eq_of_beq same.2]
  · cases same

mutual

theorem Part.eq_of_isSame {p q : Part} (same : p.isSame q) : p = q := by
  unfold isSame at same
  split at same
  · rw [eq_of_beq same]
  · rw [Expr.eq_of_isSame same]
  · simp only [Bool.and_eq_true] at same
    obtain ⟨⟨⟨targets, items⟩, bodies⟩, others⟩ := same
    rw [eq_of_beq targets, Expr.eq_of_isSame items, Part.eq_of_areSame bodies,
      Part.eq_of_areSame others]
  · cases same

theorem Part.eq_of_areSame {ps qs : List Part} (same : Part.areSame ps qs) : ps = qs := by
  unfold areSame at same
  split at same
  · rfl
  · rw [Bool.and_eq_true] at same
    rw [Part.eq_of_isSame same.1, Part.eq_of_areSame same.2]
  · cases same

end

/-! ## Texts of parts -/

theorem Part.renderAll_cons {insert : Context → String → Except Fault String} {context : Context}
    {p : Part} {rest : List Part} {first others : String}
    (begins : p.render insert context = .ok first)
    (goesOn : Part.renderAll insert context rest = .ok others) :
    Part.renderAll insert context (p :: rest) = .ok (first ++ others) := by
  rw [Part.renderAll, begins, goesOn]
  rfl

theorem Part.renderAll_last {insert : Context → String → Except Fault String} {context : Context}
    {p : Part} {text : String} (ends : p.render insert context = .ok text) :
    Part.renderAll insert context [p] = .ok text := by
  rw [Part.renderAll_cons ends rfl, String.append_empty]

section Loops

variable {α : Type} {datum : α → Datum} {line : α → String} {found : List α}

theorem concatFrom_map {f : Nat → Datum → Except Fault String}
    (each : ∀ i, ∀ a ∈ found, f i (datum a) = .ok (line a)) (i : Nat) :
    concatFrom f i (found.map datum) = .ok (String.join (found.map line)) := by
  induction found generalizing i with
  | nil => rfl
  | cons a rest ih =>
      have others := ih fun i later listed => each i later (List.mem_cons_of_mem _ listed)
      rw [List.map_cons, concatFrom, each i a List.mem_cons_self, others, List.map_cons,
        String.join_cons]
      rfl

/-- A loop without a condition joins the texts of its body. -/
theorem Part.render_loop (datum : α → Datum) {insert : Context → String → Except Fault String}
    {context : Context} {target : String} {items : Expr} {body : List Part} {d : Datum}
    (known : items.eval context = .ok d) (listed : d.items? = some (found.map datum))
    (each : ∀ record, ∀ a ∈ found,
      Part.renderAll insert ((target, datum a) :: ("loop", record) :: context) body =
        .ok (line a)) :
    Part.render insert context (.loop target items none body []) =
      .ok (String.join (found.map line)) := by
  rw [Part.render, known]
  dsimp only [bind, Except.bind]
  rw [listed]
  dsimp only [fitting]
  split
  · next empty =>
      rw [List.map_eq_nil_iff.mp (List.isEmpty_iff.mp empty)]
      rfl
  · exact concatFrom_map (fun i a listed => each _ a listed) 0

end Loops

end Template

namespace Pages

open Template

/-! ## The parts of the templates -/

def summarySource : String := (packaged.lookup summaryTemplate).getD ""

def exampleLoop : Part :=
  .loop "example" (.name "examples") none
    [.text "[", .output (.member (.name "example") "title"), .text "](",
      .output (.member (.name "example") "path"), .text ")\n"] []

def entryLoop : Part :=
  .loop "entry" (.name "entries") none [.text "  * ", .output (.name "entry"), .text "\n"] []

def summaryParts : List Part :=
  [.text "# Documentation\n\n[Quick Start](", .output (.name "quick_start"), .text ")\n",
    exampleLoop, .text "\n# API\n", entryLoop]

def enumerationsSource : String := (packaged.lookup enumerationsTemplate).getD ""

def introduction : String :=
  "# Enumerations\n" ++
  "Here you will find a list of all the possible values for fields which accept a typed " ++
  "enumerated property, such as \x60userAgent\x60 or \x60click()\x60"

/-- Is the text a template of these parts? -/
def hasParts (source : String) (parts : List Part) : Bool :=
  match ofSource source with
  | .ok found => Part.areSame found parts
  | .error _ => false

theorem ofSource_of_hasParts {source : String} {parts : List Part} (has : hasParts source parts) :
    ofSource source = .ok parts := by
  unfold hasParts at has
  split at has
  · next found read => rw [read, Part.eq_of_areSame has]
  · cases has

set_option maxRecDepth 100000 in
theorem ofSource_summarySource : ofSource summarySource = .ok summaryParts :=
  ofSource_of_hasParts (by decide +kernel)

set_option maxRecDepth 100000 in
theorem ofSource_enumerationsSource : ofSource enumerationsSource = .ok [.text introduction] :=
  ofSource_of_hasParts (by decide +kernel)

theorem source_summaryTemplate (t : FileTree) :
    source t none summaryTemplate = .ok summarySource := rfl

theorem source_enumerationsTemplate (t : FileTree) :
    source t none enumerationsTemplate = .ok enumerationsSource := rfl

/-! ## The texts of the pages -/

def exampleLine (e : Example) : String := "[" ++ e.title ++ "](" ++ e.path ++ ")\n"

def entryLine (entry : String) : String := "  * " ++ entry ++ "\n"

/-- The summary, down to the end of its last line. -/
def summaryText (quickStart : String) (examples : List Example) (entries : List String) : String :=
  "# Documentation\n\n[Quick Start](" ++ (quickStart ++ (")\n" ++
    (String.join (examples.map exampleLine) ++
      ("\n# API\n" ++ String.join (entries.map entryLine)))))

section Texts

variable (insert : Context → String → Except Fault String) (quickStart : String)
  (examples : List Example) (entries : List String)

/-- What the summary of a book is rendered from. -/
abbrev bookContext : Context :=
  summaryContext (.string quickStart) examples (entries.map .string)

theorem render_exampleLoop :
    exampleLoop.render insert (bookContext quickStart examples entries) =
      .ok (String.join (examples.map exampleLine)) := by
  refine Part.render_loop exampleDatum rfl rfl ?_
  intro record e listed
  show Except.ok ("[" ++ (e.title ++ ("](" ++ (e.path ++ (")\n" ++ ""))))) = _
  simp only [exampleLine, String.append_assoc, String.append_empty]

theorem render_entryLoop :
    entryLoop.render insert (bookContext quickStart examples entries) =
      .ok (String.join (entries.map entryLine)) := by
  refine Part.render_loop (fun entry => .plain (.string entry)) rfl ?_ ?_
  · show some ((entries.map Value.string).map Datum.plain) = _
    rw [List.map_map]
    rfl
  · intro record entry listed
    show Except.ok ("  * " ++ (entry ++ ("\n" ++ ""))) = _
    simp only [entryLine, String.append_assoc, String.append_empty]

theorem render_summaryParts :
    Part.renderAll insert (bookContext quickStart examples entries) summaryParts =
      .ok (summaryText quickStart examples entries) := by
  have texts : ∀ s,
      Part.render insert (bookContext quickStart examples entries) (.text s) = .ok s :=
    fun s => rfl
  have start : Part.render insert (bookContext quickStart examples entries)
      (.output (.name "quick_start")) = .ok quickStart := rfl
  have api := Part.renderAll_cons (texts "\n# API\n")
    (Part.renderAll_last (render_entryLoop insert quickStart examples entries))
  have listed := Part.renderAll_cons (render_exampleLoop insert quickStart examples entries) api
  exact Part.renderAll_cons (texts "# Documentation\n\n[Quick Start](")
    (Part.renderAll_cons start (Part.renderAll_cons (texts ")\n") listed))

end Texts

/-! ## The pages -/

theorem render_of_parts {t : FileTree} {directory : Option Path} {name source text : String}
    {parts : List Part} {context : Context} (found : Pages.source t directory name = .ok source)
    (read : ofSource source = .ok parts)
    (rendered : ∀ insert, Part.renderAll insert context parts = .ok text) :
    render t directory name context = .ok (Text.dropFinalFeeds text) := by
  rw [render, Template.render, deepest, renderNamed, found]
  show (do
    let text ← (do
      let parts ← (ofSource source).mapError Fault.template
      Part.renderAll _ context parts)
    return Text.dropFinalFeeds text) = _
  rw [read]
  show (do
    let text ← Part.renderAll _ context parts
    return Text.dropFinalFeeds text) = _
  rw [rendered]
  rfl

theorem lines_page (path text : String) (linked : Bool) :
    (page path text linked).lines = Text.lines text := by
  rw [page, Document.lines, List.map_map]
  exact List.map_id _

theorem text_page (path text : String) (linked : Bool) : (page path text linked).text = text := by
  rw [Document.text, lines_page, Text.joinLines_lines]

/-- The summary of a book whose project has no template of its own for it. -/
theorem summary_of_source {t : FileTree} {directory : Option Path}
    (found : source t directory summaryTemplate = .ok summarySource) (quickStart : String)
    (examples : List Example) (entries : List String) :
    summary t directory (bookContext quickStart examples entries) =
      .ok (page Route.summaryFile
        (Text.dropFinalFeeds (summaryText quickStart examples entries)) false) := by
  have rendered := render_of_parts found ofSource_summarySource
    fun insert => render_summaryParts insert quickStart examples entries
  rw [summary, rendered]
  rfl

/-- The summary of a book, from any tree of files. -/
theorem summary_packaged (t : FileTree) (quickStart : String) (examples : List Example)
    (entries : List String) :
    summary t none (bookContext quickStart examples entries) =
      .ok (page Route.summaryFile
        (Text.dropFinalFeeds (summaryText quickStart examples entries)) false) :=
  summary_of_source (source_summaryTemplate t) quickStart examples entries

/-- The introduction to the enumerations, from any tree of files. -/
theorem enumerations_packaged (t : FileTree) :
    enumerations t none =
      .ok (page Route.enumerationsFile (Text.dropFinalFeeds introduction) true) := by
  have rendered : render t none enumerationsTemplate [] = .ok (Text.dropFinalFeeds introduction) :=
    render_of_parts (source_enumerationsTemplate t) ofSource_enumerationsSource
      fun insert => Part.renderAll_last rfl
  rw [enumerations, rendered]
  rfl

/-- The generated pages of a book whose project has no templates of its own. -/
def packagedPages (examples : List Example) (entries : List String) : Document × Document :=
  (page Route.summaryFile (Text.dropFinalFeeds (summaryText quickStart examples entries)) false,
    page Route.enumerationsFile (Text.dropFinalFeeds introduction) true)

end Pages

end Bindery
