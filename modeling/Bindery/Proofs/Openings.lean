import Bindery.Proofs.Confinement
import Bindery.Proofs.Defects

/-!
# How generated pages open

Front matter begins with a fence in the first line. The first line of a generated page is empty, or
begins with a hash, or is a rule that is longer than a fence. That holds of the pages of entities of
every kind, of the pages that come with the program and of all joins of them, so that no file of a
book has front matter.
-/

namespace Bindery

namespace FrontMatter

/-! ## Texts without front matter -/

/-- Do the characters begin with an empty line, a heading or the rule above a section? -/
inductive OpensPlainly : List Char → Prop
  | nothing : OpensPlainly []
  | feed (rest : List Char) : OpensPlainly ('\n' :: rest)
  | heading (rest : List Char) : OpensPlainly ('#' :: rest)
  | rule (rest : List Char) : OpensPlainly (Writer.sectionRule.toList ++ rest)

theorem OpensPlainly.append {cs : List Char} (plain : OpensPlainly cs) (rest : List Char) :
    OpensPlainly (cs ++ '\n' :: rest) := by
  cases plain with
  | nothing => exact .feed rest
  | feed more => exact .feed _
  | heading more => exact .heading _
  | rule more =>
      rw [List.append_assoc]
      exact .rule _

theorem OpensPlainly.feeds {cs : List Char} (plain : OpensPlainly cs) :
    OpensPlainly (Text.feeds cs) := by
  cases plain with
  | nothing => exact .nothing
  | feed more => exact .feed _
  | heading more => exact .heading _
  | rule more => exact .rule (Text.feeds more)

/-- A character that ends no line stands at the start of the first line. -/
theorem boundaryLines_cons {c : Char} (plain : Text.isBoundary c = false) (cs : List Char) :
    Text.boundaryLines (c :: cs) = match Text.boundaryLines cs with
      | [] => [[c]]
      | line :: more => (c :: line) :: more := by
  rw [Text.boundaryLines]
  · exact if_neg (by rw [plain]; exact Bool.false_ne_true)
  · rintro rest rfl -
    cases plain

/-- The first line of a text begins as the text does. -/
theorem exists_boundaryLines {front : List Char} (filled : front ≠ [])
    (inLine : ∀ c ∈ front, Text.isBoundary c = false) (rest : List Char) :
    ∃ line more, Text.boundaryLines (front ++ rest) = (front ++ line) :: more := by
  induction front with
  | nil => exact absurd rfl filled
  | cons c front ih =>
      rw [List.cons_append, boundaryLines_cons (inLine c List.mem_cons_self)]
      cases front with
      | nil =>
          rw [List.nil_append]
          cases Text.boundaryLines rest with
          | nil => exact ⟨[], [], rfl⟩
          | cons line more => exact ⟨line, more, rfl⟩
      | cons next others =>
          obtain ⟨line, more, lines⟩ := ih (List.cons_ne_nil _ _) fun d listed =>
            inLine d (List.mem_cons_of_mem _ listed)
          rw [lines]
          exact ⟨line, more, rfl⟩

/-- Trimming leaves what stands before and is not blank. -/
theorem exists_trim {front : List Char} (filled : front ≠ [])
    (solid : ∀ c ∈ front, Text.isBlank c = false) (line : List Char) :
    ∃ rest, Text.trim (front ++ line) = front ++ rest := by
  have kept {cs : List Char} (filled : cs ≠ []) (solid : ∀ c ∈ cs, Text.isBlank c = false)
      (more : List Char) : (cs ++ more).dropWhile Text.isBlank = cs ++ more := by
    obtain ⟨c, others, rfl⟩ := List.exists_cons_of_ne_nil filled
    rw [List.cons_append, List.dropWhile_cons_of_neg]
    rw [solid c List.mem_cons_self]
    exact Bool.false_ne_true
  have turned : front.reverse ≠ [] := by simpa using filled
  have solid_turned : ∀ c ∈ front.reverse, Text.isBlank c = false := fun c listed =>
    solid c (List.mem_reverse.mp listed)
  have back := kept turned solid_turned []
  rw [List.append_nil] at back
  rw [Text.trim, Text.dropBlank, Text.dropBlank, kept filled solid, List.reverse_append,
    List.dropWhile_append, back]
  split
  · exact ⟨[], by simp⟩
  · exact ⟨_, by rw [List.reverse_append, List.reverse_reverse]⟩

theorem block?_eq_none_of_begins {front : List Char} (filled : front ≠ [])
    (inside : front.all fun c => !Text.isBoundary c && !Text.isBlank c)
    (differs : ∀ rest, front ++ rest ≠ "---".toList) {text : String} {rest : List Char}
    (begins : text.toList = front ++ rest) : block? text = none := by
  have plain : ∀ c ∈ front, Text.isBoundary c = false ∧ Text.isBlank c = false := by
    simpa using inside
  obtain ⟨line, more, lines⟩ := exists_boundaryLines filled (fun c listed => (plain c listed).1) rest
  obtain ⟨others, trimmed⟩ := exists_trim filled (fun c listed => (plain c listed).2) line
  have free : isFence (String.ofList (front ++ line)) = false := by
    rw [isFence, Text.strip, String.toList_ofList, trimmed, beq_eq_false_iff_ne]
    intro same
    exact differs others (by rw [← same, String.toList_ofList])
  rw [block?, Text.splitLines, begins, lines, List.map_cons]
  dsimp only
  rw [free, if_neg Bool.false_ne_true]

theorem block?_eq_none {text : String} (plain : OpensPlainly text.toList) : block? text = none := by
  generalize opening : text.toList = cs at plain
  cases plain with
  | nothing =>
      rw [block?, Text.splitLines, opening]
      rfl
  | feed rest =>
      rw [block?, Text.splitLines, opening]
      rfl
  | heading rest =>
      have begins : text.toList = ['#'] ++ rest := opening
      exact block?_eq_none_of_begins (by simp) (by decide)
        (fun others same => by simp at same) begins
  | rule rest =>
      refine block?_eq_none_of_begins (by decide) (by decide) (fun others same => ?_) opening
      have longer := congrArg List.length same
      rw [List.length_append] at longer
      have seven : Writer.sectionRule.toList.length = 7 := rfl
      have three : "---".toList.length = 3 := rfl
      omega

/-! ## Joins -/

/-- Does the first line, if there is one, open a text plainly? -/
def OpenPlainly (lines : List String) : Prop := ∀ line ∈ lines.head?, OpensPlainly line.toList

theorem OpenPlainly.joinLines {lines : List String} (plain : OpenPlainly lines) :
    OpensPlainly (Text.joinLines lines).toList := by
  cases lines with
  | nil => exact .nothing
  | cons first rest =>
      have opening := plain first rfl
      rw [Text.joinLines, Text.joinWith, String.toList_ofList, List.map_cons]
      cases rest with
      | nil => exact opening
      | cons next more => exact opening.append _

/-- An empty line and what follows it may be added. -/
theorem OpenPlainly.append {lines : List String} (plain : OpenPlainly lines) (more : List String) :
    OpenPlainly (lines ++ "" :: more) := by
  cases lines with
  | nil =>
      intro line first
      cases first
      exact .nothing
  | cons first rest => exact plain

theorem openPlainly_lines {text : String} {rest : List Char} (begins : text.toList = '#' :: rest) :
    OpenPlainly (Text.lines text) := by
  intro line first
  rw [Text.lines, Text.splitAt, begins, Text.cut, if_neg (by decide)] at first
  cases pieces : Text.cut '\n' rest with
  | nil => exact absurd pieces (Text.cut_ne_nil _ _)
  | cons piece more =>
      rw [pieces] at first
      cases first
      rw [String.toList_ofList]
      exact .heading piece

end FrontMatter

open FrontMatter (OpenPlainly OpensPlainly)

/-- A footer is no opening. -/
theorem Document.openPlainly_link {d : Document} (plain : OpenPlainly d.lines)
    (registry : Registry) (book : Path) : OpenPlainly (d.link registry book).lines := by
  rw [link]
  split
  · rw [lines_extend, footer, List.map_cons]
    exact plain.append _
  · exact plain

namespace Draft

variable {α β : Type} {d : Draft α} {next : α → Draft β}

/-- What the first step writes comes first; only where it writes nothing does the second one
count. -/
theorem openPlainly_bind (first : OpenPlainly (d.lines.map Line.text))
    (goesOn : d.lines = [] → ∀ a, OpenPlainly ((next a).lines.map Line.text)) :
    OpenPlainly ((d >>= next).lines.map Line.text) := by
  cases ended : d.outcome with
  | error fault =>
      rw [bind_of_error ended]
      exact first
  | ok a =>
      rw [lines_bind_of_ok ended]
      cases written : d.lines with
      | nil => exact goesOn written a
      | cons line rest =>
          rw [written] at first
          exact first

end Draft

/-! ## Pages of entities -/

namespace Entity

theorem openPlainly_classLike (node : Node) :
    OpenPlainly ((classLike node).lines.map Line.text) := by
  intro line first
  have rule : ((classLike node).lines.map Line.text).head? = some Writer.sectionRule := rfl
  rw [rule] at first
  cases first
  exact .rule []

theorem openPlainly_heading (text : String) {depth : Int} (deep : 0 < depth) :
    OpenPlainly ((Writer.heading text depth).lines.map Line.text) := by
  intro line first
  obtain ⟨more, marks⟩ := Nat.exists_eq_succ_of_ne_zero (show depth.toNat ≠ 0 by omega)
  have heading : ((Writer.heading text depth).lines.map Line.text).head? =
      some (String.ofList (List.replicate depth.toNat '#') ++ " " ++ text) := rfl
  rw [heading, marks] at first
  cases first
  rw [String.append_assoc, String.toList_append, String.toList_ofList, List.replicate_succ]
  exact .heading _

theorem openPlainly_signature (owner : String) (node : Node) :
    OpenPlainly ((signature owner node).lines.map Line.text) := by
  have described : (Draft.each describe node.parameters).lines = [] :=
    Draft.lines_each_eq_nil lines_describe node.parameters
  refine Draft.openPlainly_bind (by rw [described]; exact nofun) fun _ parameters => ?_
  exact Draft.openPlainly_bind (openPlainly_heading _ (by decide)) nofun

theorem openPlainly_signatures (signatures : List Node) :
    OpenPlainly ((Draft.forEach (signature "") signatures).lines.map Line.text) := by
  induction signatures with
  | nil => exact nofun
  | cons node rest ih => exact Draft.openPlainly_bind (openPlainly_signature "" node) fun _ _ => ih

theorem openPlainly_function (node : Node) :
    OpenPlainly ((function node).lines.map Line.text) :=
  Draft.openPlainly_bind nofun fun _ signatures => openPlainly_signatures signatures

theorem openPlainly_lines (node : Node) : OpenPlainly ((lines node).map Line.text) := by
  rw [lines]
  split
  · next draft drafted =>
      cases kind : node.kind <;> rw [kind] at drafted <;> cases drafted
      all_goals first
        | exact openPlainly_classLike node
        | exact openPlainly_function node
        | exact openPlainly_heading _ (by decide)
  · intro line first
    cases first

end Entity

/-! ## Files of a book -/

theorem Text.exists_dropFinalFeeds {text : String} {c : Char} {rest : List Char}
    (begins : text.toList = c :: rest) (filled : c ≠ '\n') :
    ∃ more, (Text.dropFinalFeeds text).toList = c :: more := by
  have kept : [c].dropWhile (· = '\n') = [c] :=
    List.dropWhile_cons_of_neg (by simpa using filled)
  rw [dropFinalFeeds, String.toList_ofList, begins, List.reverse_cons, List.dropWhile_append, kept]
  split
  · exact ⟨[], rfl⟩
  · exact ⟨_, List.reverse_concat⟩

theorem Pages.openPlainly_page {text : String} {rest : List Char}
    (begins : text.toList = '#' :: rest) (path : String) (linked : Bool) :
    OpenPlainly (page path (Text.dropFinalFeeds text) linked).lines := by
  obtain ⟨more, opening⟩ := Text.exists_dropFinalFeeds begins (by decide)
  have lines : (page path (Text.dropFinalFeeds text) linked).lines =
      Text.lines (Text.dropFinalFeeds text) := by
    rw [page, Document.lines, List.map_map]
    exact List.map_id _
  rw [lines]
  exact FrontMatter.openPlainly_lines opening

theorem Pages.exists_summaryText (quickStart : String) (examples : List Example)
    (entries : List String) :
    ∃ rest, (summaryText quickStart examples entries).toList = '#' :: rest := by
  have opening (text : String) :
      ∃ rest, ("# Documentation\n\n[Quick Start](" ++ text).toList = '#' :: rest := by
    rw [String.toList_append]
    exact ⟨_, rfl⟩
  exact opening _

theorem Pages.exists_introduction : ∃ rest, introduction.toList = '#' :: rest := by
  have opening (text : String) : ∃ rest, ("# Enumerations\n" ++ text).toList = '#' :: rest := by
    rw [String.toList_append]
    exact ⟨_, rfl⟩
  rw [introduction, String.append_assoc]
  exact opening _

namespace Compiler

variable {c : Compiler} {t : FileTree}

/-- Without templates of a project the generated pages are the packaged ones. -/
theorem exists_packagedPages {b : Book} {pages : Document × Document}
    (generated : (c.generated t b).outcome = .ok pages) (packaged : c.templates = none) :
    ∃ examples, (Example.discover t c.directory c.examples).outcome = .ok examples ∧
      pages = Pages.packagedPages examples b.contentList := by
  obtain ⟨examples, discovered, -⟩ := Draft.bind_eq_ok_iff.mp generated
  have made := generated_of_discovered discovered packaged b
  exact ⟨examples, discovered, Except.ok.inj (generated.symm.trans made)⟩

namespace Accepted

variable {root : Node} {b : Book} (accepted : Accepted c t root b)

include accepted

theorem openPlainly_documents (packaged : c.templates = none) :
    ∀ d ∈ b.allDocuments, OpenPlainly d.lines := by
  obtain ⟨module, summary, index, found, generated, rfl⟩ := accepted
  obtain ⟨examples, -, pages⟩ := exists_packagedPages generated packaged
  obtain ⟨rfl, rfl⟩ := Prod.mk.inj pages
  intro d listed
  rw [(perm_allDocuments_bookOf ..).mem_iff, List.mem_append] at listed
  rcases listed with entity | generated
  · obtain ⟨node, -, rfl⟩ := List.mem_map.mp entity
    exact Entity.openPlainly_lines node
  · rcases List.mem_pair.mp generated with rfl | rfl
    · obtain ⟨rest, begins⟩ := Pages.exists_introduction
      exact Pages.openPlainly_page begins _ _
    · obtain ⟨rest, begins⟩ := Pages.exists_summaryText _ _ _
      exact Pages.openPlainly_page begins _ _

/-- No file of a book has front matter. -/
theorem block?_eq_none (packaged : c.templates = none) :
    ∀ file ∈ b.finalize.files, FrontMatter.block? (Text.withFeeds file.2) = none := by
  intro file listed
  rw [Book.files_eq] at listed
  obtain ⟨place, -, rfl⟩ := List.mem_map.mp listed
  refine FrontMatter.block?_eq_none ?_
  rw [Text.withFeeds, String.toList_ofList]
  refine FrontMatter.OpensPlainly.feeds (FrontMatter.OpenPlainly.joinLines ?_)
  intro text first
  obtain ⟨d, present, rfl⟩ := List.mem_map.mp (List.mem_of_mem_head? first)
  have linked := (List.mem_filter.mp present).1
  rw [Book.allDocuments_finalize accepted.finalized_eq] at linked
  obtain ⟨page, inBook, rfl⟩ := List.mem_map.mp linked
  have plain := accepted.openPlainly_documents packaged page inBook
  exact (Document.openPlainly_link plain _ _).joinLines

end Accepted

end Compiler

end Bindery
