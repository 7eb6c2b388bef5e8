import Bindery.Draft
import Bindery.Text.Blank
import Bindery.Yaml.Outline

/-!
# Front matter

A document may begin with a block of attributes between two fences. A fence is a line of three
hyphens with nothing but white space around them. Whatever follows the second fence has no effect.

A document without a block has no attributes, and neither has one whose block says something else
than a mapping. A block that cannot be read is reported and passed over.
-/

namespace Bindery.FrontMatter

/-- The part of the build that reads pages. -/
def component : String := "pages"

/-- Is the line a fence? -/
def isFence (line : String) : Bool := Text.strip line == "---"

/-- The lines up to the next fence, if there is one. -/
def upToFence : List String → Option (List String)
  | [] => none
  | line :: rest => if isFence line then some [] else (upToFence rest).map (line :: ·)

/-- The block between the fences. -/
def block? (text : String) : Option String :=
  match Text.splitLines text with
  | [] => none
  | first :: rest => if isFence first then (upToFence rest).map Text.joinLines else none

/-- The attributes of a document; `source` names it in the report. -/
def read (source text : String) : Draft (List (Value × Value)) :=
  match block? text with
  | none => return []
  | some block =>
      match Yaml.load block with
      | .ok (.map attributes) => return attributes
      | .ok _ => return []
      | .error .malformed => do
          Draft.log .warning component ("Ignoring unreadable front-matter in " ++ source)
          return []
      | .error (.fault cause) => Draft.fail cause

theorem upToFence_append {lines block : List String} (h : upToFence lines = some block)
    (more : List String) : upToFence (lines ++ more) = some block := by
  induction lines generalizing block with
  | nil => simp [upToFence] at h
  | cons line rest ih =>
      by_cases fence : isFence line
      · simp_all [upToFence]
      · simp only [upToFence, fence, Bool.false_eq_true, if_false, Option.map_eq_some_iff,
          List.cons_append] at h ⊢
        obtain ⟨inner, found, same⟩ := h
        exact ⟨inner, ih found, same⟩

end Bindery.FrontMatter
