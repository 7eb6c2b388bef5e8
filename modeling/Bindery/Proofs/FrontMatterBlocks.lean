import Bindery.FrontMatter
import Mathlib.Data.List.Basic

/-!
# Blocks of front matter

What is read from a document is told by the lines up to its second fence: whatever lines follow, be
they fences, broken YAML or other kinds of line breaks, change neither the attributes nor the log
nor a fault. Without two fences no block is loaded. Carriage returns before line feeds make no other
lines. Nothing of this hangs on how blocks are loaded, so that it is said of every loader.
-/

namespace Bindery

namespace Text

/-! ## Line ends of two characters -/

/-- The characters with a carriage return before each line feed. -/
def returnFeeds (cs : List Char) : List Char :=
  cs.flatMap fun c => if c = '\n' then ['\r', '\n'] else [c]

/-- The text with a carriage return before each line feed. -/
def withReturns (s : String) : String := String.ofList (returnFeeds s.toList)

theorem boundaryLines_returnFeeds {cs : List Char} (free : '\r' ∉ cs) :
    boundaryLines (returnFeeds cs) = boundaryLines cs := by
  induction cs with
  | nil => rfl
  | cons c rest ih =>
      obtain ⟨differs, restFree⟩ := not_or.mp (mt List.mem_cons.mpr free)
      have others := ih restFree
      by_cases feed : c = '\n'
      · -- The pair ends the line that the line feed ended alone.
        subst feed
        have split : returnFeeds ('\n' :: rest) = '\r' :: '\n' :: returnFeeds rest := rfl
        rw [split, boundaryLines, boundaryLines, others]
        · rfl
        · rintro more same -
          cases same
      · have kept : returnFeeds (c :: rest) = c :: returnFeeds rest := by
          simp [returnFeeds, feed]
        rw [kept, boundaryLines, boundaryLines, others]
        · rintro more rfl -
          exact differs rfl
        · rintro more rfl -
          exact differs rfl

/-- A carriage return before a line feed makes no other lines. -/
theorem splitLines_withReturns {s : String} (free : '\r' ∉ s.toList) :
    splitLines (withReturns s) = splitLines s := by
  rw [splitLines, withReturns, String.toList_ofList, boundaryLines_returnFeeds free, splitLines]

end Text

namespace FrontMatter

/-! ## Fences -/

/-- Does the text begin with a fence, the lines of a block and the next fence? -/
structure BeginsWith (opening : String) (block : List String) (closing text : String) : Prop where
  isFence_opening : isFence opening
  inside : ∀ line ∈ block, isFence line = false
  isFence_closing : isFence closing
  first : (opening :: block ++ [closing]) <+: Text.splitLines text

/-- Is there a fence in the first line and another one below it? -/
def hasFences (text : String) : Bool :=
  (Text.splitLines text).head?.any isFence && (Text.splitLines text).tail.any isFence

theorem upToFence_closing {block : List String} {closing : String}
    (inside : ∀ line ∈ block, isFence line = false) (fence : isFence closing) :
    upToFence (block ++ [closing]) = some block := by
  induction block with
  | nil => rw [List.nil_append, upToFence, if_pos fence]
  | cons line rest ih =>
      have others := ih fun other listed => inside other (List.mem_cons_of_mem _ listed)
      have noFence := inside line List.mem_cons_self
      rw [List.cons_append, upToFence, if_neg (by simp [noFence]), others, Option.map_some]

theorem upToFence_eq_none {lines : List String} (unfenced : lines.any isFence = false) :
    upToFence lines = none := by
  induction lines with
  | nil => rfl
  | cons line rest ih =>
      rw [List.any_cons, Bool.or_eq_false_iff] at unfenced
      rw [upToFence, if_neg (by simp [unfenced.1]), ih unfenced.2, Option.map_none]

/-- The block of a text is what its first lines say. -/
theorem BeginsWith.block?_eq {opening closing text : String} {block : List String}
    (begins : BeginsWith opening block closing text) :
    block? text = some (Text.joinLines block) := by
  obtain ⟨more, lines⟩ := begins.first
  have closed := upToFence_closing begins.inside begins.isFence_closing
  rw [block?, ← lines, List.append_assoc, List.cons_append]
  dsimp only
  rw [if_pos begins.isFence_opening, ← List.append_assoc, upToFence_append closed more,
    Option.map_some]

theorem block?_of_hasFences_eq_false {text : String} (unfenced : hasFences text = false) :
    block? text = none := by
  rw [hasFences] at unfenced
  rw [block?]
  cases lines : Text.splitLines text with
  | nil => rfl
  | cons first rest =>
      rw [lines, List.head?_cons, Option.any_some, List.tail_cons] at unfenced
      dsimp only
      split
      · next fence =>
          rw [fence, Bool.true_and] at unfenced
          rw [upToFence_eq_none unfenced, Option.map_none]
      · rfl

/-! ## Loaders -/

/-- Reads the attributes of a document where blocks are loaded in some way. -/
def readBy (load : String → Except Yaml.Failure Value) (source text : String) :
    Draft (List (Value × Value)) :=
  match block? text with
  | none => return []
  | some block =>
      match load block with
      | .ok (.map attributes) => return attributes
      | .ok _ => return []
      | .error .malformed => do
          Draft.log .warning component ("Ignoring unreadable front-matter in " ++ source)
          return []
      | .error (.fault cause) => Draft.fail cause

theorem readBy_congr {load : String → Except Yaml.Failure Value} {source text other : String}
    (same : block? text = block? other) : readBy load source text = readBy load source other := by
  rw [readBy, readBy, same]

/-- What is read from a document, its log and its fault depend on the lines up to the second fence
alone; without two fences nothing is loaded; and carriage returns before line feeds change
nothing. -/
theorem front_matter_depends_on_its_block (source : String) :
    read source = readBy Yaml.load source ∧
      ∀ load : String → Except Yaml.Failure Value,
        (∀ opening block closing text other,
          BeginsWith opening block closing text → BeginsWith opening block closing other →
            readBy load source text = readBy load source other) ∧
          (∀ text, hasFences text = false → readBy load source text = pure []) ∧
          ∀ text, '\r' ∉ text.toList →
            readBy load source (Text.withReturns text) = readBy load source text := by
  refine ⟨rfl, fun load => ⟨?_, ?_, ?_⟩⟩
  · intro opening block closing text other begins alsoBegins
    exact readBy_congr (begins.block?_eq.trans alsoBegins.block?_eq.symm)
  · intro text unfenced
    rw [readBy, block?_of_hasFences_eq_false unfenced]
  · intro text free
    have same : block? (Text.withReturns text) = block? text := by
      rw [block?, block?, Text.splitLines_withReturns free]
    exact readBy_congr same

/-- A page with a short body. -/
def loginPage : String := "---\ntitle: Login\n --- \n# Login\n"

/-- The same page with other line breaks, a third fence and broken YAML behind the second one. -/
def longLoginPage : String := "---\r\ntitle: Login\u2028 --- \x1c---\ntitle: [broken\n"

theorem loginPages_begin_alike :
    BeginsWith "---" ["title: Login"] " --- " loginPage ∧
      BeginsWith "---" ["title: Login"] " --- " longLoginPage := by
  refine ⟨⟨?_, ?_, ?_, ?_⟩, ?_, ?_, ?_, ?_⟩ <;> decide +kernel

/-- Both pages are read alike, also with carriage returns, and a page without a second fence has no
attributes. -/
theorem loginPages_read_alike :
    read "login.md" loginPage = read "login.md" longLoginPage ∧
      read "login.md" (Text.withReturns loginPage) = read "login.md" loginPage ∧
      read "login.md" "---\ntitle: Login\n" = pure [] := by
  obtain ⟨same, depends⟩ := front_matter_depends_on_its_block "login.md"
  obtain ⟨agree, unfenced, returns⟩ := depends Yaml.load
  rw [same]
  exact ⟨agree _ _ _ _ _ loginPages_begin_alike.1 loginPages_begin_alike.2,
    returns _ (by decide +kernel), unfenced _ (by decide +kernel)⟩

end FrontMatter

end Bindery
