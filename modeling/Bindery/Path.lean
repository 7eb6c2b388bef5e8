import Bindery.Text.Lines

/-!
# Paths

A path is an anchor followed by segments. Reading a path drops empty segments and single dots, and
keeps double dots; exactly two slashes at the start are an anchor of their own. Joining an anchored
path replaces what stands before it.

A link leads from one directory to another path: both are settled, and the segments that they share
are left out.
-/

namespace Bindery

/-- Where a path begins. -/
inductive Anchor where
  | relative
  | root
  /-- Two slashes. -/
  | doubleRoot
deriving DecidableEq, Repr, Inhabited

/-- A path by its segments. -/
structure Path where
  anchor : Anchor
  segments : List String
deriving DecidableEq, Repr, Inhabited

def Anchor.text : Anchor → String
  | relative => ""
  | root => "/"
  | doubleRoot => "//"

namespace Path

/-! ## Reading and writing -/

/-- Is the text a segment of a path? -/
def isSegment (s : String) : Bool := !s.isEmpty && s != "."

/-- The anchor of a written path. -/
def anchorOf : List Char → Anchor
  | '/' :: '/' :: '/' :: _ => .root
  | '/' :: '/' :: _ => .doubleRoot
  | '/' :: _ => .root
  | _ => .relative

/-- The path that a text writes down. -/
def ofString (s : String) : Path :=
  ⟨anchorOf s.toList, (Text.splitAt '/' s).filter isSegment⟩

/-- The written path; the path without segments is a dot. -/
def text (p : Path) : String :=
  match p.anchor, p.segments with
  | .relative, [] => "."
  | anchor, segments => anchor.text ++ Text.joinWith '/' segments

/-! ## Parts and joins -/

def isAbsolute (p : Path) : Bool := p.anchor != .relative

/-- The second path as seen from the first one. -/
def join (p q : Path) : Path :=
  match q.anchor with
  | .relative => ⟨p.anchor, p.segments ++ q.segments⟩
  | _ => q

instance : HDiv Path String Path := ⟨fun p s => p.join (ofString s)⟩

/-- The path without its last segment. -/
def parent (p : Path) : Path := { p with segments := p.segments.dropLast }

/-- The last segment. -/
def name (p : Path) : String := p.segments.getLast?.getD ""

/-- Does a segment hold the character that no file name holds? -/
def holdsNul (p : Path) : Bool := p.segments.any fun s => s.toList.contains '\x00'

/-! ## Settling -/

/-- Walks along segments: a double dot takes back the segment before it, and has no effect at the
root. `walked` are the segments behind, last first. -/
def settleFrom (walked : List String) : List String → List String
  | [] => walked.reverse
  | s :: rest =>
      if s = ".." then settleFrom walked.tail rest else settleFrom (s :: walked) rest

/-- The segments from the root without double dots. -/
def settle (segments : List String) : List String := settleFrom [] segments

/-- The path from the root without double dots; a relative path is taken from the directory. -/
def resolve (directory p : Path) : Path := ⟨.root, settle (directory.join p).segments⟩

theorem settleFrom_no_dots (walked segments : List String) (h : ".." ∉ walked) :
    ".." ∉ settleFrom walked segments := by
  induction segments generalizing walked with
  | nil => simpa [settleFrom] using h
  | cons s rest ih =>
      by_cases dots : s = ".."
      · simp only [settleFrom, dots, if_true]
        exact ih _ fun mem => h (List.mem_of_mem_tail mem)
      · simp only [settleFrom, dots, if_false]
        exact ih _ (by simp [h, Ne.symm dots])

theorem settle_no_dots (segments : List String) : ".." ∉ settle segments :=
  settleFrom_no_dots [] segments (by simp)

theorem settleFrom_of_no_dots (walked segments : List String) (h : ".." ∉ segments) :
    settleFrom walked segments = walked.reverse ++ segments := by
  induction segments generalizing walked with
  | nil => simp [settleFrom]
  | cons s rest ih =>
      simp only [List.mem_cons, not_or] at h
      simp [settleFrom, Ne.symm h.1, ih _ h.2]

theorem settleFrom_append (walked first second : List String) :
    settleFrom walked (first ++ second) = settleFrom (settleFrom walked first).reverse second := by
  induction first generalizing walked with
  | nil => simp [settleFrom]
  | cons s rest ih => simp only [List.cons_append, settleFrom]; split <;> exact ih _

/-! ## Links -/

/-- Drops what two lists of segments begin with in common. -/
def apart : List String → List String → List String × List String
  | a :: as, b :: bs => if a = b then apart as bs else (a :: as, b :: bs)
  | as, bs => (as, bs)

/-- The link from a directory to a path, both taken from the root where they are relative. -/
def linkFrom (directory target : Path) : Path :=
  let (up, down) := apart (settle directory.segments) (settle target.segments)
  ⟨.relative, up.map (fun _ => "..") ++ down⟩

end Path

end Bindery
