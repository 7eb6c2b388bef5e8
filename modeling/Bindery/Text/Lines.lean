/-!
# Lines

Three notions of a line. Documents are joined and cut at line feeds alone; files are read with every
kind of line end turned into a line feed; front matter is cut at every line boundary of Unicode.

The statements relate cutting and joining at one separator: a join of pieces that do not hold the
separator is cut back into them, and joining the cut pieces gives the text.
-/

namespace Bindery.Text

/-! ## One separator -/

/-- Cuts the characters at each separator; there is always a first piece. -/
def cut (sep : Char) : List Char → List (List Char)
  | [] => [[]]
  | c :: rest =>
      if c = sep then [] :: cut sep rest
      else match cut sep rest with
        | [] => [[c]]
        | piece :: pieces => (c :: piece) :: pieces

/-- Joins pieces with the separator between them. -/
def glue (sep : Char) : List (List Char) → List Char
  | [] => []
  | [piece] => piece
  | piece :: next :: pieces => piece ++ sep :: glue sep (next :: pieces)

theorem cut_ne_nil (sep : Char) (cs : List Char) : cut sep cs ≠ [] := by
  cases cs with
  | nil => simp [cut]
  | cons c rest =>
      simp only [cut]
      split
      · simp
      · split <;> simp

theorem glue_cut (sep : Char) (cs : List Char) : glue sep (cut sep cs) = cs := by
  induction cs with
  | nil => rfl
  | cons c rest ih =>
      by_cases h : c = sep
      · cases hr : cut sep rest with
        | nil => exact absurd hr (cut_ne_nil sep rest)
        | cons piece pieces => simp [cut, h, glue, hr] at ih ⊢; exact ih
      · cases hr : cut sep rest with
        | nil => exact absurd hr (cut_ne_nil sep rest)
        | cons piece pieces =>
            cases pieces with
            | nil => simp [cut, h, glue, hr] at ih ⊢; exact ih
            | cons next more => simp [cut, h, glue, hr] at ih ⊢; exact ih

/-- The text cut at each occurrence of the separator. -/
def splitAt (sep : Char) (s : String) : List String := (cut sep s.toList).map String.ofList

/-- The texts joined by the separator. -/
def joinWith (sep : Char) (pieces : List String) : String :=
  String.ofList (glue sep (pieces.map String.toList))

/-- The text cut at its line feeds. -/
def lines (s : String) : List String := splitAt '\n' s

/-- The lines joined by line feeds. -/
def joinLines (ls : List String) : String := joinWith '\n' ls

theorem joinLines_lines (s : String) : joinLines (lines s) = s := by
  simp [joinLines, lines, joinWith, splitAt, Function.comp_def, glue_cut]

theorem joinLines_singleton (s : String) : joinLines [s] = s := by
  simp [joinLines, joinWith, glue]

/-- The text without line feeds at its end. -/
def dropFinalFeeds (s : String) : String :=
  String.ofList (s.toList.reverse.dropWhile (· = '\n')).reverse

theorem dropFinalFeeds_append_feed {s : String} (ends : s.toList.getLast? ≠ some '\n') :
    dropFinalFeeds (s ++ "\n") = s := by
  have kept : s.toList.reverse.dropWhile (· = '\n') = s.toList.reverse := by
    cases reversed : s.toList.reverse with
    | nil => rfl
    | cons c rest =>
        rw [List.getLast?_eq_head?_reverse, reversed, List.head?_cons, ne_eq, Option.some.injEq]
          at ends
        rw [List.dropWhile_cons_of_neg (by simpa using ends)]
  have feed : ("\n" : String).toList = ['\n'] := rfl
  rw [dropFinalFeeds, String.toList_append, feed, List.reverse_append, List.reverse_singleton,
    List.singleton_append, List.dropWhile_cons_of_pos (by simp), kept, List.reverse_reverse,
    String.ofList_toList]

/-! ## Every kind of line end -/

/-- Turns each carriage return, and each carriage return with its line feed, into a line feed. -/
def feeds : List Char → List Char
  | [] => []
  | '\r' :: '\n' :: rest => '\n' :: feeds rest
  | c :: rest => (if c = '\r' then '\n' else c) :: feeds rest

/-- The text with line feeds as its only line ends. -/
def withFeeds (s : String) : String := String.ofList (feeds s.toList)

/-- Is the character a line boundary? -/
def isBoundary (c : Char) : Bool :=
  (10 ≤ c.val && c.val ≤ 13) || (0x1C ≤ c.val && c.val ≤ 0x1E) || c.val == 0x85 ||
    c.val == 0x2028 || c.val == 0x2029

/-- Cuts at every line boundary. A boundary ends its line, so that a final one opens no new line. -/
def boundaryLines : List Char → List (List Char)
  | [] => []
  | '\r' :: '\n' :: rest => [] :: boundaryLines rest
  | c :: rest =>
      if isBoundary c then [] :: boundaryLines rest
      else match boundaryLines rest with
        | [] => [[c]]
        | line :: more => (c :: line) :: more

/-- The lines of a text, cut at every line boundary. -/
def splitLines (s : String) : List String := (boundaryLines s.toList).map String.ofList

end Bindery.Text
