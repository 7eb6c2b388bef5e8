import Bindery.Path
import Mathlib.Data.List.Basic

/-!
# Written paths read back

The segments of a path that was read are filled, are no dots and hold no slash. Such a path is read
back from its text, with any anchor. A text that joins other pieces is read as its segments, too:
the pieces that are no segments are dropped.
-/

namespace Bindery

/-! ## Cutting what was joined -/

namespace Text

variable {sep : Char}

theorem cut_of_free {piece : List Char} (free : sep ∉ piece) : cut sep piece = [piece] := by
  induction piece with
  | nil => rfl
  | cons c rest ih =>
      rw [List.mem_cons, not_or] at free
      rw [cut, if_neg (Ne.symm free.1), ih free.2]

theorem cut_append_cons {piece : List Char} (free : sep ∉ piece) (rest : List Char) :
    cut sep (piece ++ sep :: rest) = piece :: cut sep rest := by
  induction piece with
  | nil => rw [List.nil_append, cut, if_pos rfl]
  | cons c more ih =>
      rw [List.mem_cons, not_or] at free
      rw [List.cons_append, cut, if_neg (Ne.symm free.1), ih free.2]

theorem cut_glue {pieces : List (List Char)} (filled : pieces ≠ [])
    (free : ∀ piece ∈ pieces, sep ∉ piece) : cut sep (glue sep pieces) = pieces := by
  induction pieces with
  | nil => exact absurd rfl filled
  | cons piece rest ih =>
      have first := free piece List.mem_cons_self
      cases rest with
      | nil => exact cut_of_free first
      | cons next more =>
          have others := ih (List.cons_ne_nil _ _) fun other later =>
            free other (List.mem_cons_of_mem _ later)
          rw [glue, cut_append_cons first, others]

theorem not_mem_of_mem_cut {cs piece : List Char} (listed : piece ∈ cut sep cs) : sep ∉ piece := by
  induction cs generalizing piece with
  | nil =>
      rw [List.mem_singleton.mp listed]
      exact List.not_mem_nil
  | cons c rest ih =>
      rw [cut] at listed
      split at listed
      · rcases List.mem_cons.mp listed with rfl | later
        · exact List.not_mem_nil
        · exact ih later
      · next differ =>
          split at listed
          · next empty => exact absurd empty (cut_ne_nil sep rest)
          · next first more pieces =>
              rw [pieces] at ih
              rcases List.mem_cons.mp listed with rfl | later
              · rw [List.mem_cons, not_or]
                exact ⟨Ne.symm differ, ih List.mem_cons_self⟩
              · exact ih (List.mem_cons_of_mem _ later)

theorem mem_glue {pieces : List (List Char)} {c : Char} (present : c ∈ glue sep pieces) :
    c = sep ∨ ∃ piece ∈ pieces, c ∈ piece := by
  induction pieces with
  | nil => cases present
  | cons piece rest ih =>
      cases rest with
      | nil => exact .inr ⟨piece, List.mem_cons_self, present⟩
      | cons next more =>
          rw [glue, List.mem_append, List.mem_cons] at present
          rcases present with inside | same | later
          · exact .inr ⟨piece, List.mem_cons_self, inside⟩
          · exact .inl same
          · rcases ih later with same | ⟨other, listed, inside⟩
            · exact .inl same
            · exact .inr ⟨other, List.mem_cons_of_mem _ listed, inside⟩

/-- A join may be taken apart inside a piece. -/
theorem glue_append_cons (before after : List (List Char)) (x y : List Char) :
    glue sep (before ++ (x ++ y) :: after) = glue sep (before ++ [x]) ++ glue sep (y :: after) := by
  induction before with
  | nil =>
      cases after with
      | nil => rfl
      | cons next more => simp [glue]
  | cons piece rest ih =>
      cases rest with
      | nil => simpa [glue] using ih
      | cons next more => simpa [glue] using ih

theorem splitAt_joinWith {pieces : List String} (filled : pieces ≠ [])
    (free : ∀ piece ∈ pieces, sep ∉ piece.toList) : splitAt sep (joinWith sep pieces) = pieces := by
  rw [splitAt, joinWith, String.toList_ofList,
    cut_glue (by simpa using filled) (by simpa using free), List.map_map]
  simp [Function.comp_def]

theorem joinWith_append_cons (before after : List String) (x y : String) :
    joinWith sep (before ++ (x ++ y) :: after) =
      joinWith sep (before ++ [x]) ++ joinWith sep (y :: after) := by
  simp [joinWith, ← String.ofList_append, glue_append_cons]

end Text

namespace Path

/-! ## Segments that were read -/

/-- Could the segments have been read from a text? -/
def AreRead (segments : List String) : Prop := ∀ s ∈ segments, isSegment s ∧ '/' ∉ s.toList

theorem areRead_ofString (s : String) : AreRead (ofString s).segments := by
  intro segment listed
  rw [ofString, List.mem_filter] at listed
  obtain ⟨piece, cut, rfl⟩ := List.mem_map.mp listed.1
  rw [String.toList_ofList]
  exact ⟨listed.2, Text.not_mem_of_mem_cut cut⟩

theorem AreRead.append {first second : List String} (one : AreRead first) (two : AreRead second) :
    AreRead (first ++ second) :=
  List.forall_mem_append.mpr ⟨one, two⟩

theorem AreRead.join {p q : Path} (first : AreRead p.segments) (second : AreRead q.segments) :
    AreRead (p.join q).segments := by
  rw [Path.join]
  split
  · exact first.append second
  · exact second

theorem AreRead.filter_eq {segments : List String} (read : AreRead segments) :
    segments.filter isSegment = segments :=
  List.filter_eq_self.mpr fun s listed => (read s listed).1

/-! ## Reading texts with an anchor -/

theorem anchorOf_append (anchor : Anchor) {cs : List Char} (opens : cs.head? ≠ some '/') :
    anchorOf (anchor.text.toList ++ cs) = anchor := by
  have named : ∀ {c rest}, cs = c :: rest → c ≠ '/' := by
    rintro c rest rfl rfl
    exact opens rfl
  cases anchor <;> cases cs with
  | nil => rfl
  | cons c rest => simp [Anchor.text, anchorOf, named rfl]

theorem filter_splitAt_append (anchor : Anchor) (s : String) :
    (Text.splitAt '/' (anchor.text ++ s)).filter isSegment =
      (Text.splitAt '/' s).filter isSegment := by
  cases anchor <;> simp [Anchor.text, Text.splitAt, Text.cut, isSegment]

/-- An anchor with joined pieces is read as the segments among the pieces. -/
theorem ofString_joinWith (anchor : Anchor) {pieces : List String} (filled : pieces ≠ [])
    (free : ∀ piece ∈ pieces, '/' ∉ piece.toList)
    (opens : ∀ next more, pieces ≠ "" :: next :: more) :
    ofString (anchor.text ++ Text.joinWith '/' pieces) = ⟨anchor, pieces.filter isSegment⟩ := by
  -- A slash in front of the pieces would be read as part of the anchor.
  have head : (Text.joinWith '/' pieces).toList.head? ≠ some '/' := by
    obtain ⟨first, rest, rfl⟩ := List.exists_cons_of_ne_nil filled
    have plain := free first List.mem_cons_self
    rw [Text.joinWith, String.toList_ofList, List.map_cons]
    cases cs : first.toList with
    | nil =>
        obtain rfl := String.toList_eq_nil_iff.mp cs
        cases rest with
        | nil =>
            intro slash
            cases slash
        | cons next more => exact absurd rfl (opens next more)
    | cons c more =>
        rw [cs, List.mem_cons, not_or] at plain
        have kept : (Text.glue '/' ((c :: more) :: rest.map String.toList)).head? = some c := by
          cases rest <;> rfl
        rw [kept]
        exact fun slash => plain.1 (Option.some.inj slash).symm
  rw [ofString, String.toList_append, anchorOf_append anchor head, filter_splitAt_append,
    Text.splitAt_joinWith filled free]

theorem text_of_cons (anchor : Anchor) (first : String) (rest : List String) :
    text ⟨anchor, first :: rest⟩ = anchor.text ++ Text.joinWith '/' (first :: rest) := by
  cases anchor <;> rfl

theorem text_of_absolute {p : Path} (absolute : p.isAbsolute) :
    p.text = p.anchor.text ++ Text.joinWith '/' p.segments := by
  obtain ⟨anchor, segments⟩ := p
  cases anchor with
  | relative => cases absolute
  | root => rfl
  | doubleRoot => rfl

theorem text_opens {p : Path} (absolute : p.isAbsolute) : ∃ rest, p.text.toList = '/' :: rest := by
  rw [text_of_absolute absolute, String.toList_append]
  cases anchor : p.anchor with
  | relative =>
      rw [isAbsolute, anchor] at absolute
      cases absolute
  | root => exact ⟨_, rfl⟩
  | doubleRoot => exact ⟨_, rfl⟩

theorem text_of_relative {segments : List String} (filled : segments ≠ []) :
    text ⟨.relative, segments⟩ = Text.joinWith '/' segments := by
  obtain ⟨first, rest, rfl⟩ := List.exists_cons_of_ne_nil filled
  rw [text_of_cons]
  exact String.empty_append

/-- A path that was read is read back from its text. -/
theorem ofString_text {p : Path} (read : AreRead p.segments) : ofString p.text = p := by
  obtain ⟨anchor, segments⟩ := p
  cases segments with
  | nil => cases anchor <;> decide
  | cons first rest =>
      rw [text_of_cons, ofString_joinWith anchor (List.cons_ne_nil _ _)
        (fun s listed => (read s listed).2), read.filter_eq]
      rintro next more same
      obtain ⟨rfl, -⟩ := List.cons.inj same
      have filled := (read "" List.mem_cons_self).1
      cases filled

end Path

end Bindery
