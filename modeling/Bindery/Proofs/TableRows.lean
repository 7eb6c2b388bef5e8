import Bindery.Proofs.Tracking

/-!
# Table rows that are read back

A row is cut at its bars, except where a backslash stands right before the bar. A cell has such a
backslash before each of its own bars and a blank at either end, so that the bars between cells are
the ones where a row is cut, whatever the cells hold: backslashes, bars, both, or nothing. What is
between them is the cell again, but for its line feeds, which have become blanks.
-/

namespace Bindery.Writer

/-! ## Reading rows -/

/-- Cuts the characters at each bar that has no backslash right before it; `previous` stands before
the first of them. -/
def cutAtBars (previous : Char) : List Char → List (List Char)
  | [] => [[]]
  | c :: rest =>
      if c = '|' ∧ previous ≠ '\\' then [] :: cutAtBars c rest
      else match cutAtBars c rest with
        | [] => [[c]]
        | piece :: pieces => (c :: piece) :: pieces

/-- Drops the blank at each end, which has to be there. -/
def unpad? : List Char → Option (List Char)
  | ' ' :: rest => if rest.getLast? = some ' ' then some rest.dropLast else none
  | _ => none

/-- Turns each backslash with a bar behind it into the bar. -/
def unescape : List Char → List Char
  | '\\' :: '|' :: rest => '|' :: unescape rest
  | c :: rest => c :: unescape rest
  | [] => []

/-- The cells of a text, if it is a row: nothing stands outside the first bar and the last one, and
the pieces between bars have a blank at each end. -/
def cells? (text : String) : Option (List String) :=
  match cutAtBars ' ' text.toList with
  | [] :: pieces =>
      if pieces.getLast? = some [] then
        (pieces.dropLast.mapM unpad?).map (List.map fun piece => String.ofList (unescape piece))
      else none
  | _ => none

/-- A text with blanks for its line feeds. -/
def unbroken (text : String) : String :=
  String.ofList (text.toList.map fun c => if c = '\n' then ' ' else c)

/-! ## Cells -/

theorem cellChar_of_ne {c : Char} (bar : c ≠ '|') (feed : c ≠ '\n') : cellChar c = [c] := by
  unfold cellChar
  split
  · exact absurd rfl bar
  · exact absurd rfl feed
  · rfl

/-- A cell does not begin with a bar, since a backslash stands before it. -/
theorem flatMap_cellChar_ne (cs rest : List Char) : cs.flatMap cellChar ≠ '|' :: rest := by
  intro same
  cases cs with
  | nil => cases same
  | cons c more =>
      by_cases bar : c = '|'
      · subst bar
        cases same
      · by_cases feed : c = '\n'
        · subst feed
          cases same
        · rw [List.flatMap_cons, cellChar_of_ne bar feed] at same
          exact bar (List.cons.inj same).1

theorem unescape_cons {c : Char} {rest : List Char}
    (plain : c = '\\' → ∀ more, rest ≠ '|' :: more) :
    unescape (c :: rest) = c :: unescape rest := by
  rw [unescape]
  rintro more rfl rfl
  exact plain rfl more rfl

theorem unescape_flatMap_cellChar (cs : List Char) :
    unescape (cs.flatMap cellChar) = cs.map fun c => if c = '\n' then ' ' else c := by
  induction cs with
  | nil => rfl
  | cons c rest ih =>
      rw [List.flatMap_cons, List.map_cons, ← ih]
      by_cases bar : c = '|'
      · subst bar
        rfl
      · by_cases feed : c = '\n'
        · subst feed
          exact unescape_cons nofun
        · rw [cellChar_of_ne bar feed, if_neg feed]
          exact unescape_cons fun _ => flatMap_cellChar_ne rest

theorem not_mem_flatMap_cellChar (cs : List Char) : '\n' ∉ cs.flatMap cellChar := by
  intro present
  obtain ⟨c, -, written⟩ := List.mem_flatMap.mp present
  unfold cellChar at written
  split at written
  · simp at written
  · simp at written
  · next feed => exact feed (List.mem_singleton.mp written).symm

/-! ## Rows -/

/-- What stands between two bars of a row. -/
def padded (cell : String) : List Char := ' ' :: (cell.toList.flatMap cellChar ++ [' '])

theorem unpad?_padded (cell : String) :
    unpad? (padded cell) = some (cell.toList.flatMap cellChar) := by
  rw [padded, unpad?, if_pos List.getLast?_concat, List.dropLast_concat]

/-- After the first bar every cell has the bar behind it. -/
theorem toList_row {cells : List String} (filled : cells ≠ []) :
    (row cells).toList = '|' :: cells.flatMap fun cell => padded cell ++ ['|'] := by
  have joined : ∀ cells : List String, cells ≠ [] →
      ' ' :: ((" | ".intercalate (cells.map cell)).toList ++ [' ', '|']) =
        cells.flatMap fun cell => padded cell ++ ['|'] := by
    intro cells filled
    induction cells with
    | nil => exact absurd rfl filled
    | cons first rest ih =>
        cases rest with
        | nil => simp [padded, cell]
        | cons second more =>
            rw [List.flatMap_cons, ← ih (List.cons_ne_nil _ _), List.map_cons, List.map_cons,
              String.intercalate_cons_cons]
            simp [padded, cell]
  have bar : (row cells).toList =
      '|' :: ' ' :: ((" | ".intercalate (cells.map cell)).toList ++ [' ', '|']) := by
    rw [row, String.toList_append, String.toList_append]
    rfl
  rw [bar, joined cells filled]

theorem cutAtBars_cons_of_ne {c : Char} (other : c ≠ '|') {previous : Char}
    {rest piece : List Char} {pieces : List (List Char)}
    (cut : cutAtBars c rest = piece :: pieces) :
    cutAtBars previous (c :: rest) = (c :: piece) :: pieces := by
  rw [cutAtBars, if_neg fun bar => other bar.1, cut]

/-- The bars of a cell do not cut it, and the one behind its blank does. -/
theorem cutAtBars_cell (cs : List Char) (previous : Char) (rest : List Char) :
    cutAtBars previous (cs.flatMap cellChar ++ ' ' :: '|' :: rest) =
      (cs.flatMap cellChar ++ [' ']) :: cutAtBars '|' rest := by
  induction cs generalizing previous with
  | nil =>
      have behind : cutAtBars ' ' ('|' :: rest) = [] :: cutAtBars '|' rest := by
        rw [cutAtBars, if_pos (by decide)]
      exact cutAtBars_cons_of_ne (by decide) behind
  | cons c more ih =>
      rw [List.flatMap_cons]
      by_cases bar : c = '|'
      · subst bar
        have kept : cutAtBars '\\' ('|' :: (more.flatMap cellChar ++ ' ' :: '|' :: rest)) =
            ('|' :: (more.flatMap cellChar ++ [' '])) :: cutAtBars '|' rest := by
          rw [cutAtBars, if_neg (by decide), ih]
        exact cutAtBars_cons_of_ne (by decide) kept
      · by_cases feed : c = '\n'
        · subst feed
          exact cutAtBars_cons_of_ne (by decide) (ih ' ')
        · rw [cellChar_of_ne bar feed]
          exact cutAtBars_cons_of_ne bar (ih c)

theorem cutAtBars_cells (cells : List String) :
    cutAtBars '|' (cells.flatMap fun cell => padded cell ++ ['|']) =
      cells.map padded ++ [[]] := by
  induction cells with
  | nil => rfl
  | cons cell rest ih =>
      have inner := cutAtBars_cell cell.toList ' ' (rest.flatMap fun cell => padded cell ++ ['|'])
      have cut := @cutAtBars_cons_of_ne ' ' (by decide) '|' _ _ _ inner
      rw [List.flatMap_cons, List.map_cons, List.cons_append, ← ih]
      simpa [padded] using cut

/-- A row is read back as its cells. -/
theorem cells?_row {cells : List String} (filled : cells ≠ []) :
    cells? (row cells) = some (cells.map unbroken) := by
  have cut : cutAtBars ' ' (row cells).toList = [] :: (cells.map padded ++ [[]]) := by
    rw [toList_row filled, ← cutAtBars_cells, cutAtBars, if_pos (by decide)]
  have inside : ∀ cells : List String, (cells.map padded).mapM unpad? =
      some (cells.map fun cell => cell.toList.flatMap cellChar) := by
    intro cells
    induction cells with
    | nil => rfl
    | cons cell rest ih =>
        rw [List.map_cons, List.mapM_cons, unpad?_padded, ih]
        rfl
  rw [cells?, cut]
  dsimp only
  rw [if_pos List.getLast?_concat, List.dropLast_concat, inside, Option.map_some, List.map_map]
  refine congrArg some (List.map_congr_left fun cell _ => ?_)
  rw [Function.comp_apply, unescape_flatMap_cellChar, unbroken]

/-- Is the text a row of the cells? It is one line, and is read back as them. -/
def IsRowOf (cells : List String) (text : String) : Prop :=
  '\n' ∉ text.toList ∧ cells? text = some (cells.map unbroken)

theorem isRowOf_row {cells : List String} (filled : cells ≠ []) : IsRowOf cells (row cells) := by
  refine ⟨fun present => ?_, cells?_row filled⟩
  rw [toList_row filled, List.mem_cons, List.mem_flatMap] at present
  rcases present with bar | ⟨cell, -, inside⟩
  · cases bar
  · have free := not_mem_flatMap_cellChar cell.toList
    simp [padded, free] at inside

/-! ## Tables -/

theorem lines_forEach_tableRow (rows : List (List String)) :
    (Draft.forEach tableRow rows).lines = rows.map fun cells => .verbatim (row cells) := by
  induction rows with
  | nil => rfl
  | cons cells rest ih => exact congrArg (.verbatim (row cells) :: ·) ih

/-- A table has its header, the row below it, and then its other rows. -/
theorem lines_table (header : List String) (rows : List (List String)) :
    (table (header :: rows)).lines =
      (header :: header.map (fun _ => "---") :: rows).map fun cells => .verbatim (row cells) := by
  show .verbatim (row header) :: .verbatim (row _) :: (Draft.forEach tableRow rows).lines = _
  rw [lines_forEach_tableRow]
  rfl

theorem forall₂_isRowOf_table {header : List String} {rows : List (List String)}
    (filled : ∀ cells ∈ header :: rows, cells ≠ []) :
    List.Forall₂ IsRowOf (header :: header.map (fun _ => "---") :: rows)
      ((table (header :: rows)).lines.map Line.text) := by
  have ruled : header.map (fun _ => "---") ≠ [] := by
    simpa using filled header List.mem_cons_self
  have each : ∀ cells ∈ header :: header.map (fun _ => "---") :: rows, cells ≠ [] := by
    rw [List.forall_mem_cons] at filled ⊢
    exact ⟨filled.1, List.forall_mem_cons.mpr ⟨ruled, filled.2⟩⟩
  rw [lines_table, List.map_map, List.forall₂_map_right_iff, List.forall₂_same]
  exact fun cells listed => isRowOf_row (each cells listed)

end Bindery.Writer

namespace Bindery.Entity

open Draft

/-! ## Rows of enumerations -/

/-- Has the line three columns? -/
def HasThreeColumns (l : Line) : Prop :=
  ∃ name value comment, Writer.IsRowOf [name, value, comment] l.text

/-- Every line of a class-like entity is scanned or has three columns. -/
theorem writesOnly_classLike (node : Node) :
    (classLike node).WritesOnly fun l => l.IsScanned ∨ HasThreeColumns l := by
  have three : ∀ name value comment,
      HasThreeColumns (.verbatim (Writer.row [name, value, comment])) :=
    fun name value comment => ⟨name, value, comment, Writer.isRowOf_row (List.cons_ne_nil _ _)⟩
  have left : (classLike node).LeavesOnly (fun l => l.IsScanned ∨ HasThreeColumns l)
      TypeText.logger :=
    leavesOnly_classLike (fun name value comment => .inr (three name value comment))
      (fun _ => .inl trivial) node
  exact left.lines

end Bindery.Entity

namespace Bindery.Writer

/-- A table is written with one line for each row and one more below its header. Each is a single
line, and cutting it at its bars gives the cells back, with blanks for their line feeds. So the rows
of an enumeration, which are the only lines of an entity that are not scanned, have three columns
whatever the members are called, are worth and are described with. -/
theorem table_rows_read_back {header : List String} {rows : List (List String)}
    (filled : ∀ cells ∈ header :: rows, cells ≠ []) :
    (table (header :: rows)).outcome = .ok () ∧
      List.Forall₂ IsRowOf (header :: header.map (fun _ => "---") :: rows)
        ((table (header :: rows)).lines.map Line.text) ∧
      ∀ n : Node, ∀ l ∈ (Entity.classLike n).lines, ¬ l.IsScanned →
        ∃ name value comment, IsRowOf [name, value, comment] l.text := by
  refine ⟨(endsAt_table _).outcome_eq_ok, forall₂_isRowOf_table filled, ?_⟩
  intro n l written unscanned
  exact (Entity.writesOnly_classLike n l written).resolve_left unscanned

/-- Cells that are empty, end in a backslash, or hold bars behind backslashes and line feeds. -/
def awkwardCells : List (List String) := [["", "\\"], ["\\|", "|\n\\\\|"], ["a", "b", "c"]]

theorem awkwardCells_read_back :
    (∀ cells ∈ ["|", "\n"] :: awkwardCells, cells ≠ []) ∧
      List.Forall₂ IsRowOf (["|", "\n"] :: ["---", "---"] :: awkwardCells)
        ["| \\| |   |", "| --- | --- |", "|  | \\ |", "| \\\\| | \\| \\\\\\| |", "| a | b | c |"] := by
  have filled : ∀ cells ∈ ["|", "\n"] :: awkwardCells, cells ≠ [] := by decide
  have written : (table (["|", "\n"] :: awkwardCells)).lines.map Line.text =
      ["| \\| |   |", "| --- | --- |", "|  | \\ |", "| \\\\| | \\| \\\\\\| |", "| a | b | c |"] := by
    decide +kernel
  exact ⟨filled, written ▸ (table_rows_read_back filled).2.1⟩

/-- A bar without a backslash in front of it would be taken for the end of a cell. -/
example : cells? "| a|b |" = none ∧ cells? "| a\\|b |" = some ["a|b"] := by decide +kernel

end Bindery.Writer
