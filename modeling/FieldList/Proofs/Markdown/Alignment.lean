import FieldList.Proofs.Markdown.Reading
import Mathlib

/-!
# The columns of a markdown table

All lines of a table have one length, and the delimiters stand below each other. `render_aligned`
gives their places: a column is as wide as the longest of its written cells, or three characters if
none is longer, and takes three characters more for the spaces around it and the delimiter after
it. No cell sticks out, because the widths are taken from the cells as they are written, with their
escapes.

A line is put together from cells without delimiters of their own, so its delimiters stand where
the lengths of its cells say (`aligned_pipeLine`). What is left is that each cell is filled up to
the width of its column.
-/

namespace FieldList.Markdown

open Text

/-! ## Places -/

/-- The places of the delimiters in a text that follows the character `before`. -/
def delimiterPlaces (before : Option Char) : List Char → List Nat
  | [] => []
  | c :: s =>
    (if isDelimiter before c then [0] else []) ++ (delimiterPlaces (some c) s).map (· + 1)

/-- A line with columns of these widths. Its first delimiter stands at its start, each further one
behind a column and the two spaces around it, and the last one at its end. -/
structure Aligned (widths : List Nat) (line : List Char) : Prop where
  length_eq : line.length = (widths.map (· + 3)).sum + 1
  delimiterPlaces_eq : delimiterPlaces none line =
    widths.scanl (fun place width => place + width + 3) 0

variable {before : Option Char} {s : List Char}

lemma length_delimiterPlaces (before : Option Char) (s : List Char) :
    (delimiterPlaces before s).length = delimiters before s := by
  induction s generalizing before with
  | nil => rfl
  | cons c s ih =>
    rw [delimiterPlaces, delimiters, List.length_append, List.length_map, ih]
    split <;> rfl

lemma Unbroken.delimiterPlaces_eq (hs : Unbroken s) (before : Option Char) :
    delimiterPlaces before s = [] := by
  rw [← List.length_eq_zero_iff, length_delimiterPlaces, hs]

lemma delimiterPlaces_append (before : Option Char) (s t : List Char) :
    delimiterPlaces before (s ++ t) = delimiterPlaces before s ++
      (delimiterPlaces (s.getLast?.or before) t).map (· + s.length) := by
  induction s generalizing before with
  | nil => simp [delimiterPlaces]
  | cons c s ih =>
    rw [List.cons_append, delimiterPlaces, ih, getLast?_or_some before, delimiterPlaces,
      List.map_append, List.map_map, List.append_assoc, List.length_cons]
    congr 3

/-! ## Lines of cells -/

/-- From the delimiter at `place` on, each cell moves the next delimiter by its length and three. -/
lemma delimiterPlaces_cells {cells : List (List Char)} (h : ∀ cell ∈ cells, Unbroken cell)
    (place : Nat) :
    place :: (delimiterPlaces (some '|') (cells.flatMap fun cell => ' ' :: cell ++ [' ', '|'])).map
        (· + (place + 1)) =
      (cells.map List.length).scanl (fun place width => place + width + 3) place := by
  induction cells generalizing place with
  | nil => rfl
  | cons cell cells ih =>
    rw [List.forall_mem_cons] at h
    have hcell : Unbroken (' ' :: cell ++ [' ']) := unbroken_spaced h.1
    have hsplit : (cell :: cells).flatMap (fun cell => ' ' :: cell ++ [' ', '|']) =
        (' ' :: cell ++ [' ']) ++
          '|' :: cells.flatMap fun cell => ' ' :: cell ++ [' ', '|'] := by
      simp
    have hlast : (' ' :: cell ++ [' ']).getLast?.or (some '|') = some ' ' := by
      rw [List.getLast?_append]
      rfl
    have hpipe : isDelimiter (some ' ') '|' := by decide
    rw [hsplit, delimiterPlaces_append, hcell.delimiterPlaces_eq, hlast, delimiterPlaces,
      if_pos hpipe, List.map_cons, List.scanl_cons, ← ih h.2]
    simp [Function.comp_def, Nat.add_assoc, Nat.add_comm, Nat.add_left_comm]

/-- The lengths of its cells align a line. -/
lemma aligned_pipeLine {cells : List (List Char)} (h : ∀ cell ∈ cells, Unbroken cell) :
    Aligned (cells.map List.length) (pipeLine cells) where
  length_eq := by
    have hcell : ∀ cell : List Char, (' ' :: cell ++ [' ', '|']).length = cell.length + 3 := by
      simp
    rw [pipeLine, List.length_cons, List.length_flatMap, List.map_map]
    simp only [hcell, Function.comp_def]
  delimiterPlaces_eq := by
    have hpipe : isDelimiter none '|' := by decide
    rw [← delimiterPlaces_cells h, pipeLine, delimiterPlaces, if_pos hpipe]
    rfl

/-! ## Lines of the table -/

lemma length_padRight {width : Nat} (h : s.length ≤ width) : (padRight width s).length = width := by
  rw [padRight, List.length_append, List.length_replicate]
  omega

/-- The line of some texts, one for each column, which stand in their columns. -/
lemma aligned_filledLine {t : Table} {text : Column → String} (h : ∀ c, text c ∈ columnTexts t c) :
    Aligned (columnWidths t) (filledLine (columnWidths t) (Column.all.map text)) := by
  have hcells : List.zipWith padRight (columnWidths t) ((Column.all.map text).map escape) =
      Column.all.map fun c => padRight (columnWidth t c) (escape (text c)) := by
    rw [columnWidths, List.map_map, List.zipWith_map, List.zipWith_self]
    rfl
  have hwidths : columnWidths t =
      (Column.all.map fun c => padRight (columnWidth t c) (escape (text c))).map List.length := by
    rw [List.map_map, columnWidths]
    exact List.map_congr_left fun c _ => (length_padRight (length_escape_le (h c))).symm
  rw [filledLine, hcells]
  nth_rewrite 1 [hwidths]
  apply aligned_pipeLine
  intro cell hcell
  obtain ⟨c, -, rfl⟩ := List.mem_map.mp hcell
  exact unbroken_padRight _ _

lemma unbroken_dashes (width : Nat) : Unbroken (List.replicate width '-') :=
  unbroken_of_notMem (by simp [List.mem_replicate])

lemma aligned_separatorLine (widths : List Nat) : Aligned widths (separatorLine widths) := by
  have hwidths : (widths.map fun width => List.replicate width '-').map List.length = widths := by
    simp [Function.comp_def]
  have hdashes : ∀ cell ∈ widths.map fun width => List.replicate width '-', Unbroken cell := by
    simp [unbroken_dashes]
  have haligned := aligned_pipeLine hdashes
  rwa [hwidths] at haligned

lemma aligned_of_mem_filledLines {t : Table} {line : List Char} (h : line ∈ filledLines t) :
    Aligned (columnWidths t) line := by
  rcases List.mem_cons.mp h with rfl | h
  · exact aligned_filledLine fun c => List.mem_cons_self
  · rcases List.mem_cons.mp h with rfl | h
    · exact aligned_separatorLine _
    · obtain ⟨r, hr, rfl⟩ := List.mem_map.mp h
      exact aligned_filledLine fun c => List.mem_cons_of_mem _ (List.mem_map_of_mem hr)

lemma cut_separatorLine (widths : List Nat) :
    cut none (separatorLine widths) =
      [] :: (widths.map fun width => ' ' :: List.replicate width '-' ++ [' ']) ++ [[]] := by
  rw [separatorLine, cut_pipeLine (by simp [unbroken_dashes]), List.map_map]
  rfl

/-- A preview of a table whose columns stand straight and are no wider than they have to be. All
lines of the table have the places of their delimiters, and their length, from the widths of the
columns. A column is as wide as its longest written cell, header included, but has at least three
characters, and as many dashes in the line between headers and rows. -/
def StandsStraight (s : String) (t : Table) : Prop :=
  ∃ width : Column → Nat, ∃ header separator body,
    (∀ c, IsGreatest {n | n = 3 ∨ ∃ s ∈ columnTexts t c, n = (escape s).length} (width c)) ∧
      s.toList = "# ".toList ++ t.title.toList ++ "\n\n".toList ++
        unlines (header :: separator :: body) ∧
      body.length = t.rows.length ∧
      (∀ line ∈ header :: separator :: body,
        '\n' ∉ line ∧ Aligned (Column.all.map width) line) ∧
      cut none separator =
        [] :: (Column.all.map fun c => ' ' :: List.replicate (width c) '-' ++ [' ']) ++ [[]]

/-- **The columns of a preview stand straight.** A table whose cells fit has a preview, and its
columns are just as wide as their cells need. -/
theorem render_aligned {t : Table} (h : Fits t) : ∃ s, render t = .ok s ∧ StandsStraight s t := by
  refine ⟨preview t, render_of_fits h, columnWidth t, _, _, _, isGreatest_columnWidth t,
    toList_preview t, List.length_map _, fun line hline => ⟨?_, ?_⟩, ?_⟩
  · exact (sevenCells_of_mem_filledLines hline).newline_notMem
  · exact aligned_of_mem_filledLines hline
  · rw [cut_separatorLine, columnWidths, List.map_map]
    rfl

/-- An escaped pipe makes its column wider than the header. -/
theorem render_aligned_escaped :
    Fits (Table.ofFields [⟨"flag", "String", "yes|no", .optional⟩] "F") ∧
      ∃ s, render (Table.ofFields [⟨"flag", "String", "yes|no", .optional⟩] "F") = .ok s ∧
        StandsStraight s (Table.ofFields [⟨"flag", "String", "yes|no", .optional⟩] "F") := by
  have hfits : Fits (Table.ofFields [⟨"flag", "String", "yes|no", .optional⟩] "F") := by decide
  exact ⟨hfits, render_aligned hfits⟩

end FieldList.Markdown
