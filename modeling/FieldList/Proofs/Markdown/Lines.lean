import FieldList.Proofs.Markdown.Reading
import FieldList.Source.Fields

/-!
# The lines of a markdown preview

A reader of markdown takes a line feed, a carriage return, or both in this order for the end of a
line. A preview is meant to have a heading, an empty line, and the lines of its table
(`intendedLines`), but it replaces line feeds only, and those of cells only. For each table that
has a preview, `render_lines` counts the lines that a reader finds, and says that they are the
intended ones exactly when the title has no line end and no cell has a carriage return. A line end
elsewhere adds a line, but for a carriage return at the end of the title, which becomes part of the
end of the heading.

A carriage return in a cell never meets a line feed, since a space and a pipe follow each cell. So
the lines of a table are cut at their carriage returns only (`markdownLines_unlines`).
-/

namespace FieldList.Markdown

open Text

/-! ## Lines of a text -/

/-- The lines of a markdown text, without their line ends. -/
def markdownLines : List Char → List (List Char)
  | [] => []
  | '\r' :: '\n' :: s => [] :: markdownLines s
  | '\r' :: s => [] :: markdownLines s
  | '\n' :: s => [] :: markdownLines s
  | c :: s =>
    match markdownLines s with
    | [] => [[c]]
    | line :: more => (c :: line) :: more

/-- A text without line ends. -/
def IsLine (s : List Char) : Prop := '\n' ∉ s ∧ '\r' ∉ s

variable {s t line : List Char} {c : Char}

/-- No line end is left in a line. -/
lemma isLine_of_mem_markdownLines (h : line ∈ markdownLines s) : IsLine line := by
  have hempty : IsLine [] := ⟨by simp, by simp⟩
  have hcons : ∀ {c : Char} {line : List Char}, c ≠ '\n' → c ≠ '\r' → IsLine line →
      IsLine (c :: line) := by
    intro c line hnewline hreturn hline
    exact ⟨by simp [hline.1, hnewline.symm], by simp [hline.2, hreturn.symm]⟩
  fun_induction markdownLines s generalizing line with
  | case1 => simp at h
  | case2 s ih => exact (List.mem_cons.mp h).elim (fun hline => hline ▸ hempty) ih
  | case3 s _ ih => exact (List.mem_cons.mp h).elim (fun hline => hline ▸ hempty) ih
  | case4 s ih => exact (List.mem_cons.mp h).elim (fun hline => hline ▸ hempty) ih
  | case5 c s _ hreturn hnewline _ _ =>
    rw [List.mem_singleton.mp h]
    exact hcons hnewline hreturn hempty
  | case6 c s _ hreturn hnewline first more hlines ih =>
    rw [hlines, List.forall_mem_cons] at ih
    rcases List.mem_cons.mp h with rfl | hmore
    · exact hcons hnewline hreturn ih.1
    · exact ih.2 line hmore

lemma markdownLines_ne_nil (hs : s ≠ []) : markdownLines s ≠ [] := by
  fun_cases markdownLines s with
  | case1 => exact absurd rfl hs
  | case2 => simp
  | case3 => simp
  | case4 => simp
  | case5 => simp
  | case6 => simp

/-- Before more text, a character that ends no line is put before the first line. -/
lemma markdownLines_cons (hnewline : c ≠ '\n') (hreturn : c ≠ '\r') (hs : s ≠ []) :
    markdownLines (c :: s) = (markdownLines s).modifyHead (c :: ·) := by
  obtain ⟨line, more, hlines⟩ := List.exists_cons_of_ne_nil (markdownLines_ne_nil hs)
  rw [markdownLines, hlines]
  · rfl
  all_goals simp_all

/-- A carriage return that no line feed follows ends a line by itself. -/
lemma markdownLines_return (hs : s.head? ≠ some '\n') :
    markdownLines ('\r' :: s) = [] :: markdownLines s := by
  rw [markdownLines]
  rintro s' rfl
  simp at hs

lemma modifyHead_append {α : Type} {l : List α} (hl : l ≠ []) (f : α → α) (l' : List α) :
    (l ++ l').modifyHead f = l.modifyHead f ++ l' := by
  obtain ⟨a, rest, rfl⟩ := List.exists_cons_of_ne_nil hl
  rfl

/-- A line feed ends a line, whatever stands before it. -/
lemma markdownLines_append_newline (s t : List Char) :
    markdownLines (s ++ '\n' :: t) = markdownLines (s ++ ['\n']) ++ markdownLines t := by
  have hcons : ∀ (c : Char) (s : List Char), c ≠ '\n' → c ≠ '\r' →
      markdownLines (s ++ '\n' :: t) = markdownLines (s ++ ['\n']) ++ markdownLines t →
      markdownLines (c :: s ++ '\n' :: t) =
        markdownLines (c :: s ++ ['\n']) ++ markdownLines t := by
    intro c s hnewline hreturn h
    have hne : markdownLines (s ++ ['\n']) ≠ [] := markdownLines_ne_nil (by simp)
    rw [List.cons_append, List.cons_append, markdownLines_cons hnewline hreturn (by simp),
      markdownLines_cons hnewline hreturn (by simp), h, modifyHead_append hne]
  -- Only a carriage return looks at what comes after it.
  fun_induction markdownLines s with
  | case1 => rfl
  | case2 s ih => exact congrArg ([] :: ·) ih
  | case3 s hs ih =>
    cases s with
    | nil => rfl
    | cons d s =>
      have hd : d ≠ '\n' := fun h => hs s (by rw [h])
      have hreturn : ∀ u,
          markdownLines ('\r' :: d :: (s ++ u)) = [] :: markdownLines (d :: (s ++ u)) :=
        fun u => markdownLines_return (by simpa using hd)
      calc markdownLines ('\r' :: d :: (s ++ '\n' :: t))
          = [] :: markdownLines (d :: (s ++ '\n' :: t)) := hreturn _
        _ = [] :: (markdownLines (d :: (s ++ ['\n'])) ++ markdownLines t) :=
          congrArg ([] :: ·) ih
        _ = markdownLines ('\r' :: d :: (s ++ ['\n'])) ++ markdownLines t := by
          rw [hreturn, List.cons_append]
  | case4 s ih => exact congrArg ([] :: ·) ih
  | case5 c s _ hreturn hnewline _ ih => exact hcons c s hnewline hreturn ih
  | case6 c s _ hreturn hnewline _ _ _ ih => exact hcons c s hnewline hreturn ih

/-- A line that is only cut at its carriage returns: it has no line feed, and its last carriage
return does not meet the line feed after it. -/
def EndsByItself (line : List Char) : Prop := '\n' ∉ line ∧ line.getLast? ≠ some '\r'

lemma IsLine.endsByItself (h : IsLine line) : EndsByItself line :=
  ⟨h.1, fun hlast => h.2 (List.mem_of_getLast? hlast)⟩

lemma markdownLines_line (h : EndsByItself line) :
    markdownLines (line ++ ['\n']) = line.splitOn '\r' := by
  obtain ⟨hnewline, hlast⟩ := h
  induction line with
  | nil => rfl
  | cons c line ih =>
    rw [List.mem_cons, not_or] at hnewline
    have hrest : line.getLast? ≠ some '\r' := by
      intro heq
      simp [List.getLast?_cons, heq] at hlast
    have ih := ih hnewline.2 hrest
    rw [List.cons_append, List.splitOn_cons_eq_if_modifyHead, ← ih]
    by_cases hc : c = '\r'
    · subst hc
      rw [if_pos (by rfl)]
      refine markdownLines_return ?_
      -- What follows the carriage return is a character of the line, so no line feed.
      cases line with
      | nil => exact absurd rfl hlast
      | cons d line =>
        have hd : d ≠ '\n' := by
          rintro rfl
          exact hnewline.2 List.mem_cons_self
        simpa using hd
    · rw [if_neg (by simpa using hc)]
      exact markdownLines_cons (Ne.symm hnewline.1) hc (by simp)

/-- Lines without line feeds at the ends of which no carriage return stands are only cut at their
carriage returns. -/
lemma markdownLines_unlines {ls : List (List Char)} (h : ∀ line ∈ ls, EndsByItself line) :
    markdownLines (unlines ls) = ls.flatMap (·.splitOn '\r') := by
  induction ls with
  | nil => rfl
  | cons line ls ih =>
    have hrest := ih fun other hother => h other (List.mem_cons_of_mem _ hother)
    rw [unlines_cons, markdownLines_append_newline, markdownLines_line (h line List.mem_cons_self),
      hrest, List.flatMap_cons]

lemma length_splitOn (c : Char) (s : List Char) : (s.splitOn c).length = s.count c + 1 := by
  induction s with
  | nil => rfl
  | cons d s ih =>
    rw [List.splitOn_cons_eq_if_modifyHead, List.count_cons]
    split
    · rw [List.length_cons, ih]
    · rw [List.length_modifyHead, ih, Nat.add_zero]

/-! ## Carriage returns of the table -/

/-- The number of carriage returns in the cells of the rows. -/
def returns (t : Table) : Nat :=
  (t.rows.flatMap fun r => r.cells.flatMap String.toList).count '\r'

lemma endsByItself_of_sevenCells (h : SevenCells line) : EndsByItself line := by
  obtain ⟨rest, c, -, hline⟩ := h.ends
  refine ⟨h.newline_notMem, ?_⟩
  rw [hline]
  simp

lemma count_return_pipeLine (cells : List (List Char)) :
    (pipeLine cells).count '\r' = cells.flatten.count '\r' := by
  rw [pipeLine, List.count_cons_of_ne (by decide), List.count_flatMap, List.count_flatten]
  simp [Function.comp_def]

lemma count_return_escape (s : String) : (escape s).count '\r' = s.toList.count '\r' := by
  rw [escape_eq]
  induction s.toList with
  | nil => rfl
  | cons c s ih =>
    have hchar : (escapeChar c).count '\r' = [c].count '\r' := by
      unfold escapeChar
      split
      · next hpipe => subst hpipe; rfl
      · split
        · next hnewline => subst hnewline; rfl
        · rfl
    rw [List.flatMap_cons, List.count_append, ih, hchar, ← List.count_append]
    rfl

lemma count_return_filledLine {widths : List Nat} {cells : List String}
    (h : cells.length = widths.length) :
    (filledLine widths cells).count '\r' = (cells.flatMap String.toList).count '\r' := by
  rw [filledLine, count_return_pipeLine]
  induction cells generalizing widths with
  | nil => simp
  | cons s cells ih =>
    obtain ⟨width, widths, rfl⟩ := List.exists_cons_of_length_eq_add_one h.symm
    have hpadded : (padRight width (escape s)).count '\r' = s.toList.count '\r' := by
      rw [padRight, List.count_append, count_return_escape, List.count_replicate]
      rfl
    rw [List.map_cons, List.zipWith_cons_cons, List.flatten_cons, List.count_append, hpadded,
      ih (by simpa using h), List.flatMap_cons, List.count_append]

/-- The headers and the separator have no carriage return, and the escaping and the padding of
cells add none. -/
lemma count_return_filledLines (t : Table) :
    (filledLines t).flatten.count '\r' = returns t := by
  have hlength : ∀ r : Row, r.cells.length = (columnWidths t).length := fun r => rfl
  have hheaders : (filledLine (columnWidths t) Column.headers).count '\r' = 0 := by
    rw [count_return_filledLine rfl]
    rfl
  have hseparator : (separatorLine (columnWidths t)).count '\r' = 0 := by
    rw [separatorLine, count_return_pipeLine, List.count_eq_zero]
    simp [List.mem_replicate]
  rw [filledLines, List.flatten_cons, List.flatten_cons, List.count_append, List.count_append,
    hheaders, hseparator, ← List.flatMap_def, Nat.zero_add, Nat.zero_add, returns,
    List.count_flatMap, List.count_flatMap, Function.comp_def, Function.comp_def]
  simp only [count_return_filledLine (hlength _)]

lemma length_flatMap_splitOn (ls : List (List Char)) :
    (ls.flatMap (·.splitOn '\r')).length = ls.length + ls.flatten.count '\r' := by
  induction ls with
  | nil => rfl
  | cons line ls ih =>
    rw [List.flatMap_cons, List.length_append, ih, length_splitOn, List.flatten_cons,
      List.count_append, List.length_cons]
    omega

lemma return_notMem_filledLines {t : Table} :
    (∀ line ∈ filledLines t, '\r' ∉ line) ↔
      ∀ r ∈ t.rows, ∀ cell ∈ r.cells, '\r' ∉ cell.toList := by
  have hlines : returns t = 0 ↔ ∀ line ∈ filledLines t, '\r' ∉ line := by
    simp [← count_return_filledLines, List.count_eq_zero]
  have hcells : returns t = 0 ↔ ∀ r ∈ t.rows, ∀ cell ∈ r.cells, '\r' ∉ cell.toList := by
    simp [returns, List.count_eq_zero]
  exact hlines.symm.trans hcells

/-! ## Lines of the preview -/

/-- The lines that a preview is meant to have. -/
def intendedLines (t : Table) : List (List Char) := headingLine t :: [] :: filledLines t

lemma isLine_headingLine {t : Table} : IsLine (headingLine t) ↔ IsLine t.title.toList := by
  simp [IsLine, headingLine]

/-- The pound sign and the space stand before the first line of the title. -/
lemma length_markdownLines_headingLine (t : Table) :
    (markdownLines (headingLine t ++ ['\n'])).length =
      (markdownLines (t.title.toList ++ ['\n'])).length := by
  have hsplit : headingLine t ++ ['\n'] = '#' :: ' ' :: (t.title.toList ++ ['\n']) := rfl
  rw [hsplit, markdownLines_cons (by decide) (by decide) (by simp), List.length_modifyHead,
    markdownLines_cons (by decide) (by decide) (by simp), List.length_modifyHead]

lemma markdownLines_preview (t : Table) :
    markdownLines (preview t).toList =
      markdownLines (headingLine t ++ ['\n']) ++
        [] :: (filledLines t).flatMap (·.splitOn '\r') := by
  have hbody : markdownLines ('\n' :: unlines (filledLines t)) =
      [] :: (filledLines t).flatMap (·.splitOn '\r') :=
    congrArg ([] :: ·) (markdownLines_unlines fun _ hline =>
      endsByItself_of_sevenCells (sevenCells_of_mem_filledLines hline))
  rw [toList_preview, List.append_assoc, ← hbody]
  exact markdownLines_append_newline (headingLine t) _

/-- The lines that a reader finds have no line ends, so intended lines that have some are not
found. -/
lemma isLine_of_markdownLines_preview {t : Table}
    (h : markdownLines (preview t).toList = intendedLines t) :
    IsLine t.title.toList ∧ ∀ r ∈ t.rows, ∀ cell ∈ r.cells, '\r' ∉ cell.toList := by
  have hline : ∀ line ∈ intendedLines t, IsLine line := by
    rw [← h]
    exact fun line => isLine_of_mem_markdownLines
  rw [intendedLines, List.forall_mem_cons, List.forall_mem_cons] at hline
  obtain ⟨hheading, -, htable⟩ := hline
  exact ⟨isLine_headingLine.mp hheading,
    return_notMem_filledLines.mp fun line hmem => (htable line hmem).2⟩

lemma markdownLines_preview_eq {t : Table} (htitle : IsLine t.title.toList)
    (hcells : ∀ r ∈ t.rows, ∀ cell ∈ r.cells, '\r' ∉ cell.toList) :
    markdownLines (preview t).toList = intendedLines t := by
  rw [← isLine_headingLine] at htitle
  rw [← return_notMem_filledLines] at hcells
  have hbody : (filledLines t).flatMap (·.splitOn '\r') = filledLines t := by
    rw [List.flatMap_def, List.map_congr_left fun line hline =>
      List.splitOn_eq_singleton (hcells line hline), ← List.flatMap_def, List.flatMap_singleton']
  rw [markdownLines_preview, markdownLines_line htitle.endsByItself,
    List.splitOn_eq_singleton htitle.2, hbody]
  rfl

lemma length_markdownLines_preview (t : Table) :
    (markdownLines (preview t).toList).length =
      (markdownLines (t.title.toList ++ ['\n'])).length + t.rows.length + 3 + returns t := by
  have hlines : (filledLines t).length = t.rows.length + 2 := by simp [filledLines]
  rw [markdownLines_preview, List.length_append, List.length_cons,
    length_markdownLines_headingLine, length_flatMap_splitOn, count_return_filledLines, hlines]
  omega

/-- **The lines of a preview.** There is one line for each line of the title as it is followed by
a line feed, the empty line, two lines for the head of the table, one for each row, and one more for
each carriage return in a cell. They are the intended lines exactly when the title has no line end
and no cell has a carriage return. Only a table whose cells fit has a preview. -/
theorem render_lines (t : Table) :
    (Fits t → ∃ s, render t = .ok s ∧
        (markdownLines s.toList).length =
          (markdownLines (t.title.toList ++ ['\n'])).length + t.rows.length + 3 + returns t ∧
        (markdownLines s.toList = intendedLines t ↔
          IsLine t.title.toList ∧ ∀ r ∈ t.rows, ∀ cell ∈ r.cells, '\r' ∉ cell.toList)) ∧
      (¬ Fits t → render t = .error outOfRange) := by
  refine ⟨fun h => ⟨preview t, render_of_fits h, length_markdownLines_preview t,
    isLine_of_markdownLines_preview, ?_⟩, render_of_not_fits⟩
  rintro ⟨htitle, hcells⟩
  exact markdownLines_preview_eq htitle hcells

/-- A description can bring a carriage return into a cell. -/
theorem render_lines_not_intended :
    ¬ ∀ t : Table, Fits t → ∃ s, render t = .ok s ∧ markdownLines s.toList = intendedLines t := by
  intro h
  have hfields : Source.parseFields "@Schema(description = \"a\rb\")\nprivate String x;" =
      [⟨"x", "String", "a\rb", .optional⟩] := by
    decide +kernel
  have hlines := h (Table.ofFields
    (Source.parseFields "@Schema(description = \"a\rb\")\nprivate String x;") "F")
  rw [hfields] at hlines
  have hfits : Fits (Table.ofFields [⟨"x", "String", "a\rb", .optional⟩] "F") := by decide
  obtain ⟨s, hs, hintended⟩ := hlines hfits
  obtain rfl : preview _ = s := Except.ok.inj ((render_of_fits hfits).symm.trans hs)
  have hcell := (isLine_of_markdownLines_preview hintended).2 _ List.mem_cons_self "a\rb"
    (by decide)
  exact hcell (by decide)

end FieldList.Markdown
