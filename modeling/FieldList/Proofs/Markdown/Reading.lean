import FieldList.Proofs.Markdown.Widths
import Mathlib.Data.List.DropRight

/-!
# Reading a markdown table

A reader of the preview takes a pipe for a delimiter unless a backslash stands right before it. It
cuts each line at its delimiters, takes the space before a cell's text and the spaces after it off,
and reads `\|` as a pipe. `render_decodes` says that this gives the table back wherever there is a
preview: no cell adds a column or takes one away, and each cell is read as its own text, on one line
and without spaces at its end.

Whether a pipe is a delimiter depends on the character before it, so a text is cut from a state, the
character that it follows. An escaped cell has no delimiter from any state (`unbroken_escape`). It
can end in a backslash; a space follows it, and so the delimiter after it is one
(`cut_pipeLine`).
-/

namespace FieldList.Markdown

open Text

/-! ## Delimiters -/

/-- Whether a character delimits cells: it is a pipe, and not right after a backslash. -/
def isDelimiter (before : Option Char) (c : Char) : Bool := c = '|' && before != some '\\'

/-- The number of delimiters in a text that follows the character `before`. -/
def delimiters (before : Option Char) : List Char → Nat
  | [] => 0
  | c :: s => (if isDelimiter before c then 1 else 0) + delimiters (some c) s

/-- The pieces between the delimiters of a text that follows the character `before`. -/
def cut (before : Option Char) : List Char → List (List Char)
  | [] => [[]]
  | c :: s =>
    if isDelimiter before c then [] :: cut (some c) s
    else (cut (some c) s).modifyHead (c :: ·)

/-! ## Cells -/

/-- A text with the pipes for which `\|` stands. -/
def unescape : List Char → List Char
  | '\\' :: '|' :: s => '|' :: unescape s
  | c :: s => c :: unescape s
  | [] => []

def dropSpace : List Char → List Char
  | ' ' :: s => s
  | s => s

/-- The text of a cell: one space is taken off before it and all spaces after it. -/
def readCell (cell : List Char) : List Char := unescape ((dropSpace cell).rdropWhile (· = ' '))

/-- The texts of the cells of a line, which starts and ends with a delimiter. -/
def readRow (line : List Char) : List (List Char) := (cut none line).tail.dropLast.map readCell

/-- A line feed is shown as a space. -/
def flatten (c : Char) : Char := if c = '\n' then ' ' else c

/-- The text of a cell on one line, without spaces at its end. -/
def shown (s : String) : List Char := (s.toList.map flatten).rdropWhile (· = ' ')

/-- A line of seven cells, each between two delimiters. -/
structure SevenCells (line : List Char) : Prop where
  newline_notMem : '\n' ∉ line
  delimiters_eq : delimiters none line = 8
  starts : ∃ rest, line = '|' :: rest
  ends : ∃ rest c, c ≠ '\\' ∧ line = rest ++ [c, '|']
  cut_eq : ∃ cells, cells.length = 7 ∧ cut none line = [] :: cells ++ [[]]

/-! ## Cutting -/

variable {before : Option Char} {s : List Char}

lemma length_cut (before : Option Char) (s : List Char) :
    (cut before s).length = delimiters before s + 1 := by
  induction s generalizing before with
  | nil => rfl
  | cons c s ih =>
    rw [cut, delimiters]
    split
    · rw [List.length_cons, ih, Nat.add_comm 1]
    · rw [List.length_modifyHead, ih, Nat.zero_add]

/-- After a text that follows `c`, what comes next follows the last character of both. -/
lemma getLast?_or_some (before : Option Char) (c : Char) (s : List Char) :
    s.getLast?.or (some c) = (c :: s).getLast?.or before := by
  cases h : s.getLast? <;> simp [List.getLast?_cons, h]

lemma delimiters_append (before : Option Char) (s t : List Char) :
    delimiters before (s ++ t) = delimiters before s + delimiters (s.getLast?.or before) t := by
  induction s generalizing before with
  | nil => simp [delimiters]
  | cons c s ih =>
    rw [List.cons_append, delimiters, ih, getLast?_or_some before, delimiters, Nat.add_assoc]

/-- A text without delimiters stays in one piece, and the next piece starts with it. -/
lemma cut_append (h : delimiters before s = 0) (t : List Char) :
    cut before (s ++ t) = (cut (s.getLast?.or before) t).modifyHead (s ++ ·) := by
  induction s generalizing before with
  | nil =>
    rw [List.nil_append, List.getLast?_nil, Option.none_or]
    exact (congrFun List.modifyHead_id _).symm
  | cons c s ih =>
    rw [delimiters, Nat.add_eq_zero_iff] at h
    have hc : ¬ isDelimiter before c := by
      intro hdelimiter
      simp [hdelimiter] at h
    rw [List.cons_append, cut, if_neg hc, ih h.2, getLast?_or_some before,
      List.modifyHead_modifyHead]
    rfl

/-- A text that has no delimiter, whatever it follows. -/
def Unbroken (s : List Char) : Prop := ∀ before, delimiters before s = 0

lemma Unbroken.append {t : List Char} (hs : Unbroken s) (ht : Unbroken t) :
    Unbroken (s ++ t) := by
  intro before
  rw [delimiters_append, hs, ht]

lemma unbroken_of_notMem (h : '|' ∉ s) : Unbroken s := by
  induction s with
  | nil => exact fun before => rfl
  | cons c s ih =>
    rw [List.mem_cons, not_or] at h
    intro before
    have hc : isDelimiter before c = false := by
      simp [isDelimiter, Ne.symm h.1]
    rw [delimiters, hc, ih h.2]
    rfl

/-- A cell with the space before it and the one after it. -/
lemma unbroken_spaced (hs : Unbroken s) : Unbroken (' ' :: s ++ [' ']) :=
  ((unbroken_of_notMem (s := [' ']) (by decide)).append hs).append
    (unbroken_of_notMem (by decide))

lemma cut_cells {cells : List (List Char)} (h : ∀ cell ∈ cells, Unbroken cell) :
    cut (some '|') (cells.flatMap fun cell => ' ' :: cell ++ [' ', '|']) =
      (cells.map fun cell => ' ' :: cell ++ [' ']) ++ [[]] := by
  induction cells with
  | nil => rfl
  | cons cell cells ih =>
    have hcell : Unbroken (' ' :: cell ++ [' ']) := unbroken_spaced (h cell List.mem_cons_self)
    have hrest := ih fun other hother => h other (List.mem_cons_of_mem _ hother)
    have hsplit : (cell :: cells).flatMap (fun cell => ' ' :: cell ++ [' ', '|']) =
        (' ' :: cell ++ [' ']) ++
          '|' :: cells.flatMap fun cell => ' ' :: cell ++ [' ', '|'] := by
      simp
    -- The character before the pipe is the space after the cell.
    have hlast : (' ' :: cell ++ [' ']).getLast?.or (some '|') = some ' ' := by
      rw [List.getLast?_append]
      rfl
    have hpipe : isDelimiter (some ' ') '|' := by decide
    rw [hsplit, cut_append (hcell _), hlast, cut, if_pos hpipe, hrest]
    simp

/-- A line is cut into its cells, each with the spaces around it. -/
lemma cut_pipeLine {cells : List (List Char)} (h : ∀ cell ∈ cells, Unbroken cell) :
    cut none (pipeLine cells) = [] :: (cells.map fun cell => ' ' :: cell ++ [' ']) ++ [[]] := by
  have hpipe : isDelimiter none '|' := by decide
  rw [pipeLine, cut, if_pos hpipe, cut_cells h]
  rfl

lemma exists_pipeLine_eq_append {cells : List (List Char)} (h : cells ≠ []) :
    ∃ rest, pipeLine cells = rest ++ [' ', '|'] := by
  rcases List.eq_nil_or_concat cells with rfl | ⟨cells, cell, rfl⟩
  · exact absurd rfl h
  · refine ⟨'|' :: (cells.flatMap fun cell => ' ' :: cell ++ [' ', '|']) ++ ' ' :: cell, ?_⟩
    simp [pipeLine]

lemma sevenCells_pipeLine {cells : List (List Char)} (hlength : cells.length = 7)
    (hunbroken : ∀ cell ∈ cells, Unbroken cell) (hnewline : ∀ cell ∈ cells, '\n' ∉ cell) :
    SevenCells (pipeLine cells) where
  newline_notMem := by
    intro hmem
    simp only [pipeLine, List.mem_cons, List.mem_flatMap, List.mem_append] at hmem
    rcases hmem with heq | ⟨cell, hcell, (heq | hmem) | heq⟩
    · simp at heq
    · simp at heq
    · exact hnewline cell hcell hmem
    · simp at heq
  delimiters_eq := by
    have hpieces := length_cut none (pipeLine cells)
    rw [cut_pipeLine hunbroken] at hpieces
    simp only [List.cons_append, List.length_cons, List.length_append, List.length_map,
      List.length_nil, hlength] at hpieces
    omega
  starts := ⟨_, rfl⟩
  ends := by
    have hne : cells ≠ [] := by
      rintro rfl
      simp at hlength
    obtain ⟨rest, hrest⟩ := exists_pipeLine_eq_append hne
    exact ⟨rest, ' ', by decide, hrest⟩
  cut_eq := ⟨_, by simpa using hlength, cut_pipeLine hunbroken⟩

/-! ## Escaped cells -/

/-- A character as it is written in a cell. -/
def escapeChar (c : Char) : List Char :=
  if c = '|' then ['\\', '|'] else if c = '\n' then [' '] else [c]

lemma escape_eq (s : String) : escape s = s.toList.flatMap escapeChar := rfl

lemma length_escape_replicate {c : Char} (hpipe : c ≠ '|') (hnewline : c ≠ '\n') (n : Nat) :
    (escape (String.ofList (List.replicate n c))).length = n := by
  have hchar : escapeChar c = [c] := by rw [escapeChar, if_neg hpipe, if_neg hnewline]
  rw [escape_eq, String.toList_ofList, List.flatMap_replicate, hchar]
  simp

lemma unbroken_escapeChar (c : Char) : Unbroken (escapeChar c) := by
  unfold escapeChar
  split
  · -- The backslash is there before the pipe, whatever stands before the backslash.
    intro before
    rfl
  · next hpipe =>
    split
    · exact unbroken_of_notMem (by decide)
    · exact unbroken_of_notMem (by simp [Ne.symm hpipe])

lemma unbroken_escape (s : String) : Unbroken (escape s) := by
  rw [escape_eq]
  induction s.toList with
  | nil => exact fun before => rfl
  | cons c s ih =>
    rw [List.flatMap_cons]
    exact (unbroken_escapeChar c).append ih

lemma newline_notMem_escape (s : String) : '\n' ∉ escape s := by
  rw [escape_eq, List.mem_flatMap]
  rintro ⟨c, -, hc⟩
  unfold escapeChar at hc
  split at hc
  · simp at hc
  · split at hc
    · simp at hc
    · next hnewline =>
      rw [List.mem_singleton] at hc
      exact hnewline hc.symm

lemma escapeChar_flatten (c : Char) : escapeChar (flatten c) = escapeChar c := by
  by_cases hc : c = '\n'
  · rw [hc]
    rfl
  · rw [flatten, if_neg hc]

/-- No escaped text starts with a pipe. -/
lemma head?_flatMap_escapeChar (s : List Char) : (s.flatMap escapeChar).head? ≠ some '|' := by
  cases s with
  | nil => simp
  | cons c s =>
    rw [List.flatMap_cons, escapeChar]
    split
    · simp
    · next hpipe =>
      split
      · simp
      · simpa using hpipe

lemma unescape_cons {c : Char} (h : c = '\\' → s.head? ≠ some '|') :
    unescape (c :: s) = c :: unescape s := by
  by_cases hc : c = '\\'
  · subst hc
    cases s with
    | nil => rfl
    | cons d s =>
      have hd : d ≠ '|' := by simpa using h rfl
      simp [unescape, hd]
  · simp [unescape, hc]

/-- Each pipe of an escaped text has its own backslash, and no other backslash stands before a
pipe. -/
lemma unescape_flatMap_escapeChar (s : List Char) :
    unescape (s.flatMap escapeChar) = s.map flatten := by
  induction s with
  | nil => rfl
  | cons c s ih =>
    rw [List.flatMap_cons, List.map_cons, ← ih]
    by_cases hpipe : c = '|'
    · subst hpipe
      rfl
    · by_cases hnewline : c = '\n'
      · subst hnewline
        exact unescape_cons fun h => absurd h (by decide)
      · have hchar : escapeChar c = [c] := by rw [escapeChar, if_neg hpipe, if_neg hnewline]
        rw [hchar, flatten, if_neg hnewline]
        exact unescape_cons fun _ => head?_flatMap_escapeChar s

/-! ## Spaces at the end -/

lemma rdropWhile_append_spaces (s : List Char) (n : Nat) :
    (s ++ List.replicate n ' ').rdropWhile (· = ' ') = s.rdropWhile (· = ' ') := by
  induction n with
  | zero => simp
  | succ n ih =>
    rw [List.replicate_succ', ← List.append_assoc, List.rdropWhile_concat_pos _ _ _ (by simp), ih]

/-- An escaped text ends in the spaces, and the line feeds, in which the text ends. -/
lemma rdropWhile_flatMap_escapeChar (s : List Char) :
    (s.flatMap escapeChar).rdropWhile (· = ' ') =
      ((s.map flatten).rdropWhile (· = ' ')).flatMap escapeChar := by
  induction s using List.reverseRecOn with
  | nil => rfl
  | append_singleton s c ih =>
    rw [List.flatMap_append, List.flatMap_singleton, List.map_append, List.map_singleton]
    by_cases hspace : flatten c = ' '
    · have hchar : escapeChar c = [' '] := by
        rw [← escapeChar_flatten, hspace]
        rfl
      rw [hchar, hspace, List.rdropWhile_concat_pos _ _ _ (by simp),
        List.rdropWhile_concat_pos _ _ _ (by simp), ih]
    · have hsame : (s.map flatten ++ [flatten c]).flatMap escapeChar =
          s.flatMap escapeChar ++ escapeChar c := by
        simp [List.flatMap_map, escapeChar_flatten]
      have hlast : ∃ init d, d ≠ ' ' ∧ escapeChar c = init ++ [d] := by
        by_cases hpipe : c = '|'
        · exact ⟨['\\'], '|', by decide, by rw [hpipe]; rfl⟩
        · have hnewline : c ≠ '\n' := by
            rintro rfl
            exact hspace rfl
          rw [flatten, if_neg hnewline] at hspace
          exact ⟨[], c, hspace, by rw [escapeChar, if_neg hpipe, if_neg hnewline]; rfl⟩
      obtain ⟨init, d, hd, hchar⟩ := hlast
      rw [List.rdropWhile_concat_neg _ _ _ (by simpa using hspace), hsame, hchar,
        ← List.append_assoc, List.rdropWhile_concat_neg _ _ _ (by simpa using hd)]

lemma flatten_of_mem_shown {s : String} {c : Char} (h : c ∈ shown s) : flatten c = c := by
  have hmem : c ∈ s.toList.map flatten := (List.rdropWhile_prefix _ _).subset h
  obtain ⟨d, -, rfl⟩ := List.mem_map.mp hmem
  unfold flatten
  split <;> simp_all

/-- A cell of any width is read as its text. -/
lemma readCell_padRight (width : Nat) (s : String) :
    readCell (' ' :: padRight width (escape s) ++ [' ']) = shown s := by
  have hspaces : dropSpace (' ' :: padRight width (escape s) ++ [' ']) =
      escape s ++ List.replicate (width - (escape s).length + 1) ' ' := by
    rw [List.replicate_succ', padRight, ← List.append_assoc]
    rfl
  have hflat : (shown s).map flatten = shown s :=
    (List.map_congr_left fun c hc => flatten_of_mem_shown hc).trans (List.map_id _)
  rw [readCell, hspaces, rdropWhile_append_spaces, escape_eq, rdropWhile_flatMap_escapeChar,
    ← shown, unescape_flatMap_escapeChar, hflat]

/-! ## Lines of the table -/

lemma mem_zipWith_padRight {widths : List Nat} {cells : List String} {cell : List Char}
    (h : cell ∈ List.zipWith padRight widths (cells.map escape)) :
    ∃ width s, cell = padRight width (escape s) := by
  rw [List.zipWith_map_right, List.mem_iff_getElem] at h
  obtain ⟨i, hi, rfl⟩ := h
  rw [List.getElem_zipWith]
  exact ⟨_, _, rfl⟩

lemma unbroken_padRight (width : Nat) (s : String) : Unbroken (padRight width (escape s)) :=
  (unbroken_escape s).append (unbroken_of_notMem (by simp [List.mem_replicate]))

lemma newline_notMem_padRight (width : Nat) (s : String) :
    '\n' ∉ padRight width (escape s) := by
  simp [padRight, newline_notMem_escape, List.mem_replicate]

lemma sevenCells_filledLine {widths : List Nat} {cells : List String} (hwidths : widths.length = 7)
    (hcells : cells.length = 7) : SevenCells (filledLine widths cells) := by
  apply sevenCells_pipeLine
  · simp [hwidths, hcells]
  · intro cell hcell
    obtain ⟨width, s, rfl⟩ := mem_zipWith_padRight hcell
    exact unbroken_padRight width s
  · intro cell hcell
    obtain ⟨width, s, rfl⟩ := mem_zipWith_padRight hcell
    exact newline_notMem_padRight width s

lemma sevenCells_separatorLine {widths : List Nat} (hwidths : widths.length = 7) :
    SevenCells (separatorLine widths) := by
  apply sevenCells_pipeLine
  · simpa using hwidths
  · intro cell hcell
    obtain ⟨width, -, rfl⟩ := List.mem_map.mp hcell
    exact unbroken_of_notMem (by simp [List.mem_replicate])
  · intro cell hcell
    obtain ⟨width, -, rfl⟩ := List.mem_map.mp hcell
    simp [List.mem_replicate]

lemma map_readCell_zipWith {widths : List Nat} {cells : List String}
    (h : cells.length = widths.length) :
    ((List.zipWith padRight widths (cells.map escape)).map fun cell =>
      readCell (' ' :: cell ++ [' '])) = cells.map shown := by
  induction cells generalizing widths with
  | nil => simp
  | cons s cells ih =>
    cases widths with
    | nil => simp at h
    | cons width widths =>
      rw [List.map_cons, List.zipWith_cons_cons, List.map_cons, readCell_padRight,
        ih (by simpa using h), List.map_cons]

lemma readRow_filledLine {widths : List Nat} {cells : List String}
    (h : cells.length = widths.length) : readRow (filledLine widths cells) = cells.map shown := by
  have hunbroken : ∀ cell ∈ List.zipWith padRight widths (cells.map escape), Unbroken cell := by
    intro cell hcell
    obtain ⟨width, s, rfl⟩ := mem_zipWith_padRight hcell
    exact unbroken_padRight width s
  rw [readRow, filledLine, cut_pipeLine hunbroken, List.cons_append, List.tail_cons,
    List.dropLast_concat, List.map_map, ← map_readCell_zipWith h]
  rfl

/-- Every line of a table has seven cells. -/
lemma sevenCells_of_mem_filledLines {t : Table} {line : List Char} (h : line ∈ filledLines t) :
    SevenCells line := by
  have hwidths : (columnWidths t).length = 7 := rfl
  rcases List.mem_cons.mp h with rfl | h
  · exact sevenCells_filledLine hwidths rfl
  · rcases List.mem_cons.mp h with rfl | h
    · exact sevenCells_separatorLine hwidths
    · obtain ⟨r, -, rfl⟩ := List.mem_map.mp h
      exact sevenCells_filledLine hwidths rfl

/-- A text that decodes to a table. After the heading it has the line of the headers, a line that
separates it, and one line for each row. Each line has seven cells, and the cells of the headers and
of the rows are read as their texts. -/
def DecodesTo (s : String) (t : Table) : Prop :=
  ∃ header separator body,
    s.toList = "# ".toList ++ t.title.toList ++ "\n\n".toList ++
        unlines (header :: separator :: body) ∧
      body.length = t.rows.length ∧
      (∀ line ∈ header :: separator :: body, SevenCells line) ∧
      readRow header = Column.headers.map String.toList ∧
      body.map readRow = t.rows.map fun r => r.cells.map shown

/-- **The preview decodes to the table.** A table whose cells fit has a preview, and this decodes to
the table, whatever its title and its cells are. No other table has a preview. -/
theorem render_decodes (t : Table) :
    (Fits t → ∃ s, render t = .ok s ∧ DecodesTo s t) ∧
      (¬ Fits t → render t = .error outOfRange) := by
  have hcells : ∀ r : Row, r.cells.length = (columnWidths t).length := fun r => rfl
  have hheaders : Column.headers.map shown = Column.headers.map String.toList := by decide
  refine ⟨fun h => ⟨preview t, render_of_fits h, _, _, _, toList_preview t, List.length_map _,
    fun line => sevenCells_of_mem_filledLines, ?_, ?_⟩, render_of_not_fits⟩
  · rw [readRow_filledLine rfl, hheaders]
  · rw [List.map_map]
    exact List.map_congr_left fun r _ => readRow_filledLine (hcells r)

def longField (n : Nat) : Field :=
  ⟨"x", "String", String.ofList (List.replicate n 'a'), .optional⟩

/-- A description can be too long. -/
theorem render_decodes_not_long : ¬ ∀ t : Table, ∃ s, render t = .ok s ∧ DecodesTo s t := by
  intro h
  have hlong : ¬ Fits (Table.ofFields [longField 65536] "F") := by
    intro hfits
    have hcell := hfits.description List.mem_cons_self
    rw [longField, length_escape_replicate (by decide) (by decide)] at hcell
    exact absurd hcell (by decide)
  obtain ⟨s, hs, -⟩ := h (Table.ofFields [longField 65536] "F")
  rw [render_of_not_fits hlong] at hs
  cases hs

end FieldList.Markdown
