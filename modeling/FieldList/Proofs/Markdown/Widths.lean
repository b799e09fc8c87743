import FieldList.Markdown
import Mathlib

/-!
# The widths of a preview

A column is as wide as the longest of its written cells, or three characters if none is longer
(`isGreatest_columnWidth`). Cells are filled up to this width, and there is a limit to that. So a
table has a preview when it `Fits`, which means that none of its cells is written with more than
65535 characters (`render_of_fits`); any other makes the program panic (`render_of_not_fits`).

The headers always fit. But each cell is filled up to the width of its whole column, so one cell
that is too long shows already in the line of the headers, which is the first to be written.
-/

namespace FieldList.Markdown

open Text

/-! ## Widths -/

/-- The texts of a column from top to bottom. -/
def columnTexts (t : Table) (c : Column) : List String := c.header :: t.rows.map (·.cell c)

/-- No cell is written with more characters than a column can have. -/
def Fits (t : Table) : Prop := ∀ r ∈ t.rows, ∀ s ∈ r.cells, (escape s).length ≤ 65535

instance : DecidablePred Fits := fun t =>
  inferInstanceAs (Decidable (∀ r ∈ t.rows, ∀ s ∈ r.cells, (escape s).length ≤ 65535))

/-- A column is as wide as it has to be. -/
lemma isGreatest_columnWidth (t : Table) (c : Column) :
    IsGreatest {n | n = 3 ∨ ∃ s ∈ columnTexts t c, n = (escape s).length} (columnWidth t c) := by
  have hmax : (3 :: (columnTexts t c).map fun s => (escape s).length).max? =
      some (columnWidth t c) := List.max?_cons'
  obtain ⟨hmem, hle⟩ := List.max?_eq_some_iff.mp hmax
  have hset : ∀ n, n ∈ 3 :: (columnTexts t c).map (fun s => (escape s).length) ↔
      n ∈ {n | n = 3 ∨ ∃ s ∈ columnTexts t c, n = (escape s).length} := by
    simp [eq_comm]
  exact ⟨(hset _).mp hmem, fun n hn => hle n ((hset n).mpr hn)⟩

lemma length_escape_le {t : Table} {c : Column} {s : String} (h : s ∈ columnTexts t c) :
    (escape s).length ≤ columnWidth t c :=
  (isGreatest_columnWidth t c).2 (Or.inr ⟨s, h, rfl⟩)

lemma columnWidth_le_iff {t : Table} {c : Column} :
    columnWidth t c ≤ 65535 ↔ ∀ r ∈ t.rows, (escape (r.cell c)).length ≤ 65535 := by
  have hheader : (escape c.header).length ≤ 65535 := by cases c <;> decide
  rw [isLUB_le_iff (isGreatest_columnWidth t c).isLUB]
  constructor
  · intro h r hr
    exact h (Or.inr ⟨r.cell c, List.mem_cons_of_mem _ (List.mem_map_of_mem hr), rfl⟩)
  · rintro h n (rfl | ⟨s, hs, rfl⟩)
    · decide
    · rcases List.mem_cons.mp hs with rfl | hs
      · exact hheader
      · obtain ⟨r, hr, rfl⟩ := List.mem_map.mp hs
        exact h r hr

/-- The cells fit when all columns do. -/
lemma fits_iff {t : Table} : Fits t ↔ ∀ width ∈ columnWidths t, width ≤ 65535 := by
  simp only [Fits, columnWidths, Row.cells, List.forall_mem_map, columnWidth_le_iff]
  exact ⟨fun h c hc r hr => h r hr c hc, fun h r hr c hc => h c hc r hr⟩

/-- A description is a cell. -/
lemma Fits.description {fields : List Field} {label : String}
    (h : Fits (Table.ofFields fields label)) {f : Field} (hf : f ∈ fields) :
    (escape f.description).length ≤ 65535 := by
  obtain ⟨i, hi, rfl⟩ := List.mem_iff_getElem.mp hf
  have hrow : Row.ofField label (i + 1) fields[i] ∈ (Table.ofFields fields label).rows :=
    List.mem_mapIdx.mpr ⟨i, hi, rfl⟩
  have hcell : fields[i].description ∈ (Row.ofField label (i + 1) fields[i]).cells :=
    List.mem_map.mpr ⟨.description, by decide, rfl⟩
  exact h _ hrow _ hcell

/-! ## Lines within the limit -/

/-- A line of cells filled up to the widths, however great these are. -/
def filledLine (widths : List Nat) (cells : List String) : List Char :=
  pipeLine (List.zipWith padRight widths (cells.map escape))

/-- The lines of the table without the heading. -/
def filledLines (t : Table) : List (List Char) :=
  filledLine (columnWidths t) Column.headers :: separatorLine (columnWidths t) ::
    t.rows.map fun r => filledLine (columnWidths t) r.cells

/-- The heading with the title. -/
def headingLine (t : Table) : List Char := "# ".toList ++ t.title.toList

/-- The preview that a table has when its cells fit. -/
def preview (t : Table) : String :=
  String.ofList (headingLine t ++ "\n\n".toList ++ unlines (filledLines t))

variable {t : Table} {widths : List Nat} {cells : List String}

lemma toList_preview (t : Table) :
    (preview t).toList = headingLine t ++ "\n\n".toList ++ unlines (filledLines t) :=
  String.toList_ofList

/-- All cells are filled up, or the first of too great a width ends it. -/
lemma mapM_fill (cells : List (Nat × String)) :
    (cells.mapM fun cell => fill cell.1 (escape cell.2)) =
      if ∀ cell ∈ cells, cell.1 ≤ 65535 then
        .ok (cells.map fun cell => padRight cell.1 (escape cell.2))
      else .error outOfRange := by
  induction cells with
  | nil => rfl
  | cons cell cells ih =>
    have hcons : (∀ other ∈ cell :: cells, other.1 ≤ 65535) ↔
        cell.1 ≤ 65535 ∧ ∀ other ∈ cells, other.1 ≤ 65535 := List.forall_mem_cons
    rw [List.mapM_cons, ih, fill, maxWidth, if_congr hcons rfl rfl]
    by_cases hcell : cell.1 ≤ 65535
    · by_cases hcells : ∀ other ∈ cells, other.1 ≤ 65535
      · rw [if_pos hcell, if_pos hcells, if_pos ⟨hcell, hcells⟩]
        rfl
      · rw [if_pos hcell, if_neg hcells, if_neg (mt And.right hcells)]
        rfl
    · rw [if_neg hcell, if_neg (mt And.left hcell)]
      rfl

lemma rowLine_eq (h : cells.length = widths.length) :
    rowLine widths cells =
      if ∀ width ∈ widths, width ≤ 65535 then .ok (filledLine widths cells)
      else .error outOfRange := by
  have hwidths : (∀ cell ∈ widths.zip cells, cell.1 ≤ 65535) ↔
      ∀ width ∈ widths, width ≤ 65535 := by
    have hmap := List.forall_mem_map (f := Prod.fst) (l := widths.zip cells)
      (P := fun width => width ≤ 65535)
    rw [List.map_fst_zip h.ge] at hmap
    exact hmap.symm
  have hcells : (widths.zip cells).map (fun cell => padRight cell.1 (escape cell.2)) =
      List.zipWith padRight widths (cells.map escape) := by
    rw [List.zipWith_map_right, List.zip, List.map_zipWith]
  rw [rowLine, mapM_fill]
  by_cases hfits : ∀ width ∈ widths, width ≤ 65535
  · rw [if_pos hfits, if_pos (hwidths.mpr hfits), hcells]
    rfl
  · rw [if_neg hfits, if_neg (mt hwidths.mp hfits)]
    rfl

/-! ## Previews and panics -/

lemma render_of_fits (h : Fits t) : render t = .ok (preview t) := by
  have hline : ∀ cells : List String, cells.length = 7 →
      rowLine (columnWidths t) cells = .ok (filledLine (columnWidths t) cells) := by
    intro cells hcells
    rw [rowLine_eq hcells, if_pos (fits_iff.mp h)]
  have hrows : (t.rows.mapM fun r => rowLine (columnWidths t) r.cells) =
      .ok (t.rows.map fun r => filledLine (columnWidths t) r.cells) := by
    have hrow : (fun r : Row => rowLine (columnWidths t) r.cells) =
        fun r => .ok (filledLine (columnWidths t) r.cells) := funext fun r => hline r.cells rfl
    rw [hrow]
    exact List.mapM_pure
  have hlines : tableLines t = .ok (filledLines t) := by
    rw [tableLines, hline _ rfl, hrows]
    rfl
  rw [render, hlines]
  rfl

lemma render_of_not_fits (h : ¬ Fits t) : render t = .error outOfRange := by
  have hheader : rowLine (columnWidths t) Column.headers = .error outOfRange := by
    rw [rowLine_eq rfl, if_neg (mt fits_iff.mpr h)]
  have hlines : tableLines t = .error outOfRange := by
    rw [tableLines, hheader]
    rfl
  rw [render, hlines]
  rfl

end FieldList.Markdown
