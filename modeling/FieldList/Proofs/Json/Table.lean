import FieldList.Format
import FieldList.Proofs.Json.Printing
import FieldList.Proofs.Json.Reading

/-!
# Tables in JSON texts

The JSON text of a table is of the grammar, whatever its title and its cells hold, and is read back
as the object of the table, which has the cells of each row in order (`tableObject`). So tables with
the same text are the same.

Its line feeds are those of its layout: how many there are depends on the number of rows alone
(`tableLines`).
-/

namespace FieldList.Json

/-! ## The object of a table -/

/-- The cells of a row from left to right, under the names of their columns. -/
def rowObject (r : Row) : Value :=
  .ofMembers (["sequence", "name", "type", "length", "requirement", "description", "note"].zip
    (r.cells.map .ofText))

def tableObject (t : Table) : Value :=
  .ofMembers [("title", .ofText t.title), ("rows", .array (t.rows.map rowObject))]

lemma toJson_eq_tableObject (t : Table) : t.toJson = tableObject t := rfl

lemma rowObject_injective : Function.Injective rowObject := by
  intro r s h
  have hcells : r.sequence = s.sequence ∧ r.name = s.name ∧ r.dataType = s.dataType ∧
      r.length = s.length ∧ r.requirement = s.requirement ∧ r.description = s.description ∧
      r.note = s.note := by
    simpa [rowObject, Value.ofMembers, Value.ofText, Row.cells, Column.all, Row.cell] using h
  obtain ⟨h1, h2, h3, h4, h5, h6, h7⟩ := hcells
  cases r
  cases s
  simp_all

lemma tableObject_injective : Function.Injective tableObject := by
  intro t u h
  have hparts : t.title = u.title ∧ t.rows.map rowObject = u.rows.map rowObject := by
    simpa [tableObject, Value.ofMembers, Value.ofText] using h
  obtain ⟨htitle, hrows⟩ := hparts
  have hrows : t.rows = u.rows := List.map_injective_iff.mpr rowObject_injective hrows
  cases t
  cases u
  simp_all

lemma written_rowObject {layout : Layout} (hlayout : layout.IsBlank) (r : Row) :
    Written layout (rowObject r) := by
  apply written_ofMembers hlayout
  intro m hm
  obtain ⟨s, -, hs⟩ := List.mem_map.mp (List.of_mem_zip hm).2
  rw [← hs]
  exact written_ofText s

lemma written_tableObject {layout : Layout} (hlayout : layout.IsBlank) (t : Table) :
    Written layout (tableObject t) := by
  have hrows : Written layout (.array (t.rows.map rowObject)) := by
    apply written_array hlayout
    intro v hv
    obtain ⟨r, -, rfl⟩ := List.mem_map.mp hv
    exact written_rowObject hlayout r
  apply written_ofMembers hlayout
  simp [written_ofText, hrows]

/-! ## Line feeds -/

/-- The line feeds between the lines of a table: nine for each row, if there are any. -/
def tableLines (t : Table) : ℕ := if t.rows = [] then 3 else 9 * t.rows.length + 4

lemma count_writeText (s : String) : (writeText s).count '\n' = 0 := by
  rw [List.count_eq_zero]
  intro hmem
  have hle := (quotes_writeText s).le_toNat '\n' hmem
  exact absurd hle (by decide)

lemma count_write_ofText (s : String) (level : ℕ) :
    ((Value.ofText s).write .indented level).count '\n' = 0 := count_writeText s

lemma count_lineBreak (level : ℕ) : (Layout.indented.lineBreak level).count '\n' = 1 := by
  simp [Layout.indented, List.count_replicate]

lemma count_afterKey : Layout.indented.afterKey.count '\n' = 0 := by
  simp [Layout.indented]

lemma count_writeItems {vs : List Value} {k level : ℕ}
    (h : ∀ v ∈ vs, (v.write .indented level).count '\n' = k) :
    (writeItems .indented level vs).count '\n' = vs.length * (k + 1) := by
  induction vs with
  | nil => simp [writeItems]
  | cons v vs ih =>
    obtain ⟨hv, hvs⟩ := List.forall_mem_cons.mp h
    simp [writeItems, count_lineBreak, hv, ih hvs]
    ring

lemma count_write_rowObject (r : Row) (level : ℕ) :
    ((rowObject r).write .indented level).count '\n' = 8 := by
  simp [rowObject, Row.cells, Column.all, Value.ofMembers, Value.write, writeMembers,
    writeString_some, count_writeText, count_write_ofText, count_lineBreak, count_afterKey]

lemma count_write_tableObject (t : Table) :
    ((tableObject t).write .indented 0).count '\n' = tableLines t := by
  have hitems : ∀ rows : List Row, (writeItems .indented 2 (rows.map rowObject)).count '\n' =
      rows.length * 9 := by
    intro rows
    rw [count_writeItems (k := 8) (by simp [count_write_rowObject]), List.length_map]
  cases hrows : t.rows with
  | nil =>
    simp [tableObject, tableLines, hrows, Value.ofMembers, Value.write, writeMembers,
      writeString_some, count_writeText, count_write_ofText, count_lineBreak, count_afterKey]
  | cons r rows =>
    simp [tableObject, tableLines, hrows, Value.ofMembers, Value.write, writeMembers,
      writeString_some, count_writeText, count_write_ofText, count_lineBreak, count_afterKey,
      hitems, count_write_rowObject]
    omega

/-! ## The text of a table -/

/-- The text is of the grammar and is read as the object of the table, and no character in it
stands below the space but the line feeds of its layout. -/
structure Encodes (t : Table) (text : String) : Prop where
  isText : IsText (tableObject t) text
  read_eq : read text = some (tableObject t)
  lined : Lined text.toList
  count_newline : text.toList.count '\n' = tableLines t

lemma encodes_pretty (t : Table) : Encodes t t.toJson.pretty := by
  have hwritten := written_tableObject Layout.isBlank_indented t
  rw [toJson_eq_tableObject]
  exact {
    isText := hwritten.isText
    read_eq := read_of_isText hwritten.isText
    lined := by simpa [Value.pretty] using hwritten.lined 0
    count_newline := by simpa [Value.pretty] using count_write_tableObject t }

/-- Every table has a JSON text that encodes it, and no two tables have the same. -/
theorem serialize_json_encodes :
    (∀ t, ∃ text, Format.json.serialize t = .ok (.text text) ∧ Encodes t text) ∧
      Function.Injective Format.json.serialize := by
  refine ⟨fun t => ⟨t.toJson.pretty, rfl, encodes_pretty t⟩, ?_⟩
  intro t u h
  have htext : t.toJson.pretty = u.toJson.pretty := by
    injection h with h
    injection h
  have hobject : some (tableObject t) = some (tableObject u) := by
    rw [← (encodes_pretty t).read_eq, ← (encodes_pretty u).read_eq, htext]
  exact tableObject_injective (Option.some.inj hobject)

example : (Table.mk "a \"b\"\n" []).toJson.pretty =
    "\x7b\n  \"title\": \"a \\\"b\\\"\\n\",\n  \"rows\": []\n\x7d" := by decide

end FieldList.Json
