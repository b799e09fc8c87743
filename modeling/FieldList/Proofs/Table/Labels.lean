import FieldList.Table
import Mathlib.Data.List.Basic

/-!
# The labels of rows

The number of a row is the label of its table, a dot, and its place. A label can be any text, also
one that ends in dots and digits; it is told from the place all the same, because a place has no dot
(`label_place_inj`). So the numbers tell the rows of tables apart, and with the other cells a table
holds all that it was made of: `ofFields_inj` says that its rows determine the fields, and the label
unless there are no rows.
-/

namespace FieldList

/-! ## Numbers -/

/-- The last place of a character cuts a text in one way. -/
lemma append_cons_inj_of_notMem_right {α : Type} {a : α} {s s' t t' : List α} (ht : a ∉ t)
    (ht' : a ∉ t') (h : s ++ a :: t = s' ++ a :: t') : s = s' ∧ t = t' := by
  rcases List.append_eq_append_iff.mp h with ⟨m, rfl, hm⟩ | ⟨m, rfl, hm⟩
  · cases m with
    | nil => simpa using hm
    | cons b m =>
      obtain ⟨rfl, rfl⟩ : a = b ∧ t = m ++ a :: t' := by simpa using hm
      simp at ht
  · cases m with
    | nil => simpa [eq_comm] using hm
    | cons b m =>
      obtain ⟨rfl, rfl⟩ : a = b ∧ t' = m ++ a :: t := by simpa using hm
      simp at ht'

lemma dot_notMem_repr (n : ℕ) : '.' ∉ n.repr.toList := by
  intro hdot
  rw [Nat.toList_repr] at hdot
  have hdigit := Nat.isDigit_of_mem_toDigits (by decide) (by decide) hdot
  exact absurd hdigit (by decide)

/-- Places are written differently. -/
lemma repr_inj {m n : ℕ} (h : m.repr.toList = n.repr.toList) : m = n := by
  rw [Nat.toList_repr, Nat.toList_repr] at h
  calc m = Nat.ofDigitChars 10 (Nat.toDigits 10 m) 0 := Nat.ofDigitChars_ten_toDigits.symm
    _ = Nat.ofDigitChars 10 (Nat.toDigits 10 n) 0 := by rw [h]
    _ = n := Nat.ofDigitChars_ten_toDigits

lemma label_place_inj {label label' : String} {m n : ℕ}
    (h : label ++ "." ++ m.repr = label' ++ "." ++ n.repr) : label = label' ∧ m = n := by
  have hchars : label.toList ++ '.' :: m.repr.toList = label'.toList ++ '.' :: n.repr.toList := by
    simpa using congrArg String.toList h
  obtain ⟨hlabel, hplace⟩ :=
    append_cons_inj_of_notMem_right (dot_notMem_repr m) (dot_notMem_repr n) hchars
  exact ⟨String.toList_injective hlabel, repr_inj hplace⟩

/-! ## Rows -/

lemma Requirement.marker_injective : Function.Injective Requirement.marker := by
  intro r s h
  cases r <;> cases s <;> first | rfl | exact absurd h (by decide)

/-- A row holds the label, the place and the field. -/
lemma Row.ofField_inj {label label' : String} {m n : ℕ} {field field' : Field}
    (h : Row.ofField label m field = Row.ofField label' n field') :
    label = label' ∧ m = n ∧ field = field' := by
  obtain ⟨hlabel, hplace⟩ := label_place_inj (congrArg Row.sequence h)
  have hname : field.name = field'.name := congrArg Row.name h
  have hdataType : field.dataType = field'.dataType := congrArg Row.dataType h
  have hdescription : field.description = field'.description := congrArg Row.description h
  have hrequirement : field.requirement = field'.requirement :=
    Requirement.marker_injective (congrArg Row.requirement h)
  refine ⟨hlabel, hplace, ?_⟩
  cases field
  cases field'
  simp_all

namespace Table

lemma getElem?_rows_ofFields (fields : List Field) (label : String) (i : ℕ) :
    (ofFields fields label).rows[i]? = fields[i]?.map (Row.ofField label (i + 1)) :=
  List.getElem?_mapIdx

/-- Rows at the same place are made of the same field, with the same label. -/
lemma eq_of_map_ofField_eq {label label' : String} {place : ℕ} {field? field?' : Option Field}
    (h : field?.map (Row.ofField label place) = field?'.map (Row.ofField label' place)) :
    field? = field?' ∧ (field? ≠ none → label = label') := by
  cases field? with
  | none =>
    rw [Option.map_none, eq_comm, Option.map_eq_none_iff] at h
    exact ⟨h.symm, fun hne => absurd rfl hne⟩
  | some field =>
    obtain ⟨field', rfl, hrow⟩ := Option.map_eq_some_iff.mp h.symm
    obtain ⟨hlabel, -, hfield⟩ := Row.ofField_inj hrow
    exact ⟨by rw [hfield], fun _ => hlabel.symm⟩

lemma eq_of_rows_eq {fields fields' : List Field} {label label' : String}
    (h : (ofFields fields label).rows = (ofFields fields' label').rows) :
    fields = fields' ∧ (fields ≠ [] → label = label') := by
  have hplace : ∀ i : ℕ, fields[i]? = fields'[i]? ∧ (fields[i]? ≠ none → label = label') := by
    intro i
    have hrow : fields[i]?.map (Row.ofField label (i + 1)) =
        fields'[i]?.map (Row.ofField label' (i + 1)) := by
      rw [← getElem?_rows_ofFields, h, getElem?_rows_ofFields]
    exact eq_of_map_ofField_eq hrow
  refine ⟨List.ext_getElem? fun i => (hplace i).1, fun hne => (hplace 0).2 ?_⟩
  simpa [List.getElem?_eq_none_iff] using hne

/-- **A table loses nothing of its fields, and its labels tell rows apart.** Two rows, of one table
or of two, have the same number exactly when they stand at the same place under the same label.
Two tables have the same rows exactly when they are made of the same fields, under the same label if
there are any. -/
theorem ofFields_inj (fields fields' : List Field) (label label' : String) :
    (∀ (i j : ℕ) (row row' : Row), (ofFields fields label).rows[i]? = some row →
        (ofFields fields' label').rows[j]? = some row' →
          (row.sequence = row'.sequence ↔ label = label' ∧ i = j)) ∧
      ((ofFields fields label).rows = (ofFields fields' label').rows ↔
        fields = fields' ∧ (fields ≠ [] → label = label')) := by
  refine ⟨?_, eq_of_rows_eq, ?_⟩
  · intro i j row row' hrow hrow'
    rw [getElem?_rows_ofFields] at hrow hrow'
    obtain ⟨field, -, rfl⟩ := Option.map_eq_some_iff.mp hrow
    obtain ⟨field', -, rfl⟩ := Option.map_eq_some_iff.mp hrow'
    constructor
    · intro h
      obtain ⟨hlabel, hplace⟩ := label_place_inj h
      exact ⟨hlabel, Nat.succ.inj hplace⟩
    · rintro ⟨rfl, rfl⟩
      rfl
  · rintro ⟨rfl, hlabel⟩
    cases fields with
    | nil => rfl
    | cons field fields => rw [hlabel (List.cons_ne_nil field fields)]

/-- The first row under the label `1.1` and the eleventh under the label `1` have different
numbers. -/
theorem ofFields_inj_dotted :
    (ofFields [⟨"a", "T", "", .required⟩] "1.1").rows[0]? =
        some ⟨"1.1.1", "a", "T", "N/A", "R", "", ""⟩ ∧
      (ofFields (List.replicate 11 ⟨"b", "T", "", .optional⟩) "1").rows[10]? =
        some ⟨"1.11", "b", "T", "N/A", "O", "", ""⟩ ∧
      "1.1.1" ≠ "1.11" := by
  have hrow : (ofFields [⟨"a", "T", "", .required⟩] "1.1").rows[0]? =
      some ⟨"1.1.1", "a", "T", "N/A", "R", "", ""⟩ := by decide
  have hrow' : (ofFields (List.replicate 11 ⟨"b", "T", "", .optional⟩) "1").rows[10]? =
      some ⟨"1.11", "b", "T", "N/A", "O", "", ""⟩ := by decide
  refine ⟨hrow, hrow', fun h => ?_⟩
  have hsame := ((ofFields_inj _ _ _ _).1 0 10 _ _ hrow hrow').mp h
  exact absurd hsame.2 (by decide)

end Table

end FieldList
