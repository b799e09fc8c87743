import FieldList.Proofs.Source.Assembly
import Mathlib.Data.List.Forall2

/-!
# Fields and windows of lines

The lines of a source that declare a field cut it into windows: the window of a declaration starts
after the line of the declaration before it and ends with its own line. A field is what its window
says and nothing else (`forall₂_fieldOfWindow`), so annotations after the last declaration count
nowhere.

The windows are given by line numbers, counted from 0, and do not mention what is pending. The
induction goes from one declaring line to the next: `declaringLines_first`, `window_first` and
`assemble_first` say how line numbers, windows and fields change when the lines through the first
declaring one are taken off.
-/

namespace FieldList.Source

open Text

/-! ## Windows -/

/-- Whether a line declares a field. -/
def declares (line : List Char) : Bool := (Event.ofLine line).any Event.isDeclaration

/-- The numbers of the lines that declare a field, in increasing order. -/
def declaringLines (ls : List (List Char)) : List Nat :=
  (List.range ls.length).filter fun i => ls[i]?.any declares

/-- The number of the first line of a window. -/
def windowStart (ls : List (List Char)) : Nat → Nat
  | 0 => 0
  | j + 1 => (declaringLines ls).getD j 0 + 1

/-- The lines after the declaring line before the `j`-th one, through the `j`-th one. -/
def window (ls : List (List Char)) (j : Nat) : List (List Char) :=
  (ls.take ((declaringLines ls).getD j 0 + 1)).drop (windowStart ls j)

/-- The lines through the last declaring one. -/
def throughLastDeclaration (ls : List (List Char)) : List (List Char) :=
  ls.take (windowStart ls (declaringLines ls).length)

/-- The field is what the `j`-th window says. -/
structure FieldOfWindow (ls : List (List Char)) (j : Nat) (field : Field) : Prop where
  /-- Name and type are those of the declaration on the `j`-th declaring line. -/
  declared : ∃ i line, (declaringLines ls)[j]? = some i ∧ ls[i]? = some line ∧
    .declaration field.dataType field.name ∈ Event.ofLine line
  required_iff : field.requirement = .required ↔
    ∃ line ∈ window ls j, .notNull ∈ Event.ofLine line
  /-- The last description of the window, then the suffix of its last date format. -/
  description_eq : field.description =
    (lastText ((window ls j).flatMap Event.ofLine)).getD "" ++
      layoutSuffix (lastFormat ((window ls j).flatMap Event.ofLine))

/-! ## The first declaring line -/

lemma declares_iff {line : List Char} :
    declares line ↔ ∃ dataType name, .declaration dataType name ∈ Event.ofLine line := by
  rw [declares, List.any_eq_true]
  constructor
  · rintro ⟨e, he, hdeclaration⟩
    cases e with
    | declaration dataType name => exact ⟨dataType, name, he⟩
    | _ => simp [Event.isDeclaration] at hdeclaration
  · rintro ⟨dataType, name, h⟩
    exact ⟨.declaration dataType name, h, rfl⟩

lemma ofLine_of_not_declares {line : List Char} (h : declares line = false) :
    ∀ e ∈ Event.ofLine line, e.isDeclaration = false := by
  simpa [declares] using h

lemma declaringLines_of_forall_not {ls : List (List Char)}
    (h : ∀ line ∈ ls, declares line = false) : declaringLines ls = [] := by
  rw [declaringLines, List.filter_eq_nil_iff]
  intro i hi
  rw [List.mem_range] at hi
  simp [hi, h]

/-- The second of two parts has its line numbers counted on from the first. -/
lemma declaringLines_append (ls ls' : List (List Char)) :
    declaringLines (ls ++ ls') =
      declaringLines ls ++ (declaringLines ls').map (ls.length + ·) := by
  rw [declaringLines, List.length_append, List.range_add, List.filter_append, List.filter_map]
  congr 1
  · refine List.filter_congr fun i hi => ?_
    rw [List.getElem?_append_left (List.mem_range.mp hi)]
  · congr 1
    refine List.filter_congr fun i _ => ?_
    rw [Function.comp_apply, List.getElem?_append_right (Nat.le_add_right _ _),
      Nat.add_sub_cancel_left]

section First

variable {before : List (List Char)} {line : List Char}
  (hbefore : ∀ line ∈ before, declares line = false) (hline : declares line)
  (rest : List (List Char))

include hbefore hline

lemma declaringLines_first :
    declaringLines (before ++ line :: rest) =
      before.length :: (declaringLines rest).map (before.length + 1 + ·) := by
  have hone : declaringLines [line] = [0] := by
    simp [declaringLines, List.range_succ, hline]
  rw [List.append_cons, declaringLines_append, declaringLines_append, hone,
    declaringLines_of_forall_not hbefore]
  simp

lemma windowStart_first {j : Nat} (hj : j ≤ (declaringLines rest).length) :
    windowStart (before ++ line :: rest) (j + 1) = before.length + 1 + windowStart rest j := by
  rw [windowStart, declaringLines_first hbefore hline]
  cases j with
  | zero => simp [windowStart]
  | succ j => simp [windowStart, List.getElem?_eq_getElem hj, Nat.add_assoc]

lemma window_first_zero : window (before ++ line :: rest) 0 = before ++ [line] := by
  rw [window, declaringLines_first hbefore hline, windowStart, List.drop_zero, List.append_cons,
    List.getD_cons_zero]
  exact List.take_left' (by simp)

lemma window_first_succ {j : Nat} (hj : j < (declaringLines rest).length) :
    window (before ++ line :: rest) (j + 1) = window rest j := by
  have hlength : (before ++ [line]).length = before.length + 1 := by simp
  have hlast : (declaringLines (before ++ line :: rest)).getD (j + 1) 0 =
      (before ++ [line]).length + (declaringLines rest).getD j 0 := by
    simp [declaringLines_first hbefore hline, List.getElem?_eq_getElem hj]
  rw [window, windowStart_first hbefore hline rest hj.le, hlast, ← hlength,
    List.append_cons before line rest, Nat.add_assoc, List.take_length_add_append,
    List.drop_length_add_append, window]

omit hline in
/-- The first field is that of the events through the first declaring line. -/
lemma assemble_first {dataType name : String}
    (hmem : .declaration dataType name ∈ Event.ofLine line) :
    assemble Pending.empty ((before ++ line :: rest).flatMap Event.ofLine) =
      (fieldOf ((before ++ [line]).flatMap Event.ofLine) dataType name ::
          (assemble Pending.empty (rest.flatMap Event.ofLine)).1,
        (assemble Pending.empty (rest.flatMap Event.ofLine)).2) := by
  have hevents : Event.ofLine line = annotations line ++ [.declaration dataType name] :=
    ofLine_of_declaration_mem hmem
  have hannotations : ∀ e ∈ before.flatMap Event.ofLine ++ annotations line,
      e.isDeclaration = false := by
    intro e he
    rcases List.mem_append.mp he with he | he
    · obtain ⟨line', hline', he⟩ := List.mem_flatMap.mp he
      exact ofLine_of_not_declares (hbefore line' hline') e he
    · exact isDeclaration_of_mem_annotations he
  have hsplit : (before ++ line :: rest).flatMap Event.ofLine =
      (before.flatMap Event.ofLine ++ annotations line) ++
        .declaration dataType name :: rest.flatMap Event.ofLine := by
    simp [hevents]
  have hwindow : (before ++ [line]).flatMap Event.ofLine =
      before.flatMap Event.ofLine ++ annotations line ++ [.declaration dataType name] := by
    simp [hevents]
  rw [hsplit, assemble_declaration _ hannotations, field_foldl_absorb, hwindow,
    fieldOf_append_declaration]

end First

/-- Induction from one declaring line to the next. -/
@[elab_as_elim]
lemma declaring_induction {P : List (List Char) → Prop}
    (none : ∀ ls, (∀ line ∈ ls, declares line = false) → P ls)
    (first : ∀ before line rest, (∀ line ∈ before, declares line = false) → declares line →
      P rest → P (before ++ line :: rest)) (ls : List (List Char)) : P ls := by
  cases hfind : ls.find? declares with
  | none => exact none ls (by simpa using hfind)
  | some line =>
    obtain ⟨hline, before, rest, rfl, hbefore⟩ := List.find?_eq_some_iff_append.mp hfind
    have hsmaller : rest.length < (before ++ line :: rest).length := by
      simp
      omega
    exact first before line rest (by simpa using hbefore) hline
      (declaring_induction none first rest)
termination_by ls.length

/-! ## Every field is what its window says -/

lemma fieldOfWindow_zero {before : List (List Char)} {line : List Char}
    (hbefore : ∀ line ∈ before, declares line = false) (hline : declares line)
    (rest : List (List Char)) {dataType name : String}
    (h : .declaration dataType name ∈ Event.ofLine line) :
    FieldOfWindow (before ++ line :: rest) 0
      (fieldOf ((before ++ [line]).flatMap Event.ofLine) dataType name) where
  declared := by
    rw [declaringLines_first hbefore hline]
    exact ⟨before.length, line, rfl, by simp, h⟩
  required_iff := by
    rw [window_first_zero hbefore hline, fieldOf]
    simp only [List.mem_flatMap]
    split <;> simp_all
  description_eq := by
    rw [window_first_zero hbefore hline]
    rfl

lemma FieldOfWindow.succ {before : List (List Char)} {line : List Char}
    (hbefore : ∀ line ∈ before, declares line = false) (hline : declares line)
    {rest : List (List Char)} {j : Nat} {field : Field} (h : FieldOfWindow rest j field) :
    FieldOfWindow (before ++ line :: rest) (j + 1) field := by
  obtain ⟨i, line', hi, hline', hdeclaration⟩ := h.declared
  have hj : j < (declaringLines rest).length := (List.getElem?_eq_some_iff.mp hi).1
  have hwindow := window_first_succ hbefore hline rest hj
  refine ⟨?_, ?_, ?_⟩
  · rw [declaringLines_first hbefore hline]
    refine ⟨before.length + 1 + i, line', by simp [hi], ?_, hdeclaration⟩
    rw [List.append_cons, List.getElem?_append_right (by simp)]
    simpa using hline'
  · rw [hwindow]
    exact h.required_iff
  · rw [hwindow]
    exact h.description_eq

/-- The fields of some lines are those of their windows, in order. -/
lemma forall₂_fieldOfWindow_assemble (ls : List (List Char)) :
    List.Forall₂ (FieldOfWindow ls) (List.range (declaringLines ls).length)
      (assemble Pending.empty (ls.flatMap Event.ofLine)).1 := by
  induction ls using declaring_induction with
  | none ls hnone =>
    have hevents : ∀ e ∈ ls.flatMap Event.ofLine, e.isDeclaration = false := by
      intro e he
      obtain ⟨line, hline, he⟩ := List.mem_flatMap.mp he
      exact ofLine_of_not_declares (hnone line hline) e he
    rw [declaringLines_of_forall_not hnone, assemble_annotations _ hevents]
    exact List.Forall₂.nil
  | first before line rest hbefore hline ih =>
    obtain ⟨dataType, name, hmem⟩ := declares_iff.mp hline
    rw [assemble_first hbefore rest hmem, declaringLines_first hbefore hline, List.length_cons,
      List.length_map, List.range_succ_eq_map]
    refine List.Forall₂.cons (fieldOfWindow_zero hbefore hline rest hmem) ?_
    rw [List.forall₂_map_left_iff]
    exact ih.imp fun j field h => h.succ hbefore hline

lemma throughLastDeclaration_first {before : List (List Char)} {line : List Char}
    (hbefore : ∀ line ∈ before, declares line = false) (hline : declares line)
    (rest : List (List Char)) :
    throughLastDeclaration (before ++ line :: rest) =
      before ++ line :: throughLastDeclaration rest := by
  have hlength : (before ++ [line]).length = before.length + 1 := by simp
  rw [throughLastDeclaration, declaringLines_first hbefore hline, List.length_cons,
    List.length_map, windowStart_first hbefore hline rest le_rfl, ← hlength,
    List.append_cons before line rest, List.take_length_add_append, ← List.append_cons,
    throughLastDeclaration]

/-- The lines through the last declaring one give all fields and leave nothing pending. -/
lemma assemble_throughLastDeclaration (ls : List (List Char)) :
    assemble Pending.empty ((throughLastDeclaration ls).flatMap Event.ofLine) =
      ((assemble Pending.empty (ls.flatMap Event.ofLine)).1, Pending.empty) := by
  induction ls using declaring_induction with
  | none ls hnone =>
    have hfields := forall₂_fieldOfWindow_assemble ls
    rw [declaringLines_of_forall_not hnone] at hfields
    rw [List.forall₂_nil_left_iff.mp hfields, throughLastDeclaration,
      declaringLines_of_forall_not hnone]
    rfl
  | first before line rest hbefore hline ih =>
    obtain ⟨dataType, name, hmem⟩ := declares_iff.mp hline
    rw [throughLastDeclaration_first hbefore hline, assemble_first hbefore _ hmem,
      assemble_first hbefore _ hmem, ih]

/-- **Fields are windows.** A source has one field for each declaring line, and each field is what
its window says. The lines after the last declaring one give no field: without them the fields are
the same. -/
theorem parseFields_eq_windows (source : String) :
    (parseFields source).length = (declaringLines (lines source.toList)).length ∧
      List.Forall₂ (FieldOfWindow (lines source.toList))
        (List.range (declaringLines (lines source.toList)).length) (parseFields source) ∧
      (∀ constant, layoutSuffix (some (DateFormat.ofConstant constant)) =
        if constant = "Const.DATE_FORMAT2" then " (dd/MM/yyyy)"
        else if constant = "Const.DATE_TIME_FORMAT2" then " (dd/MM/yyyy HH:mm:ss)"
        else "") ∧
      parseFields source =
        (assemble Pending.empty
          ((throughLastDeclaration (lines source.toList)).flatMap Event.ofLine)).1 := by
  have hfields := forall₂_fieldOfWindow_assemble (lines source.toList)
  refine ⟨?_, hfields, layoutSuffix_ofConstant, ?_⟩
  · simpa [parseFields, eventsOf] using hfields.length_eq.symm
  · rw [assemble_throughLastDeclaration, parseFields, eventsOf]

end FieldList.Source
