import FieldList.CommandLine.Run
import FieldList.Proofs.Source.Contents

/-!
# Reading a listing of fields

A listing writes nothing in another way than it is, and yet it can be read back. Its lines are those
between its line feeds, and the cells of a line those between its first four tabs: names and types
are words, and a description, which may have tabs of its own, comes last and has no line feed.
`listed_decodes` says that this gives the cells of the table, for whatever source is listed, and
that sources with the same listing have the same fields.
-/

namespace FieldList

open Text

/-! ## Reading lines and cells -/

/-- The pieces of a text before its first `n` tabs, and what follows the last of these. -/
def cutAtTabs : Nat → List Char → List (List Char)
  | 0, s => [s]
  | n + 1, s =>
    match s.dropWhile (· ≠ '\t') with
    | [] => [s]
    | _ :: rest => s.takeWhile (· ≠ '\t') :: cutAtTabs n rest

lemma cutAtTabs_append {m : List Char} (hm : '\t' ∉ m) (n : Nat) (s : List Char) :
    cutAtTabs (n + 1) (m ++ '\t' :: s) = m :: cutAtTabs n s := by
  have hall : ∀ c ∈ m, decide (c ≠ '\t') = true := by
    intro c hc
    simpa using fun h : c = '\t' => hm (h ▸ hc)
  have hdrop : (m ++ '\t' :: s).dropWhile (· ≠ '\t') = '\t' :: s := by
    rw [List.dropWhile_append_of_pos hall]
    simp
  have htake : (m ++ '\t' :: s).takeWhile (· ≠ '\t') = m := by
    rw [List.takeWhile_append_of_pos hall]
    simp
  rw [cutAtTabs, hdrop, htake]

/-- Pieces between tabs are read back, also when the last has tabs of its own. -/
lemma cutAtTabs_intercalate {pieces : List (List Char)} (h : ∀ piece ∈ pieces, '\t' ∉ piece)
    (last : List Char) :
    cutAtTabs pieces.length (['\t'].intercalate (pieces ++ [last])) = pieces ++ [last] := by
  induction pieces with
  | nil => simp [cutAtTabs]
  | cons piece pieces ih =>
    rw [List.forall_mem_cons] at h
    have hne : pieces ++ [last] ≠ [] := by simp
    rw [List.cons_append, List.intercalate_cons_of_ne_nil hne, List.append_assoc,
      List.singleton_append, List.length_cons, cutAtTabs_append h.1, ih h.2]

/-- Lines that are each ended by a line feed are the pieces before the line feeds. -/
lemma splitOn_unlines {ls : List (List Char)} (h : ∀ line ∈ ls, '\n' ∉ line) :
    (unlines ls).splitOn '\n' = ls ++ [[]] := by
  induction ls with
  | nil => rfl
  | cons line ls ih =>
    rw [List.forall_mem_cons] at h
    rw [unlines_cons, List.splitOn_append_cons_self, List.splitOn_eq_singleton h.1, ih h.2]
    rfl

lemma notMem_intercalate {c d : Char} (hc : c ≠ d) {pieces : List (List Char)}
    (h : ∀ piece ∈ pieces, c ∉ piece) : c ∉ [d].intercalate pieces := by
  induction pieces with
  | nil => simp
  | cons piece pieces ih =>
    rw [List.forall_mem_cons] at h
    cases pieces with
    | nil => simpa using h.1
    | cons next pieces =>
      rw [List.intercalate_cons_cons]
      simp [h.1, hc, ih h.2]

/-! ## What a listing says -/

/-- The columns of the table that a listing shows. -/
def listedColumns : List Column := [.name, .dataType, .requirement, .description]

/-- A text that lists some fields: it has one line for each, and the first four tabs of a line stand
between the number of a row and those of its cells that are shown. -/
def ListsFields (out : String) (fields : List Field) (label : String) : Prop :=
  ∃ ls, out.toList.splitOn '\n' = ls ++ [[]] ∧ ls.length = fields.length ∧
    ls.map (cutAtTabs 4) = (Table.ofFields fields label).rows.mapIdx fun i r =>
      (i + 1).repr.toList :: listedColumns.map fun column => (r.cell column).toList

/-! ## Lines of a listing -/

/-- What a listing shows of a field before its description. -/
def leadingPieces (n : Nat) (f : Field) : List (List Char) :=
  [n.repr.toList, f.name.toList, f.dataType.toList, f.requirement.marker.toList]

def listedLine (n : Nat) (f : Field) : List Char :=
  ['\t'].intercalate (leadingPieces n f ++ [f.description.toList])

/-- A field as reading gives it: words, and a description on one line. -/
abbrev IsRead (f : Field) : Prop := Source.FieldMadeOf (· ≠ '\n') f

lemma isRead_of_mem_parseFields {source : String} {f : Field}
    (hf : f ∈ Source.parseFields source) : IsRead f := by
  have hlayout : '\n' ∉ Source.layoutChars := by decide
  exact Source.fieldMadeOf_of_mem_parseFields (fun _ _ hc => hc)
    (fun c hc heq => hlayout (heq ▸ hc)) hf

lemma toList_linesFrom (n : Nat) (fields : List Field) :
    (Field.linesFrom n fields).toList =
      unlines (fields.mapIdx fun i f => listedLine (i + n) f) := by
  induction fields generalizing n with
  | nil => rfl
  | cons f fields ih =>
    have hline : (f.line n).toList = listedLine n f ++ ['\n'] := by
      simp [Field.line, listedLine, leadingPieces]
    have hindex : (fun i f => listedLine (i + (n + 1)) f) =
        fun i f => listedLine (i + 1 + n) f := by
      funext i f
      rw [Nat.add_assoc i 1 n, Nat.add_comm 1 n]
    rw [Field.linesFrom, String.toList_append, hline, ih, hindex, List.mapIdx_cons, Nat.zero_add]
    rfl

lemma notMem_leadingPieces {f : Field} (hf : IsRead f) (n : Nat) {c : Char}
    (hword : isWord c = false) (hdigit : c.isDigit = false) (hmarker : c ≠ 'R' ∧ c ≠ 'O') :
    ∀ piece ∈ leadingPieces n f, c ∉ piece := by
  have hnumber : c ∉ n.repr.toList := by
    intro hc
    rw [Nat.toList_repr] at hc
    have hc := Nat.isDigit_of_mem_toDigits (by decide) (by decide) hc
    simp [hdigit] at hc
  have hrequirement : c ∉ f.requirement.marker.toList := by
    cases f.requirement <;> simp [Requirement.marker, hmarker]
  simp only [leadingPieces, List.forall_mem_cons]
  exact ⟨hnumber, hf.name.notMem hword, hf.dataType.notMem hword, hrequirement, nofun⟩

lemma cutAtTabs_listedLine {f : Field} (hf : IsRead f) (n : Nat) :
    cutAtTabs 4 (listedLine n f) = leadingPieces n f ++ [f.description.toList] := by
  have htab : ∀ piece ∈ leadingPieces n f, '\t' ∉ piece :=
    notMem_leadingPieces hf n (isWord_eq_false_of_isBlank (by decide)) rfl (by decide)
  exact cutAtTabs_intercalate htab _

lemma newline_notMem_listedLine {f : Field} (hf : IsRead f) (n : Nat) :
    '\n' ∉ listedLine n f := by
  have hleading : ∀ piece ∈ leadingPieces n f, '\n' ∉ piece :=
    notMem_leadingPieces hf n (isWord_eq_false_of_isBlank (by decide)) rfl (by decide)
  have hdescription : ∀ piece ∈ [f.description.toList], '\n' ∉ piece :=
    List.forall_mem_singleton.mpr fun hc => hf.description _ hc rfl
  exact notMem_intercalate (by decide) (List.forall_mem_append.mpr ⟨hleading, hdescription⟩)

/-! ## Whole listings -/

lemma listsFields_listing {fields : List Field} (h : ∀ f ∈ fields, IsRead f) (label : String) :
    ListsFields (Field.listing fields) fields label := by
  have hlines : ∀ line ∈ fields.mapIdx fun i f => listedLine (i + 1) f, '\n' ∉ line := by
    intro line hline
    obtain ⟨i, hi, rfl⟩ := List.mem_mapIdx.mp hline
    exact newline_notMem_listedLine (h _ (List.getElem_mem hi)) _
  refine ⟨fields.mapIdx fun i f => listedLine (i + 1) f, ?_, List.length_mapIdx, ?_⟩
  · rw [Field.listing, toList_linesFrom, splitOn_unlines hlines]
  · refine List.ext_getElem (by simp [Table.ofFields]) fun i hi _ => ?_
    have hmem : i < fields.length := by simpa using hi
    simp only [List.getElem_map, List.getElem_mapIdx, Table.ofFields,
      cutAtTabs_listedLine (h _ (List.getElem_mem hmem))]
    rfl

/-- A number and the four cells after it belong to one field. -/
lemma eq_of_leadingPieces {n m : Nat} {f g : Field}
    (h : leadingPieces n f ++ [f.description.toList] =
      leadingPieces m g ++ [g.description.toList]) : f = g := by
  obtain ⟨name, dataType, description, requirement⟩ := f
  obtain ⟨name', dataType', description', requirement'⟩ := g
  simp only [leadingPieces, List.cons_append, List.nil_append, List.cons.injEq,
    String.toList_inj, and_true] at h
  obtain ⟨-, rfl, rfl, hmarker, rfl⟩ := h
  have hrequirement : requirement = requirement' := by
    cases requirement <;> cases requirement' <;> first | rfl | exact absurd hmarker (by decide)
  rw [hrequirement]

lemma ListsFields.unique {out label label' : String} {fields fields' : List Field}
    (h : ListsFields out fields label) (h' : ListsFields out fields' label') :
    fields = fields' := by
  obtain ⟨ls, hsplit, hlength, hcells⟩ := h
  obtain ⟨ls', hsplit', hlength', hcells'⟩ := h'
  obtain rfl : ls = ls' := List.append_cancel_right (hsplit.symm.trans hsplit')
  refine List.ext_getElem (hlength.symm.trans hlength') fun i hi hi' => ?_
  have hrow := congrArg (·[i]?) (hcells.symm.trans hcells')
  simp only [List.getElem?_mapIdx, Table.ofFields, List.getElem?_eq_getElem hi,
    List.getElem?_eq_getElem hi', Option.map_some, Option.some.injEq] at hrow
  exact eq_of_leadingPieces hrow

/-! ## Runs -/

namespace CommandLine

/-- Lists the fields of an input: the report, and the files afterwards. -/
def listFields (tree : Files.Tree) (stdin : Content) (input : Option String) (t : Threshold) :
    Report × Files.Tree :=
  (((Command.fields input).ending ⟨tree.look, stdin⟩).above t).perform tree

/-- The outcome of listing the fields of a source. -/
structure ListsSource (tree : Files.Tree) (source : String) (result : Report × Files.Tree) :
    Prop where
  exit_eq : result.1.exit = 0
  tree_eq : result.2 = tree
  lists : ∀ label, ListsFields result.1.stdout (Source.parseFields source) label
  /-- No other listing of a source with other fields prints the same. -/
  unique : ∀ (tree' : Files.Tree) (stdin' : Content) (input' : Option String) (t' : Threshold)
    (source' : String), (Surroundings.mk tree'.look stdin').source input' = .ok source' →
      (listFields tree' stdin' input' t').1.stdout = result.1.stdout →
        Source.parseFields source' = Source.parseFields source

variable {tree : Files.Tree} {stdin : Content} {input : Option String} {source : String}

lemma listFields_eq (h : (Surroundings.mk tree.look stdin).source input = .ok source)
    (t : Threshold) :
    listFields tree stdin input t =
      ((Report.printing (Field.listing (Source.parseFields source))
        (LogLine.ofSource source)).above t, tree) := by
  simp only [listFields, Command.ending, fieldsEnding, h]
  rfl

lemma listsFields_listFields (h : (Surroundings.mk tree.look stdin).source input = .ok source)
    (t : Threshold) (label : String) :
    ListsFields (listFields tree stdin input t).1.stdout (Source.parseFields source) label := by
  rw [listFields_eq h]
  exact listsFields_listing (fun _ hf => isRead_of_mem_parseFields hf) label

/-- **A listing can be read back.** Whatever the source and the label, its lines are the fields of
the source, and its cells those of their rows in the table; so it is the listing of no other
fields. -/
theorem listed_decodes (h : (Surroundings.mk tree.look stdin).source input = .ok source)
    (t : Threshold) : ListsSource tree source (listFields tree stdin input t) where
  exit_eq := by rw [listFields_eq h]; rfl
  tree_eq := by rw [listFields_eq h]
  lists := listsFields_listFields h t
  unique := by
    intro tree' stdin' input' t' source' h' hout
    have hlists := listsFields_listFields h' t' ""
    rw [hout] at hlists
    exact hlists.unique (listsFields_listFields h t "")

/-- A description with tabs, from the standard input. -/
theorem listed_decodes_tabs :
    let source := "@Schema(description = \"a\tb\") @NotNull\nprivate Long id;"
    let tree : Files.Tree := ⟨[], []⟩
    (Surroundings.mk tree.look (.ofText source)).source none = .ok source ∧
      ListsSource tree source (listFields tree (.ofText source) none (some .warn)) := by
  intro source tree
  have hsource : (Surroundings.mk tree.look (.ofText source)).source none = .ok source := by
    simp only [Surroundings.source, Surroundings.stdinText, Content.text?_ofText]
  exact ⟨hsource, listed_decodes hsource (some .warn)⟩

end CommandLine

end FieldList
