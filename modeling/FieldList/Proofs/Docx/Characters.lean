import FieldList.Proofs.Docx.Reading
import FieldList.Proofs.Source.Contents

/-!
# Characters of the document part

A reader of XML refuses a document with a character that is not allowed in one, and no entity can
write such a character. The document part of a table has only allowed characters exactly when its
title and its cells have (`isXmlText_documentText`), since nothing is done about the others.

Of the cells of a field, only the label and the description can have a character that is not
allowed: names and types are words, and words have none. A description can bring one from the
source. So `render_isXmlText` says when a source gives a document that can be read.
-/

namespace FieldList

/-! ## Allowed characters -/

namespace Xml

/-- Whether a character is allowed in a document: a tab, a line end, or any from the space on but
surrogates and the code points `FFFE` and `FFFF`. -/
def isXmlChar (c : Char) : Bool :=
  c = '\t' || c = '\n' || c = '\r' || (0x20 ≤ c.toNat && c.toNat ≤ 0xD7FF) ||
    (0xE000 ≤ c.toNat && c.toNat ≤ 0xFFFD) || (0x10000 ≤ c.toNat && c.toNat ≤ 0x10FFFF)

/-- Whether all characters of a text are allowed. -/
def isXmlText (s : List Char) : Bool := s.all isXmlChar

variable {s t : List Char}

@[simp] lemma isXmlText_append : isXmlText (s ++ t) = (isXmlText s && isXmlText t) :=
  List.all_append

@[simp] lemma isXmlText_cons {c : Char} :
    isXmlText (c :: s) = (isXmlChar c && isXmlText s) := List.all_cons

lemma isXmlText_ofList (h : isXmlText s) : isXmlText (String.ofList s).toList := by
  rwa [String.toList_ofList]

lemma isXmlText_digits {base : Nat} (hbase : 1 < base) (hle : base ≤ 16) (n : Nat) :
    isXmlText (Nat.toDigits base n) := by
  have hdigit : ∀ d < 16, isXmlText [Nat.digitChar d] := by decide
  induction n using Nat.strongRecOn with
  | ind n ih =>
    by_cases hn : n < base
    · rw [Nat.toDigits_of_lt_base hn]
      exact hdigit n (by omega)
    · have hrest : n % base < base := Nat.mod_lt n (by omega)
      rw [Nat.toDigits_of_base_le hbase (by omega), isXmlText_append,
        ih (n / base) (Nat.div_lt_self (by omega) hbase), hdigit _ (by omega)]
      rfl

/-- Entities are written in allowed characters, for allowed characters. -/
lemma isXmlText_escapeChar (c : Char) : isXmlText (escapeChar c) = isXmlChar c := by
  unfold escapeChar
  split
  · rfl
  · rfl
  · rfl
  · rfl
  · rfl
  · exact Bool.and_true _

lemma isXmlText_escape (s : String) : isXmlText (escape s) = isXmlText s.toList := by
  rw [isXmlText, escape, List.all_flatMap, isXmlText]
  congr 1
  funext c
  exact isXmlText_escapeChar c

lemma isXmlText_writeHead (name : String) (attributes : List (String × String)) :
    isXmlText (writeHead name attributes) = (isXmlText name.toList &&
      attributes.all fun a => isXmlText a.1.toList && isXmlText a.2.toList) := by
  have hattribute : ∀ a : String × String, (writeAttribute a).all isXmlChar =
      (isXmlText a.1.toList && isXmlText a.2.toList) := by
    rintro ⟨name, value⟩
    have hmarks : isXmlChar ' ' ∧ isXmlChar '=' ∧ isXmlChar '"' ∧ isXmlText [] := by decide
    rw [← isXmlText, writeAttribute]
    simp [isXmlText_escape, hmarks]
  rw [writeHead, isXmlText_append]
  simp only [isXmlText, List.all_flatMap, hattribute]

/-! ## Nodes -/

variable {name : String} {attributes : List (String × String)} {children : List Node}

/-- Whether a node is written in allowed characters. -/
def Node.isXmlText (node : Node) : Bool := Xml.isXmlText node.write

lemma isXmlText_tokensOf (nodes : List Node) :
    isXmlText ((tokensOf nodes).flatMap Token.write) = nodes.all Node.isXmlText := by
  induction nodes with
  | nil => rfl
  | cons node nodes ih =>
    rw [tokensOf, List.flatMap_append, isXmlText_append, ih, List.all_cons]
    rfl

lemma isXmlText_text (s : String) : (Node.text s).isXmlText = isXmlText s.toList := by
  rw [Node.isXmlText, Node.write, Node.tokens, List.flatMap_singleton, Token.write,
    isXmlText_escape]

/-- Besides its children, an element is written with its name and its attributes. -/
lemma isXmlText_element (h : isXmlText (writeHead name attributes)) :
    (Node.element name attributes children).isXmlText = children.all Node.isXmlText := by
  have hname : isXmlText name.toList := by
    rw [writeHead, isXmlText_append, Bool.and_eq_true] at h
    exact h.1
  have hmarks : isXmlChar '<' ∧ isXmlChar '>' ∧ isXmlChar '/' ∧ isXmlChar ' ' ∧ isXmlText [] := by
    decide
  cases children with
  | nil => simp [Node.isXmlText, Node.write, Node.tokens, Token.write, h, hmarks]
  | cons child children =>
    have htokens : (Node.element name attributes (child :: children)).tokens =
        .opening name attributes :: tokensOf (child :: children) ++ [.closing name] := by
      rw [Node.tokens, tokensOf]
    rw [Node.isXmlText, Node.write, htokens, ← isXmlText_tokensOf]
    simp [Token.write, h, hname, hmarks]

lemma isXmlText_group (h : isXmlText name.toList) :
    (Node.group name children).isXmlText = children.all Node.isXmlText :=
  isXmlText_element (by simpa [writeHead] using h)

lemma all_mapIdx {α β : Type} {f : Nat → α → β} {p : β → Bool} {q : α → Bool} {l : List α}
    (h : ∀ i, ∀ a ∈ l, p (f i a) = q a) : (l.mapIdx f).all p = l.all q := by
  induction l generalizing f with
  | nil => rfl
  | cons a l ih =>
    have hrest : ∀ i, ∀ b ∈ l, p (f (i + 1) b) = q b := fun i b hb =>
      h (i + 1) b (List.mem_cons_of_mem _ hb)
    rw [List.mapIdx_cons, List.all_cons, List.all_cons, h 0 a List.mem_cons_self, ih hrest]

end Xml

/-! ## The parts of the document -/

namespace Docx

open Xml

/-- Line ends are left out, and they are allowed. -/
lemma isXmlText_withoutLineEnds (s : String) :
    isXmlText (withoutLineEnds s).toList = isXmlText s.toList := by
  have hchar : ∀ c, (!(decide (c ≠ '\n') && decide (c ≠ '\r')) || isXmlChar c) = isXmlChar c := by
    intro c
    by_cases hc : c = '\n' ∨ c = '\r'
    · rcases hc with rfl | rfl <;> rfl
    · rw [not_or] at hc
      simp [hc]
  rw [toList_withoutLineEnds, isXmlText, List.all_filter, isXmlText]
  simp only [hchar]

lemma isXmlText_paragraphId (n : Nat) : isXmlText (paragraphId n).toList := by
  have hzeros : ∀ k, isXmlText (List.replicate k '0') := by
    intro k
    rw [isXmlText, List.all_replicate]
    split <;> rfl
  rw [paragraphId, String.toList_ofList, isXmlText_append, hzeros,
    isXmlText_digits (by decide) (by decide)]
  rfl

variable {properties : List Node}

lemma isXmlText_run (h : properties.all Node.isXmlText) (s : String) :
    (run properties s).isXmlText = isXmlText s.toList := by
  rw [run, isXmlText_group (by decide), List.all_cons, isXmlText_group (by decide), h,
    List.all_cons, isXmlText_element (by decide), List.all_cons, isXmlText_text,
    isXmlText_withoutLineEnds, List.all_nil]
  simp

lemma isXmlText_paragraph (h : properties.all Node.isXmlText) (n : Nat) (content : Node) :
    (paragraph n properties content).isXmlText = content.isXmlText := by
  have hid : isXmlText (writeHead "w:p" [("w14:paraId", paragraphId n)]) := by
    have hnames : isXmlText "w:p".toList ∧ isXmlText "w14:paraId".toList := by decide
    rw [isXmlText_writeHead, hnames.1, List.all_cons, hnames.2, isXmlText_paragraphId]
    rfl
  have hmark : (Node.leaf "w:rPr" []).isXmlText := by decide
  rw [paragraph, isXmlText_element hid, List.all_cons, isXmlText_group (by decide),
    List.all_cons, hmark, h, List.all_cons, List.all_nil]
  simp

lemma isXmlText_heading (title : String) : (heading title).isXmlText = isXmlText title.toList := by
  rw [heading, isXmlText_paragraph (by decide), isXmlText_run List.all_nil]

lemma isXmlText_tableCell (h : properties.all Node.isXmlText) (n : Nat) (s : String) :
    (tableCell n properties s).isXmlText = isXmlText s.toList := by
  have hproperties : (Node.leaf "w:tcPr" []).isXmlText := by decide
  rw [tableCell, isXmlText_group (by decide), List.all_cons, hproperties, List.all_cons,
    isXmlText_paragraph List.all_nil, isXmlText_run h, List.all_nil]
  simp

lemma isXmlText_tableRow (h : properties.all Node.isXmlText) (n : Nat) (cells : List String) :
    (tableRow n properties cells).isXmlText = cells.all fun s => isXmlText s.toList := by
  have hproperties : (Node.leaf "w:trPr" []).isXmlText := by decide
  rw [tableRow_eq, isXmlText_group (by decide), List.all_cons, hproperties,
    all_mapIdx fun i s _ => isXmlText_tableCell h (n + i) s]
  rfl

lemma isXmlText_fieldTable (t : Table) :
    (fieldTable t).isXmlText =
      t.rows.all fun r => r.cells.all fun s => isXmlText s.toList := by
  have hproperties : tableProperties.isXmlText := by decide +kernel
  have hgrid : (Node.leaf "w:tblGrid" []).isXmlText := by decide
  have hheaders : (Column.headers.all fun s => isXmlText s.toList) := by decide
  rw [fieldTable, isXmlText_group (by decide), List.all_cons, hproperties, List.all_cons,
    hgrid, List.all_cons, isXmlText_tableRow (by decide), hheaders,
    all_mapIdx fun i (r : Row) _ => isXmlText_tableRow List.all_nil (9 + 7 * i) r.cells]
  rfl

/-- Each literal is checked by itself, as the list of its characters. -/
lemma isXmlText_vocabularies : isXmlText (writeHead "w:document" vocabularies) := by
  rw [isXmlText_writeHead, Bool.and_eq_true, List.all_eq_true]
  refine ⟨isXmlText_ofList (by decide), ?_⟩
  simp only [vocabularies, List.forall_mem_cons, Bool.and_eq_true, List.not_mem_nil,
    false_implies, implies_true, and_true]
  and_intros <;> exact isXmlText_ofList (by decide)

/-- The title and the cells of the rows are all that can bring a character that is not allowed. -/
lemma isXmlText_documentText (o : Orientation) (t : Table) :
    isXmlText (documentText o t).toList = (isXmlText t.title.toList &&
      t.rows.all fun r => r.cells.all fun s => isXmlText s.toList) := by
  have hsection : (pageSection o).isXmlText := by cases o <;> decide +kernel
  have hdeclaration : isXmlText declaration.toList := isXmlText_ofList (by decide)
  rw [documentText, String.toList_ofList, isXmlText_append, hdeclaration, ← Node.isXmlText,
    documentNode, isXmlText_element isXmlText_vocabularies, List.all_cons,
    isXmlText_group (by decide), List.all_cons, isXmlText_heading, List.all_cons,
    isXmlText_fieldTable, List.all_cons, hsection, List.all_nil]
  simp

/-! ## Documents of sources -/

open Source Text

lemma isXmlChar_of_isWord {c : Char} (h : isWord c) : isXmlChar c := by
  have hranges : ∀ r ∈ wordRanges, (0x20 ≤ r.1 ∧ r.2 ≤ 0xD7FF) ∨
      (0xE000 ≤ r.1 ∧ r.2 ≤ 0xFFFD) ∨ (0x10000 ≤ r.1 ∧ r.2 ≤ 0x10FFFF) := by
    decide +kernel
  obtain ⟨r, hr, hlow, hhigh⟩ := (CodeRanges.contains_iff wordRanges_ordered c.toNat).mp h
  have hrange := hranges r hr
  simp only [isXmlChar, Bool.or_eq_true, Bool.and_eq_true, decide_eq_true_eq]
  omega

/-- A field's description is all of it that can have a character that is not allowed. -/
lemma all_isXmlText_cells {f : Field} {P : Char → Prop} (hf : FieldMadeOf P f) (label : String)
    (place : Nat) : ((Row.ofField label place f).cells.all fun s => isXmlText s.toList) =
      (isXmlText label.toList && isXmlText f.description.toList) := by
  have hword : ∀ {s : List Char}, IsWordRun s → isXmlText s := by
    intro s hs
    exact List.all_eq_true.mpr fun c hc => isXmlChar_of_isWord (hs.2 c hc)
  have hfixed : isXmlText ".".toList ∧ isXmlText "N/A".toList ∧ isXmlText "".toList := by decide
  have hmarker : isXmlText f.requirement.marker.toList := by
    cases f.requirement <;> decide
  have hplace : isXmlText place.repr.toList := by
    rw [Nat.toList_repr]
    exact isXmlText_digits (by decide) (by decide) place
  simp only [Row.cells, Column.all, List.map_cons, List.map_nil, Row.cell, Row.ofField,
    List.all_cons, List.all_nil, String.toList_append, isXmlText_append, hfixed, hplace, hmarker,
    hword hf.name, hword hf.dataType, Bool.true_and, Bool.and_true]

/-- The label stands in each row, so it matters as soon as there is one. -/
lemma isXmlText_ofFields {fields : List Field} {P : Char → Prop}
    (h : ∀ f ∈ fields, FieldMadeOf P f) (o : Orientation) (label : String) :
    isXmlText (documentText o (Table.ofFields fields label)).toList ↔
      (fields = [] ∨ isXmlText label.toList) ∧
        ∀ f ∈ fields, isXmlText f.description.toList := by
  have htitle : isXmlText Table.defaultTitle.toList := isXmlText_ofList (by decide)
  have hrows : isXmlText (documentText o (Table.ofFields fields label)).toList ↔
      ∀ f ∈ fields, isXmlText label.toList ∧ isXmlText f.description.toList := by
    rw [isXmlText_documentText, Table.ofFields, htitle, Bool.true_and,
      all_mapIdx fun i f hf => all_isXmlText_cells (h f hf) label (i + 1), List.all_eq_true]
    simp only [Bool.and_eq_true]
  rw [hrows]
  constructor
  · intro hall
    refine ⟨?_, fun f hf => (hall f hf).2⟩
    cases fields with
    | nil => exact .inl rfl
    | cons f fields => exact .inr (hall f List.mem_cons_self).1
  · rintro ⟨hlabel, hfields⟩ f hf
    exact ⟨hlabel.resolve_left (List.ne_nil_of_mem hf), hfields f hf⟩

/-- **When a document can be read.** The document part for a source has allowed characters only
exactly when the description of each field has, and the label, if there is a field. In particular a
source and a label of allowed characters give such a document. -/
theorem render_isXmlText (source label : String) :
    ∃ text, (Package.ofFields (parseFields source) label).part? "word/document.xml" = some text ∧
      (isXmlText text.toList ↔ (parseFields source = [] ∨ isXmlText label.toList) ∧
        ∀ f ∈ parseFields source, isXmlText f.description.toList) ∧
      (isXmlText source.toList → isXmlText label.toList → isXmlText text.toList) := by
  have hlayout : isXmlText layoutChars := by decide
  have hmade : ∀ f ∈ parseFields source,
      FieldMadeOf (fun c => isXmlText source.toList → isXmlChar c) f := by
    intro f hf
    refine fieldMadeOf_of_mem_parseFields (fun c hc _ hsource => ?_) (fun c hc _ => ?_) hf
    · exact List.all_eq_true.mp hsource c hc
    · exact List.all_eq_true.mp hlayout c hc
  have hiff := isXmlText_ofFields hmade .portrait label
  refine ⟨_, rfl, hiff, fun hsource hlabel => hiff.mpr ⟨.inr hlabel, fun f hf => ?_⟩⟩
  exact List.all_eq_true.mpr fun c hc => (hmade f hf).description c hc hsource

/-- A description can bring a control character into the document. -/
theorem render_not_isXmlText :
    ¬ ∀ source : String, ∃ text,
      (Package.ofFields (parseFields source) "F").part? "word/document.xml" = some text ∧
        isXmlText text.toList := by
  intro h
  have hfields : parseFields "@Schema(description = \"a\x01b\")\nprivate String x;" =
      [⟨"x", "String", "a\x01b", .optional⟩] := by
    decide +kernel
  obtain ⟨text, htext, hallowed⟩ := h "@Schema(description = \"a\x01b\")\nprivate String x;"
  rw [hfields] at htext
  obtain rfl : documentText .portrait (Table.ofFields [⟨"x", "String", "a\x01b", .optional⟩] "F") =
      text := Option.some.inj htext
  rw [isXmlText_documentText] at hallowed
  revert hallowed
  decide +kernel

end Docx

end FieldList
