import FieldList.Format
import FieldList.Proofs.Docx.Marks

/-!
# Reading the document part

What a reader of a Word file finds in `word/document.xml`, from the characters alone: the texts that
stand between the marks, and the elements around them, which are the same for all tables of the same
size. `serialize_docx_decodes` says this of every table.

Three things go through the document from its runs outward, each with one lemma for a row, a table
and the whole: its tags and texts are framed (`framed_documentNode`), they differ from those of
another table of the same size in the texts only (`sameFrame_documentNode`), and its elements are
known from the number of rows (`outlines_documentNode`).
-/

namespace FieldList.Docx

open Xml

/-! ## What is read from a document -/

/-- A row and a table without any text. -/
def blankRow : Row := ⟨"", "", "", "", "", "", ""⟩

def blankTable (n : Nat) : Table := ⟨"", List.replicate n blankRow⟩

/-- The document part of any table with `n` rows, without its texts. -/
def frame (o : Orientation) (n : Nat) : List Char :=
  emptied false (documentText o (blankTable n)).toList

/-- The texts that a table shows, in the order of the document. -/
def shownTexts (t : Table) : List String :=
  t.title :: (Column.headers ++ t.rows.flatMap Row.cells)

/-- A text that decodes to a table. -/
structure DecodesTo (s : List Char) (o : Orientation) (t : Table) : Prop where
  texts : ∃ found, between? s = some found ∧ found.length = 1 + 7 * (t.rows.length + 1) ∧
    found.map unescape = (shownTexts t).map fun text =>
      text.toList.filter fun c => c ≠ '\n' && c ≠ '\r'
  elements : ∃ root table, nest [] [] (tags s) = some [root] ∧ root.named "w:tbl" = [table] ∧
    table.named "w:tr" = root.named "w:tr" ∧
    (root.named "w:tr").length = t.rows.length + 1 ∧
    ∀ row ∈ root.named "w:tr", (row.named "w:tc").length = 7
  rest : emptied false s = frame o t.rows.length

/-! ## The declaration -/

/-- The `n`-th paragraph in a cell of its own. -/
def tableCell (n : Nat) (properties : List Node) (s : String) : Node :=
  .group "w:tc" [.leaf "w:tcPr" [], paragraph n [] (run properties s)]

lemma tableRow_eq (n : Nat) (properties : List Node) (cells : List String) :
    tableRow n properties cells = .group "w:tr" (.leaf "w:trPr" [] ::
      cells.mapIdx fun i s => tableCell (n + i) properties s) := rfl

/-! ## Framed nodes -/

variable {texts texts' : List String}

/-- Tags and texts that differ in the texts only. -/
def SameFrame (tokens tokens' : List Token) : Prop :=
  tokens.map withoutText = tokens'.map withoutText

lemma SameFrame.append {a a' b b' : List Token} (ha : SameFrame a a') (hb : SameFrame b b') :
    SameFrame (a ++ b) (a' ++ b') := by
  rw [SameFrame, List.map_append, List.map_append, ha, hb]

lemma toList_withoutLineEnds (s : String) :
    (withoutLineEnds s).toList = s.toList.filter fun c => c ≠ '\n' && c ≠ '\r' := by
  rw [withoutLineEnds, String.toList_ofList]

end FieldList.Docx
