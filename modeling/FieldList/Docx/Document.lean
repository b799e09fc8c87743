import FieldList.Docx.Page
import FieldList.Table
import FieldList.Xml

/-!
# The document part

The part `word/document.xml` of a package: a centred heading with the title, then the field table
over the full width of the text, with its header row in bold. Paragraphs are numbered in the order
of the document. A run of text holds no line ends, so those of titles and cells are left out.
-/

namespace FieldList.Docx

open Xml

/-- The identifier of the `n`-th paragraph: at least eight hexadecimal digits. -/
def paragraphId (n : Nat) : String :=
  let digits := Nat.toDigits 16 n
  String.ofList (List.replicate (8 - digits.length) '0' ++ digits)

/-- A text without its line ends. -/
def withoutLineEnds (s : String) : String :=
  String.ofList (s.toList.filter fun c => c ≠ '\n' && c ≠ '\r')

/-- A run of text with the given properties. -/
def run (properties : List Node) (s : String) : Node :=
  .group "w:r" [
    .group "w:rPr" properties,
    .element "w:t" [("xml:space", "preserve")] [.text (withoutLineEnds s)]]

/-- The `n`-th paragraph, with properties of its own after those of its mark. A process counts all
its paragraphs; those of a document have the numbers that they have in its first document. -/
def paragraph (n : Nat) (properties : List Node) (content : Node) : Node :=
  .element "w:p" [("w14:paraId", paragraphId n)] [
    .group "w:pPr" (.leaf "w:rPr" [] :: properties),
    content]

/-- The heading with the title, which is the first paragraph. -/
def heading (title : String) : Node :=
  paragraph 1 [.leaf "w:pStyle" [("w:val", "Heading1")], .leaf "w:jc" [("w:val", "center")]]
    (run [] title)

/-- What makes a run bold. -/
def bold : List Node := [.leaf "w:b" [], .leaf "w:bCs" []]

/-- A row of cells, whose first paragraph is the `n`-th. -/
def tableRow (n : Nat) (properties : List Node) (cells : List String) : Node :=
  .group "w:tr" (.leaf "w:trPr" [] :: cells.mapIdx fun i s =>
    .group "w:tc" [.leaf "w:tcPr" [], paragraph (n + i) [] (run properties s)])

/-- A single thin black line on one side of the table's cells. -/
def border (side : String) : Node :=
  .leaf side [("w:val", "single"), ("w:sz", "2"), ("w:space", "0"), ("w:color", "000000")]

def tableProperties : Node :=
  .group "w:tblPr" [
    .leaf "w:tblW" [("w:w", "5000"), ("w:type", "pct")],
    .leaf "w:jc" [("w:val", "left")],
    .group "w:tblBorders"
      (["w:top", "w:left", "w:bottom", "w:right", "w:insideH", "w:insideV"].map border)]

/-- The table: seven cells to a row, numbered on from the heading. -/
def fieldTable (t : Table) : Node :=
  .group "w:tbl" (tableProperties :: .leaf "w:tblGrid" [] ::
    tableRow 2 bold Column.headers ::
    t.rows.mapIdx fun i r => tableRow (9 + 7 * i) [] r.cells)

/-- The size and the margins of the pages. -/
def pageSection (o : Orientation) : Node :=
  .group "w:sectPr" [
    .leaf "w:pgSz" [("w:w", o.pageWidth.repr), ("w:h", o.pageHeight.repr),
      ("w:orient", o.keyword)],
    .leaf "w:pgMar" [("w:top", "1985"), ("w:right", "1701"), ("w:bottom", "1701"),
      ("w:left", "1701"), ("w:header", "851"), ("w:footer", "992"), ("w:gutter", "0")],
    .leaf "w:cols" [("w:space", "425"), ("w:num", "1")]]

/-- The vocabularies that the document part declares. -/
def vocabularies : List (String × String) := [
  ("xmlns:o", "urn:schemas-microsoft-com:office:office"),
  ("xmlns:r", "http://schemas.openxmlformats.org/officeDocument/2006/relationships"),
  ("xmlns:v", "urn:schemas-microsoft-com:vml"),
  ("xmlns:w", "http://schemas.openxmlformats.org/wordprocessingml/2006/main"),
  ("xmlns:w10", "urn:schemas-microsoft-com:office:word"),
  ("xmlns:wp", "http://schemas.openxmlformats.org/drawingml/2006/wordprocessingDrawing"),
  ("xmlns:wps", "http://schemas.microsoft.com/office/word/2010/wordprocessingShape"),
  ("xmlns:wpg", "http://schemas.microsoft.com/office/word/2010/wordprocessingGroup"),
  ("xmlns:mc", "http://schemas.openxmlformats.org/markup-compatibility/2006"),
  ("xmlns:wp14", "http://schemas.microsoft.com/office/word/2010/wordprocessingDrawing"),
  ("xmlns:w14", "http://schemas.microsoft.com/office/word/2010/wordml"),
  ("xmlns:w15", "http://schemas.microsoft.com/office/word/2012/wordml"),
  ("mc:Ignorable", "w14 wp14")]

def documentNode (o : Orientation) (t : Table) : Node :=
  .element "w:document" vocabularies
    [.group "w:body" [heading t.title, fieldTable t, pageSection o]]

/-- What every part may start with. -/
def declaration : String := "<?xml version=\"1.0\" encoding=\"UTF-8\" standalone=\"yes\"?>"

/-- The text of the document part. -/
def documentText (o : Orientation) (t : Table) : String :=
  String.ofList (declaration.toList ++ (documentNode o t).write)

end FieldList.Docx
