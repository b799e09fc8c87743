import FieldList.Docx.Document

/-!
# Packages

A Word file is a package of named parts. Besides the document there are the styles, and the parts
that say what the others hold and how they belong together.
-/

namespace FieldList.Docx

open Xml

/-! ## Styles -/

/-- A paragraph style with the given properties of its runs. -/
def paragraphStyle (id name : String) (properties : List Node) : Node :=
  .element "w:style" [("w:type", "paragraph"), ("w:styleId", id)] [
    .leaf "w:name" [("w:val", name)],
    .group "w:rPr" properties,
    .group "w:pPr" [.leaf "w:rPr" []],
    .leaf "w:qFormat" []]

/-- The style of plain paragraphs, and that of the heading: sixteen points and bold. -/
def stylesNode : Node :=
  .element "w:styles" [
      ("xmlns:mc", "http://schemas.openxmlformats.org/markup-compatibility/2006"),
      ("xmlns:r", "http://schemas.openxmlformats.org/officeDocument/2006/relationships"),
      ("xmlns:w", "http://schemas.openxmlformats.org/wordprocessingml/2006/main"),
      ("xmlns:w14", "http://schemas.microsoft.com/office/word/2010/wordml"),
      ("xmlns:w15", "http://schemas.microsoft.com/office/word/2012/wordml"),
      ("mc:Ignorable", "w14 w15")] [
    .group "w:docDefaults" [
      .group "w:rPrDefault" [.leaf "w:rPr" []],
      .group "w:pPrDefault" [.group "w:pPr" [.leaf "w:rPr" []]]],
    paragraphStyle "Normal" "Normal" [],
    paragraphStyle "Heading1" "Heading 1"
      (.leaf "w:sz" [("w:val", "32")] :: .leaf "w:szCs" [("w:val", "32")] :: bold)]

/-! ## What the parts are -/

def contentTypesNode : Node :=
  let part (name kind : String) : Node :=
    .leaf "Override" [("PartName", name), ("ContentType",
      "application/vnd.openxmlformats-officedocument.wordprocessingml." ++ kind ++ "+xml")]
  .element "Types" [("xmlns", "http://schemas.openxmlformats.org/package/2006/content-types")] [
    .leaf "Default" [("Extension", "rels"),
      ("ContentType", "application/vnd.openxmlformats-package.relationships+xml")],
    part "/word/document.xml" "document.main",
    part "/word/styles.xml" "styles"]

/-- The part that relates one other part to its owner. -/
def relationshipNode (kind target : String) : Node :=
  .element "Relationships"
    [("xmlns", "http://schemas.openxmlformats.org/package/2006/relationships")] [
    .leaf "Relationship" [("Id", "rId1"),
      ("Type", "http://schemas.openxmlformats.org/officeDocument/2006/relationships/" ++ kind),
      ("Target", target)]]

/-! ## Packages -/

/-- Named parts, each with its text. -/
structure Package where
  parts : List (String × String)
  deriving DecidableEq, Repr

namespace Package

/-- The text of a part. -/
def part? (p : Package) (name : String) : Option String := p.parts.lookup name

/-- The package that shows a table. -/
def ofTable (o : Orientation) (t : Table) : Package where
  parts := [
    ("[Content_Types].xml", declared contentTypesNode),
    ("_rels/.rels", declared (relationshipNode "officeDocument" "word/document.xml")),
    ("word/document.xml", documentText o t),
    ("word/styles.xml", String.ofList stylesNode.write),
    ("word/_rels/document.xml.rels", declared (relationshipNode "styles" "styles.xml"))]
where
  declared (node : Node) : String := String.ofList (declaration.toList ++ node.write)

/-- The package that shows some fields under the default title, on upright pages. -/
def ofFields (fields : List Field) (label : String) : Package :=
  ofTable .portrait (Table.ofFields fields label)

end Package

end FieldList.Docx
