import FieldList.Docx.Archive

/-!
# Contents

What a file can hold: bytes, or a package of named parts, which is written as an archive.
-/

namespace FieldList

inductive Content where
  | bytes (data : ByteArray)
  | package (package : Docx.Package)

namespace Content

instance : DecidableEq Content
  | bytes data, bytes data' =>
    match ByteArray.decEq data data' with
    | isTrue h => isTrue (congrArg bytes h)
    | isFalse h => isFalse fun heq => h (bytes.inj heq)
  | package p, package p' =>
    match decEq p p' with
    | isTrue h => isTrue (congrArg package h)
    | isFalse h => isFalse fun heq => h (package.inj heq)
  | bytes _, package _ => isFalse nofun
  | package _, bytes _ => isFalse nofun

/-- A text in UTF-8. -/
def ofText (s : String) : Content := bytes s.toUTF8

/-- The bytes of a file with this content. -/
def toBytes : Content → ByteArray
  | bytes data => data
  | package p => Docx.Archive.ofPackage p

/-- The text that the content is in UTF-8. -/
def text? : Content → Option String
  | bytes data => String.fromUTF8? data
  | package _ => none

theorem text?_ofText (s : String) : (ofText s).text? = some s := by
  rw [ofText, text?, String.fromUTF8?, String.toUTF8_eq_toByteArray, dif_pos s.isValidUTF8]
  rfl

end Content

end FieldList
