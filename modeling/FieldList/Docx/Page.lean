/-!
# Pages

A page is A4 with its short or its long edge at the top. Lengths are in twentieths of a point.
-/

namespace FieldList.Docx

inductive Orientation where
  | portrait
  | landscape
  deriving DecidableEq, Repr

namespace Orientation

def keyword : Orientation → String
  | portrait => "portrait"
  | landscape => "landscape"

def ofKeyword? (s : String) : Option Orientation :=
  if s = "portrait" then some .portrait
  else if s = "landscape" then some .landscape
  else none

def shortEdge : Nat := 11906

def longEdge : Nat := 16838

def pageWidth : Orientation → Nat
  | portrait => shortEdge
  | landscape => longEdge

def pageHeight : Orientation → Nat
  | portrait => longEdge
  | landscape => shortEdge

end Orientation

end FieldList.Docx
