import FieldList.Text.Ranges

/-!
# Blank characters

A character is blank when it has the property White_Space of the character database. Trimming
takes the blank characters off both ends of a text.
-/

namespace FieldList.Text

/-- The code points with the property White_Space. -/
def blankRanges : CodeRanges :=
  [(0x9, 0xD), (0x20, 0x20), (0x85, 0x85), (0xA0, 0xA0), (0x1680, 0x1680), (0x2000, 0x200A),
   (0x2028, 0x2029), (0x202F, 0x202F), (0x205F, 0x205F), (0x3000, 0x3000)]

def isBlank (c : Char) : Bool := blankRanges.contains c.toNat

/-- The text from its first character that is not blank. -/
def skipBlanks (s : List Char) : List Char := s.dropWhile isBlank

/-- The text without the blank characters at its end. -/
def dropTrailingBlanks (s : List Char) : List Char := (skipBlanks s.reverse).reverse

/-- The text without the blank characters at its two ends. -/
def trim (s : List Char) : List Char := dropTrailingBlanks (skipBlanks s)

theorem blankRanges_ordered : CodeRanges.Ordered blankRanges 0 := by decide

end FieldList.Text
