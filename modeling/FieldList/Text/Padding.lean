/-!
# Padding

Texts filled up with spaces to a width, so that they stand in columns. A width that is only known
when the program runs has a limit: beyond it the program panics, which ends it without a result.
-/

namespace FieldList

/-- The end of a program that cannot go on. No error is handed back to any part of it. -/
structure Panic where
  message : String
  deriving DecidableEq, Repr

namespace Text

/-- A text at the left of its column. -/
def padRight (width : Nat) (s : List Char) : List Char :=
  s ++ List.replicate (width - s.length) ' '

/-- A text at the right of its column. -/
def padLeft (width : Nat) (s : List Char) : List Char :=
  List.replicate (width - s.length) ' ' ++ s

/-- The greatest width that can be computed for a column. -/
def maxWidth : Nat := 65535

def outOfRange : Panic := ⟨"Formatting argument out of range"⟩

/-- A text at the left of a column whose width was computed, which must not be too great, however
short the text is. -/
def fill (width : Nat) (s : List Char) : Except Panic (List Char) :=
  if width ≤ maxWidth then .ok (padRight width s) else .error outOfRange

end Text

end FieldList
