/-!
# Date formats

The layout that an annotation names by a constant. Two constants stand for layouts that are shown
in a field's description; any other is kept by its name and shown nowhere.
-/

namespace FieldList

inductive DateFormat where
  | date
  | dateTime
  | other (constant : String)
  deriving DecidableEq, Repr

namespace DateFormat

/-- The layout named by a constant. -/
def ofConstant (constant : String) : DateFormat :=
  if constant = "Const.DATE_FORMAT2" then date
  else if constant = "Const.DATE_TIME_FORMAT2" then dateTime
  else other constant

/-- What the layout adds to a description. -/
def suffix? : DateFormat → Option String
  | date => some " (dd/MM/yyyy)"
  | dateTime => some " (dd/MM/yyyy HH:mm:ss)"
  | other _ => none

end DateFormat

end FieldList
