/-!
# Fields

A declared field of a class: its name, its type, a description and whether a value is required.
-/

namespace FieldList

inductive Requirement where
  | required
  | optional
  deriving DecidableEq, Repr

namespace Requirement

def ofBool (required : Bool) : Requirement := if required then .required else .optional

def isRequired : Requirement → Bool
  | required => true
  | optional => false

/-- The letter in the column for requirements. -/
def marker : Requirement → String
  | required => "R"
  | optional => "O"

/-- The word that stands for the requirement in serialized fields. -/
def keyword : Requirement → String
  | required => "required"
  | optional => "optional"

def ofKeyword? (s : String) : Option Requirement :=
  if s = "required" then some .required
  else if s = "optional" then some .optional
  else none

@[simp] theorem isRequired_ofBool (b : Bool) : (ofBool b).isRequired = b := by
  cases b <;> rfl

theorem ofKeyword?_keyword (r : Requirement) : ofKeyword? r.keyword = some r := by
  cases r <;> decide

end Requirement

structure Field where
  name : String
  dataType : String
  description : String
  requirement : Requirement
  deriving DecidableEq, Repr

end FieldList
