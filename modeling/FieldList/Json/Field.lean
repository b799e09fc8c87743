import FieldList.Field
import FieldList.Json.Printer
import FieldList.Json.Reader

/-!
# Fields as JSON

A field is an object with a string for its name, type and description and a keyword for its
requirement. When a field is read, members may come in any order and under further keys, but each
of the four exactly once; an array of the four values in order is read too.
-/

namespace FieldList

open Json

namespace Requirement

/-- A keyword, or an object whose only member has it as its key and null as its value. -/
def ofJson? : Value → Option Requirement
  | .string (some keyword) => ofKeyword? keyword
  | .object [(some keyword, .null)] => ofKeyword? keyword
  | _ => none

end Requirement

namespace Field

def toJson (f : Field) : Value :=
  .ofMembers [("name", .ofText f.name), ("type", .ofText f.dataType),
    ("description", .ofText f.description), ("requirement", .ofText f.requirement.keyword)]

/-- The field with the given values of its four members. -/
def ofValues? (name dataType description requirement : Value) : Option Field := do
  some {
    name := ← name.text?
    dataType := ← dataType.text?
    description := ← description.text?
    requirement := ← Requirement.ofJson? requirement }

/-- The value under a key that occurs exactly once. -/
def member? (members : List (Option String × Value)) (key : String) : Option Value :=
  match members.filter fun m => m.1 = some key with
  | [(_, v)] => some v
  | _ => none

def ofJson? : Value → Option Field
  | .object members =>
    if members.any fun m => m.1.isNone then none
    else do
      ofValues? (← member? members "name") (← member? members "type")
        (← member? members "description") (← member? members "requirement")
  | .array [name, dataType, description, requirement] =>
    ofValues? name dataType description requirement
  | _ => none

/-- The field written as a JSON text. -/
def readJson? (text : String) : Option Field := do ofJson? (← read text)

end Field

end FieldList
