/-!
# JSON values

The values of the JSON grammar. A number is kept as it is written. A string is kept as the text it
denotes; a string with an unpaired surrogate escape is well-formed but denotes no text. The members
of an object keep their order, and a key may occur twice.
-/

namespace FieldList.Json

inductive Value where
  | null
  | boolean (b : Bool)
  | number (literal : String)
  | string (text : Option String)
  | array (items : List Value)
  | object (members : List (Option String × Value))
  deriving Repr

namespace Value

/-- The string that denotes a text. -/
def ofText (s : String) : Value := string (some s)

/-- The object with the given members. -/
def ofMembers (members : List (String × Value)) : Value :=
  object (members.map fun (key, v) => (some key, v))

/-- The text denoted by a string. -/
def text? : Value → Option String
  | string text => text
  | _ => none

end Value

end FieldList.Json
