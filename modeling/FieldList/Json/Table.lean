import FieldList.Json.Printer
import FieldList.Table

/-!
# Tables as JSON

The title and the rows of a table. Each row is an object with its cells under the keys of their
columns, from left to right.
-/

namespace FieldList

open Json

def Row.toJson (r : Row) : Value := .ofMembers (Column.all.map fun c => (c.key, .ofText (r.cell c)))

def Table.toJson (t : Table) : Value :=
  .ofMembers [("title", .ofText t.title), ("rows", .array (t.rows.map Row.toJson))]

end FieldList
