import FieldList.Registry
import FieldList.Text.Padding

/-!
# Listings

The fields of a source and the formats of a registry as lines of text.
-/

namespace FieldList

/-! ## Fields -/

/-- The line of a field: its number, name, type, requirement and description between tabs. -/
def Field.line (n : Nat) (f : Field) : String :=
  "\t".intercalate [n.repr, f.name, f.dataType, f.requirement.marker, f.description] ++ "\n"

/-- The lines of some fields, numbered from `n`. -/
def Field.linesFrom (n : Nat) : List Field → String
  | [] => ""
  | f :: fields => f.line n ++ linesFrom (n + 1) fields

/-- The listing of all fields, numbered from one. -/
def Field.listing (fields : List Field) : String := Field.linesFrom 1 fields

/-! ## Formats -/

/-- The line of a format: its name in a column of ten characters, what it is, and the extension of
its files. -/
def Format.line (f : Format) : String :=
  "  " ++ String.ofList (Text.padRight 10 f.name.toList) ++ " " ++ f.description ++
    " (." ++ f.extension ++ ")\n"

/-- The listing of all formats, by name. -/
def Registry.listing (r : Registry) : String :=
  "Available formats:\n\n" ++ String.join (r.formats.map Format.line)

end FieldList
