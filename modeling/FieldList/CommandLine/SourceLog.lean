import FieldList.CommandLine.Log
import FieldList.Source.Fields
import FieldList.Text.Quoted

/-!
# The log of a source

What is told while the fields of a source are read: each field, annotations that no declaration
follows, and the number of fields.
-/

namespace FieldList.CommandLine

/-! ## Shown values -/

/-- How the log shows a value that may be missing. -/
def shownOption {α : Type} (shown : α → String) : Option α → String
  | none => "None"
  | some a => "Some(" ++ shown a ++ ")"

def shownDateFormat : DateFormat → String
  | .date => "Date"
  | .dateTime => "DateTime"
  | .other constant => "Unrecognized(" ++ Text.quoted constant ++ ")"

def shownPending (p : Source.Pending) : String :=
  "PendingAnnotations \x7b description: " ++ shownOption Text.quoted p.description ++
    ", date_format: " ++ shownOption shownDateFormat p.dateFormat ++
    ", not_null: " ++ (if p.notNull then "true" else "false") ++ " \x7d"

/-! ## Lines -/

namespace LogLine

def parsed (f : Field) : LogLine :=
  ⟨.trace, "parsed field name=" ++ f.name ++ " data_type=" ++ f.dataType⟩

def dropped (p : Source.Pending) : LogLine :=
  ⟨.debug, "dropping annotations with no following declaration pending=" ++ shownPending p⟩

def counted (fields : List Field) : LogLine :=
  ⟨.debug, "parsed field declarations count=" ++ fields.length.repr⟩

/-- Everything told while a source is read. -/
def ofSource (source : String) : List LogLine :=
  let fields := Source.parseFields source
  let leftover := Source.leftover source
  fields.map parsed ++ (if leftover.isEmpty then [] else [dropped leftover]) ++ [counted fields]

end LogLine

end FieldList.CommandLine
