import FieldList.Registry
import FieldList.Settings.Decode

/-!
# What settings say about a publication

The formats and the table that belong to some settings.
-/

namespace FieldList.Settings

/-- The formats, with pages in the orientation of the settings. -/
def registry (s : Settings) : Registry := Registry.standard.register (.docx s.orientation)

/-- The table of some fields with the title and the label of the settings. -/
def table (s : Settings) (fields : List Field) : Table :=
  (Table.ofFields fields s.label).withTitle s.title

end FieldList.Settings
