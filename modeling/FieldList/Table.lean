import FieldList.Field

/-!
# The field table

What every format shows: a title and one row of seven cells per field, in the order of the fields.
-/

namespace FieldList

/-! ## Columns -/

inductive Column where
  | sequence
  | name
  | dataType
  | length
  | requirement
  | description
  | note
  deriving DecidableEq, Repr

namespace Column

/-- The columns from left to right. -/
def all : List Column :=
  [sequence, name, dataType, length, requirement, description, note]

def header : Column → String
  | sequence => "STT"
  | name => "Tên trường"
  | dataType => "Định dạng"
  | length => "Length"
  | requirement => "R/O"
  | description => "Mô tả"
  | note => "Note"

/-- The name of the column in serialized rows. -/
def key : Column → String
  | sequence => "sequence"
  | name => "name"
  | dataType => "type"
  | length => "length"
  | requirement => "requirement"
  | description => "description"
  | note => "note"

/-- The headers from left to right. -/
def headers : List String := all.map header

end Column

/-! ## Rows -/

structure Row where
  sequence : String
  name : String
  dataType : String
  length : String
  requirement : String
  description : String
  note : String
  deriving DecidableEq, Repr

namespace Row

def cell (r : Row) : Column → String
  | .sequence => r.sequence
  | .name => r.name
  | .dataType => r.dataType
  | .length => r.length
  | .requirement => r.requirement
  | .description => r.description
  | .note => r.note

/-- The cells from left to right. -/
def cells (r : Row) : List String := Column.all.map r.cell

/-- The row of the field at a place counted from one. Its number follows the label after a dot;
lengths are not known, and there are no notes. -/
def ofField (label : String) (place : Nat) (field : Field) : Row where
  sequence := label ++ "." ++ place.repr
  name := field.name
  dataType := field.dataType
  length := "N/A"
  requirement := field.requirement.marker
  description := field.description
  note := ""

end Row

/-! ## Tables -/

structure Table where
  title : String
  rows : List Row
  deriving DecidableEq, Repr

namespace Table

def defaultTitle : String := "Danh sách trường dữ liệu"

/-- The table of some fields under the default title. -/
def ofFields (fields : List Field) (label : String) : Table where
  title := defaultTitle
  rows := fields.mapIdx fun i field => Row.ofField label (i + 1) field

def withTitle (t : Table) (title : String) : Table := { t with title := title }

def isEmpty (t : Table) : Bool := t.rows.isEmpty

end Table

end FieldList
