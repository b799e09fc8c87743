import FieldList.Table
import FieldList.Text.Lines
import FieldList.Text.Padding

/-!
# Markdown preview

A heading with the title, an empty line, and the table with its cells between pipes. A pipe inside
a cell is written after a backslash and a line feed as a space, so that each row stays one line.
All cells of a column are filled up to its width, which is that of its longest cell. There is no
preview when that is too great a width to fill up to.
-/

namespace FieldList.Markdown

/-- A cell's text as it is written between pipes. -/
def escape (s : String) : List Char :=
  s.toList.flatMap fun c => if c = '|' then ['\\', '|'] else if c = '\n' then [' '] else [c]

/-- The width of a column: room for its header, for each of its cells, and for the three dashes
that a separator needs. -/
def columnWidth (t : Table) (c : Column) : Nat :=
  ((c.header :: t.rows.map (·.cell c)).map fun s => (escape s).length).foldl max 3

/-- The widths of the columns from left to right. -/
def columnWidths (t : Table) : List Nat := Column.all.map (columnWidth t)

/-- Cells between pipes, each with a space on both sides. -/
def pipeLine (cells : List (List Char)) : List Char :=
  '|' :: cells.flatMap fun cell => ' ' :: cell ++ [' ', '|']

/-- A line of cells filled up to the widths. -/
def rowLine (widths : List Nat) (cells : List String) : Except Panic (List Char) := do
  return pipeLine (← (widths.zip cells).mapM fun cell => Text.fill cell.1 (escape cell.2))

/-- The line that separates the headers from the rows. -/
def separatorLine (widths : List Nat) : List Char :=
  pipeLine (widths.map fun width => List.replicate width '-')

/-- The lines of the table without the heading. -/
def tableLines (t : Table) : Except Panic (List (List Char)) := do
  let widths := columnWidths t
  let header ← rowLine widths Column.headers
  let body ← t.rows.mapM fun r => rowLine widths r.cells
  return header :: separatorLine widths :: body

/-- The whole preview. -/
def render (t : Table) : Except Panic String := do
  return String.ofList
    ("# ".toList ++ t.title.toList ++ "\n\n".toList ++ Text.unlines (← tableLines t))

end FieldList.Markdown
