import FieldList.Source.Pending
import FieldList.Text.Lines

/-!
# Fields of a source

A source is read line by line. Its declarations give its fields, in order, each with the
annotations since the declaration before it. Reading never fails: what is not understood is passed
over, and annotations after the last declaration belong to no field.
-/

namespace FieldList.Source

/-- The fields declared by some events, and what is pending after the last of them. -/
def assemble (p : Pending) : List Event → List Field × Pending
  | [] => ([], p)
  | .declaration dataType name :: events =>
    let (field, rest) := p.bind dataType name
    let (fields, leftover) := assemble rest events
    (field :: fields, leftover)
  | event :: events => assemble (p.absorb event) events

/-- Everything that the lines of a source say, in order. -/
def eventsOf (source : String) : List Event :=
  (Text.lines source.toList).flatMap Event.ofLine

/-- The fields of a source. -/
def parseFields (source : String) : List Field := (assemble Pending.empty (eventsOf source)).1

/-- The annotations of a source that no declaration follows. -/
def leftover (source : String) : Pending := (assemble Pending.empty (eventsOf source)).2

end FieldList.Source
