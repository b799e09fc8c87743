import FieldList.Source.Event
import FieldList.Field

/-!
# Pending annotations

Annotations stand before the declaration that they belong to. What was read since the last
declaration is pending; a repeated description or date format replaces the earlier one, and a
declaration takes everything that is pending.
-/

namespace FieldList.Source

structure Pending where
  description : Option String := none
  dateFormat : Option DateFormat := none
  notNull : Bool := false
  deriving DecidableEq, Repr

namespace Pending

def empty : Pending := {}

def isEmpty (p : Pending) : Bool :=
  p.description.isNone && p.dateFormat.isNone && !p.notNull

/-- Adds one annotation. A declaration adds nothing. -/
def absorb (p : Pending) : Event → Pending
  | .description text => { p with description := some text }
  | .dateFormat format => { p with dateFormat := some format }
  | .notNull => { p with notNull := true }
  | .declaration _ _ => p

/-- The field declared with the pending annotations: the layout of dates follows the
description. -/
def field (p : Pending) (dataType name : String) : Field where
  name := name
  dataType := dataType
  description := p.description.getD "" ++ (p.dateFormat.bind DateFormat.suffix?).getD ""
  requirement := Requirement.ofBool p.notNull

/-- The declared field, and what is pending after its declaration. -/
def bind (p : Pending) (dataType name : String) : Field × Pending :=
  (p.field dataType name, empty)

/-! ## Histories -/

/-- One step in the life of pending annotations. -/
inductive Action where
  | absorb (event : Event)
  | bind (dataType name : String)
  | clear

/-- What is pending after a step, and the field that the step declares. -/
def act (p : Pending) : Action → Pending × Option Field
  | .absorb event => (p.absorb event, none)
  | .bind dataType name => let (field, rest) := p.bind dataType name; (rest, some field)
  | .clear => (empty, none)

/-- The outcome of each step of a history. -/
def history (p : Pending) : List Action → List (Pending × Option Field)
  | [] => []
  | action :: actions => p.act action :: history (p.act action).1 actions

end Pending

end FieldList.Source
