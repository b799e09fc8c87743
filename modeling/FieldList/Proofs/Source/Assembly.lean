import FieldList.Proofs.Source.Events
import FieldList.Source.Fields

/-!
# What is pending after some events

Annotations that follow one another are summed up by the last description, the last date format and
whether null was forbidden (`foldl_absorb`). A list of events is therefore assembled span by span:
`assemble_append` cuts it anywhere, and `assemble_declaration` gives the field of the span that a
declaration ends.
-/

namespace FieldList.Source

/-! ## Annotations -/

/-- The text of the last description. -/
def lastText (events : List Event) : Option String := (events.filterMap Event.text?).getLast?

/-- The layout of the last date format. -/
def lastFormat (events : List Event) : Option DateFormat :=
  (events.filterMap Event.format?).getLast?

lemma lastText_append (events events' : List Event) :
    lastText (events ++ events') = (lastText events').or (lastText events) := by
  simp [lastText, List.getLast?_append]

lemma lastFormat_append (events events' : List Event) :
    lastFormat (events ++ events') = (lastFormat events').or (lastFormat events) := by
  simp [lastFormat, List.getLast?_append]

/-- One annotation changes what is pending as the sum of annotations says. -/
lemma absorb_eq (p : Pending) (e : Event) :
    p.absorb e =
      { description := (lastText [e]).or p.description
        dateFormat := (lastFormat [e]).or p.dateFormat
        notNull := p.notNull || decide (e = .notNull) } := by
  cases e <;> simp [Pending.absorb, lastText, lastFormat, Event.text?, Event.format?]

lemma foldl_absorb (p : Pending) (events : List Event) :
    events.foldl Pending.absorb p =
      { description := (lastText events).or p.description
        dateFormat := (lastFormat events).or p.dateFormat
        notNull := p.notNull || decide (.notNull ∈ events) } := by
  induction events generalizing p with
  | nil => simp [lastText, lastFormat]
  | cons e events ih =>
    have htext := lastText_append [e] events
    have hformat := lastFormat_append [e] events
    rw [List.singleton_append] at htext hformat
    rw [List.foldl_cons, ih, absorb_eq, htext, hformat]
    simp [Option.or_assoc, Bool.or_assoc, eq_comm]

/-! ## Spans -/

lemma assemble_append (p : Pending) (events events' : List Event) :
    assemble p (events ++ events') =
      ((assemble p events).1 ++ (assemble (assemble p events).2 events').1,
        (assemble (assemble p events).2 events').2) := by
  fun_induction assemble p events with
  | case1 p => rfl
  | case2 p dataType name events field rest hbind fields leftover hrest ih =>
    simp_all [assemble]
  | case3 p e events hne ih =>
    rw [List.cons_append, assemble, ih]
    exact hne

/-- Annotations alone declare nothing. -/
lemma assemble_annotations (p : Pending) {events : List Event}
    (h : ∀ e ∈ events, e.isDeclaration = false) :
    assemble p events = ([], events.foldl Pending.absorb p) := by
  induction events generalizing p with
  | nil => rfl
  | cons e events ih =>
    have he : e.isDeclaration = false := h e List.mem_cons_self
    have hevents := ih (p.absorb e) fun e' he' => h e' (List.mem_cons_of_mem _ he')
    cases e with
    | declaration dataType name => simp [Event.isDeclaration] at he
    | description text => exact hevents
    | dateFormat format => exact hevents
    | notNull => exact hevents

/-- A declaration takes all annotations since the one before it and leaves nothing pending. -/
lemma assemble_declaration (p : Pending) {events : List Event}
    (h : ∀ e ∈ events, e.isDeclaration = false) (dataType name : String) (more : List Event) :
    assemble p (events ++ .declaration dataType name :: more) =
      ((events.foldl Pending.absorb p).field dataType name :: (assemble Pending.empty more).1,
        (assemble Pending.empty more).2) := by
  rw [assemble_append, assemble_annotations p h]
  simp [assemble, Pending.bind]

/-! ## The field of a span -/

/-- What a date layout adds to a description. -/
def layoutSuffix : Option DateFormat → String
  | some .date => " (dd/MM/yyyy)"
  | some .dateTime => " (dd/MM/yyyy HH:mm:ss)"
  | some (.other _) => ""
  | none => ""

lemma layoutSuffix_eq (format : Option DateFormat) :
    layoutSuffix format = (format.bind DateFormat.suffix?).getD "" := by
  rcases format with _ | _ | _ | _ <;> rfl

lemma layoutSuffix_ofConstant (constant : String) :
    layoutSuffix (some (DateFormat.ofConstant constant)) =
      if constant = "Const.DATE_FORMAT2" then " (dd/MM/yyyy)"
      else if constant = "Const.DATE_TIME_FORMAT2" then " (dd/MM/yyyy HH:mm:ss)"
      else "" := by
  rw [DateFormat.ofConstant]
  split
  · rfl
  · split <;> rfl

/-- The field that a declaration makes of the events before it. -/
def fieldOf (events : List Event) (dataType name : String) : Field where
  name := name
  dataType := dataType
  description := (lastText events).getD "" ++ layoutSuffix (lastFormat events)
  requirement := if .notNull ∈ events then .required else .optional

lemma field_foldl_absorb (events : List Event) (dataType name : String) :
    (events.foldl Pending.absorb Pending.empty).field dataType name =
      fieldOf events dataType name := by
  rw [foldl_absorb, Pending.field, fieldOf, layoutSuffix_eq]
  simp [Pending.empty, Requirement.ofBool]

/-- A declaration adds nothing to the field that it declares. -/
lemma fieldOf_append_declaration (events : List Event) (dataType name dataType' name' : String) :
    fieldOf (events ++ [.declaration dataType' name']) dataType name =
      fieldOf events dataType name := by
  simp [fieldOf, lastText, lastFormat, Event.text?, Event.format?]

end FieldList.Source
