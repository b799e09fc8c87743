import FieldList.Proofs.Source.Layout
import FieldList.Proofs.Source.Windows

/-!
# Sources written one after the other

The fields of two sources with a line feed between them are those of the first source, then those of
the second. `parseFields_append_newline` says that the first source reaches the second only through
the annotations that no declaration of it has taken, and that these reach one field, the first: they
can add to it, and the others are as if the second source stood alone.

What is pending at the seam is any `Pending`, so the comparison is made for the same events read
from two starts (`carriesOver_assemble`). The induction is on the events. Before the first
declaration the two runs keep apart; with it both are empty, and from there on they are equal.
-/

namespace FieldList

/-- What a field has from its declaration: its type and its name. -/
def Field.declared (f : Field) : String × String := (f.dataType, f.name)

namespace Source

open Text

/-- The fields `fs` are the fields `gs`, but for annotations added to the first of them. -/
structure CarriesOver (fs gs : List Field) : Prop where
  length_eq : fs.length = gs.length
  declared_eq : fs.map Field.declared = gs.map Field.declared
  tail_eq : fs.tail = gs.tail
  required : ∀ f ∈ fs.head?, ∀ g ∈ gs.head?, g.requirement = .required → f.requirement = .required

/-- The last line that says something, if there is one, declares a field. -/
def endsDeclared (source : String) : Bool :=
  ((lines source.toList).filter fun line => !(Event.ofLine line).isEmpty).getLast?.all declares

/-! ## Two starts -/

lemma carriesOver_nil : CarriesOver [] [] :=
  ⟨rfl, rfl, rfl, by simp⟩

/-- One declaration makes a field of what is pending, and leaves nothing of it. -/
lemma carriesOver_declaration {p q : Pending} (h : q.notNull → p.notNull)
    (dataType name : String) (fs : List Field) :
    CarriesOver (p.field dataType name :: fs) (q.field dataType name :: fs) where
  length_eq := rfl
  declared_eq := rfl
  tail_eq := rfl
  required := by
    rintro f ⟨⟩ g ⟨⟩ hrequired
    have hq : q.notNull = true := by
      by_contra hnot
      simp [Pending.field, Requirement.ofBool, hnot] at hrequired
    simp [Pending.field, Requirement.ofBool, h hq]

/-- A run from a start with more marks has the same fields, but for the first. -/
lemma carriesOver_assemble (events : List Event) {p q : Pending} (h : q.notNull → p.notNull) :
    CarriesOver (assemble p events).1 (assemble q events).1 := by
  induction events generalizing p q with
  | nil => exact carriesOver_nil
  | cons e events ih =>
    cases e with
    | declaration dataType name => exact carriesOver_declaration h dataType name _
    | description text => exact ih (p := p.absorb (.description text)) h
    | dateFormat format => exact ih (p := p.absorb (.dateFormat format)) h
    | notNull => exact ih (p := p.absorb .notNull) fun _ => rfl

/-! ## The seam -/

lemma eventsOf_append_newline (a b : String) :
    eventsOf (a ++ "\n" ++ b) = eventsOf a ++ eventsOf b := by
  have hseam : (a ++ "\n" ++ b).toList = a.toList ++ '\n' :: b.toList := by
    simp
  rw [eventsOf_eq, eventsOf_eq, eventsOf_eq, hseam, eventsIn_append_newline]

/-- The second source is read from what the first one leaves pending. -/
lemma parseFields_append_newline_eq (a b : String) :
    parseFields (a ++ "\n" ++ b) =
      parseFields a ++ (assemble (leftover a) (eventsOf b)).1 := by
  rw [parseFields, eventsOf_append_newline, assemble_append]
  rfl

/-- Nothing is pending after events that a declaration ends. -/
lemma assemble_append_declaration (p : Pending) (events : List Event) (dataType name : String) :
    (assemble p (events ++ [.declaration dataType name])).2 = Pending.empty := by
  rw [assemble_append]
  rfl

/-- Lines that say nothing do not count. -/
lemma flatMap_ofLine_filter (ls : List (List Char)) :
    (ls.filter fun line => !(Event.ofLine line).isEmpty).flatMap Event.ofLine =
      ls.flatMap Event.ofLine := by
  induction ls with
  | nil => rfl
  | cons line ls ih =>
    cases hline : Event.ofLine line with
    | nil => simp [hline, ih]
    | cons e events => simp [hline, ih]

lemma leftover_eq_empty {source : String} (h : endsDeclared source) :
    leftover source = Pending.empty := by
  rw [leftover, eventsOf, ← flatMap_ofLine_filter]
  unfold endsDeclared at h
  generalize (lines source.toList).filter _ = speaking at h ⊢
  rcases List.eq_nil_or_concat speaking with rfl | ⟨before, line, rfl⟩
  · rfl
  · obtain ⟨dataType, name, hmem⟩ := declares_iff.mp (by simpa using h)
    have hevents : (before.concat line).flatMap Event.ofLine =
        before.flatMap Event.ofLine ++ annotations line ++ [.declaration dataType name] := by
      simp [ofLine_of_declaration_mem hmem]
    rw [hevents, assemble_append_declaration]

/-- **Nothing is read ahead, and nothing goes past a declaration.** A source after another adds its
own fields to the other's. Only the first of these can differ from what it is alone, by what the
other source left pending; a source that ends with a declaration leaves nothing. -/
theorem parseFields_append_newline (a b : String) :
    ∃ fs, parseFields (a ++ "\n" ++ b) = parseFields a ++ fs ∧
      CarriesOver fs (parseFields b) ∧
      (endsDeclared a → fs = parseFields b) := by
  refine ⟨(assemble (leftover a) (eventsOf b)).1, parseFields_append_newline_eq a b, ?_, ?_⟩
  · exact carriesOver_assemble (eventsOf b) (by simp [Pending.empty])
  · intro hdeclared
    rw [leftover_eq_empty hdeclared, parseFields]

/-- Neither the comment after the declaration nor its carriage return keeps it from ending the
source. -/
theorem parseFields_append_newline_declared :
    endsDeclared "@NotNull\nprivate Long id;\r\n// done\r" ∧
      parseFields ("@NotNull\nprivate Long id;\r\n// done\r" ++ "\n" ++ "public Date day;") =
        [⟨"id", "Long", "", .required⟩] ++ [⟨"day", "Date", "", .optional⟩] := by
  have hdeclared : endsDeclared "@NotNull\nprivate Long id;\r\n// done\r" := by decide
  obtain ⟨fs, hfields, -, hfs⟩ := parseFields_append_newline
    "@NotNull\nprivate Long id;\r\n// done\r" "public Date day;"
  have hfirst : parseFields "@NotNull\nprivate Long id;\r\n// done\r" =
      [⟨"id", "Long", "", .required⟩] := by decide
  have hsecond : parseFields "public Date day;" = [⟨"day", "Date", "", .optional⟩] := by decide
  refine ⟨hdeclared, ?_⟩
  rw [hfields, hfs hdeclared, hfirst, hsecond]

end Source

end FieldList
