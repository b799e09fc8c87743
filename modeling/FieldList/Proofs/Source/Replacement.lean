import FieldList.Proofs.Source.Printing
import FieldList.Proofs.Source.Seams

/-!
# Replacing the text of a description

In a source that has a description on a line of its own, another text is put between the quotes.
`parseFields_replace_description` says what changes, when the two texts by themselves say the same:
at most one description, that of the first field declared after the line, and there the one text
takes the place of the other.

The condition cannot be left out. The rules do not know of quotes, so a text that mentions a mark
makes the field required (`requirement_of_quoted_mark`). With it, the line of either text gives its
description and then events that are the same for both (`ofLine_describing`), so the two runs differ
in the pending description alone, until a declaration takes it or another description replaces it.
-/

namespace FieldList

/-- What a field is besides its description. -/
def Field.undescribed (f : Field) : String × String × Requirement :=
  (f.name, f.dataType, f.requirement)

namespace Source

open Text

/-! ## Places for a line -/

/-- A source with room for one line, blank characters around the line included. -/
structure Place where
  before : List Char
  margins : Margins
  after : List Char
  before_ends : before = [] ∨ before.getLast? = some '\n'
  after_starts : after = [] ∨ after.head? = some '\n'

/-- The source with a line put into the place. -/
def Place.fill (p : Place) (line : List Char) : String :=
  String.ofList (p.before ++ p.margins.around line ++ p.after)

lemma eventsIn_nil : eventsIn [] = [] := eventsIn_of_allBlank AllBlank.nil

lemma eventsIn_append_of_ends {s : List Char} (h : s = [] ∨ s.getLast? = some '\n')
    (t : List Char) : eventsIn (s ++ t) = eventsIn s ++ eventsIn t := by
  rcases h with rfl | h
  · rw [eventsIn_nil, List.nil_append, List.nil_append]
  · obtain ⟨r, rfl⟩ := List.getLast?_eq_some_iff.mp h
    rw [List.append_assoc, List.singleton_append, eventsIn_append_newline,
      eventsIn_append_newline, eventsIn_nil, List.append_nil]

lemma eventsIn_append_of_starts (s : List Char) {t : List Char}
    (h : t = [] ∨ t.head? = some '\n') : eventsIn (s ++ t) = eventsIn s ++ eventsIn t := by
  rcases h with rfl | h
  · rw [eventsIn_nil, List.append_nil, List.append_nil]
  · obtain ⟨r, rfl⟩ := List.head?_eq_some_iff.mp h
    have hline : eventsIn ('\n' :: r) = eventsIn r := by
      simpa [eventsIn_nil] using eventsIn_append_newline [] r
    rw [eventsIn_append_newline, hline]

/-- A source says what stands before the line, what the line says, and what stands after it. -/
lemma eventsOf_fill (p : Place) {line : List Char} (hline : '\n' ∉ line) :
    eventsOf (p.fill line) =
      eventsIn p.before ++ (Event.ofLine line ++ eventsIn p.after) := by
  rw [eventsOf_eq, Place.fill, String.toList_ofList, eventsIn_append_of_starts _ p.after_starts,
    eventsIn_append_of_ends p.before_ends, eventsIn_around _ hline, List.append_assoc]

lemma newline_notMem_describing (text : QuotedText) : '\n' ∉ describing text := by
  have hopening : '\n' ∉ descriptionOpening := by decide
  simp [describing, hopening, text.newline_notMem]

/-! ## Two pending descriptions -/

/-- The fields are the same, but that the description of the first may start with the one text here
and with the other there. -/
def Redescribed (text text' : String) (fs fs' : List Field) : Prop :=
  fs = fs' ∨ ∃ (field : Field) (suffix : String) (rest : List Field),
    fs = { field with description := text ++ suffix } :: rest ∧
      fs' = { field with description := text' ++ suffix } :: rest

lemma Redescribed.undescribed_eq {text text' : String} {fs fs' : List Field}
    (h : Redescribed text text' fs fs') :
    fs.map Field.undescribed = fs'.map Field.undescribed := by
  rcases h with rfl | ⟨field, suffix, rest, rfl, rfl⟩
  · rfl
  · rfl

/-- Two runs that differ in the pending description differ in the description of the first field,
or not at all. -/
lemma redescribed_assemble (text text' : String) (events : List Event) (p : Pending) :
    Redescribed text text' (assemble (p.absorb (.description text)) events).1
      (assemble (p.absorb (.description text')) events).1 := by
  induction events generalizing p with
  | nil => exact Or.inl rfl
  | cons e events ih =>
    cases e with
    | declaration dataType name =>
      exact Or.inr ⟨p.field dataType name, (p.dateFormat.bind DateFormat.suffix?).getD "",
        (assemble Pending.empty events).1, rfl, rfl⟩
    | description other => exact Or.inl rfl
    | dateFormat format => exact ih (p.absorb (.dateFormat format))
    | notNull => exact ih (p.absorb .notNull)

/-- The line gives the fields before it nothing, and the next one a pending description. -/
lemma parseFields_fill_describing (p : Place) (text : QuotedText) :
    parseFields (p.fill (describing text)) =
      parseFields (String.ofList p.before) ++
        (assemble ((leftover (String.ofList p.before)).absorb
          (.description (String.ofList text.chars)))
            (Event.ofLine text.chars ++ eventsIn p.after)).1 := by
  have hbefore : eventsOf (String.ofList p.before) = eventsIn p.before := by
    rw [eventsOf_eq, String.toList_ofList]
  rw [parseFields, eventsOf_fill p (newline_notMem_describing text), ofLine_describing,
    assemble_append, parseFields, leftover, hbefore]
  rfl

/-! ## Replacing -/

/-- A mark in the text of a description makes the field required. -/
theorem requirement_of_quoted_mark :
    ¬ ∀ (p : Place) (text text' : QuotedText), '\\' ∉ text.chars → '\\' ∉ text'.chars →
      (parseFields (p.fill (describing text))).map Field.undescribed =
        (parseFields (p.fill (describing text'))).map Field.undescribed := by
  intro hopaque
  have hsame := hopaque ⟨[], ⟨[], [], by decide, by decide⟩, "\nprivate Long id;".toList,
    Or.inl rfl, Or.inr rfl⟩ ⟨"Id".toList, by decide, by decide, by decide⟩
    ⟨"@NotNull".toList, by decide, by decide, by decide⟩ (by decide) (by decide)
  have hplain : parseFields "@Schema(description = \"Id\")\nprivate Long id;" =
      [⟨"id", "Long", "Id", .optional⟩] := by decide
  have hmarked : parseFields "@Schema(description = \"@NotNull\")\nprivate Long id;" =
      [⟨"id", "Long", "@NotNull", .required⟩] := by decide
  change (parseFields "@Schema(description = \"Id\")\nprivate Long id;").map Field.undescribed =
    (parseFields "@Schema(description = \"@NotNull\")\nprivate Long id;").map
      Field.undescribed at hsame
  rw [hplain, hmarked] at hsame
  exact absurd hsame (by decide)

/-- **The text of a description changes a description only.** A line that gives a text as a
description gives besides it what the text says by itself. So, of two texts that say the same, the
one can take the place of the other: the fields keep their number, names, types and requirements,
and only the first field declared after the line can have another description, with the one text in
the place of the other. -/
theorem parseFields_replace_description (p : Place) (text text' : QuotedText)
    (hevents : Event.ofLine text.chars = Event.ofLine text'.chars) :
    Event.ofLine (describing text) =
        .description (String.ofList text.chars) :: Event.ofLine text.chars ∧
      (parseFields (p.fill (describing text))).map Field.undescribed =
        (parseFields (p.fill (describing text'))).map Field.undescribed ∧
      ∃ fs fs',
        parseFields (p.fill (describing text)) = parseFields (String.ofList p.before) ++ fs ∧
          parseFields (p.fill (describing text')) = parseFields (String.ofList p.before) ++ fs' ∧
          Redescribed (String.ofList text.chars) (String.ofList text'.chars) fs fs' := by
  have hfields := redescribed_assemble (String.ofList text.chars) (String.ofList text'.chars)
    (Event.ofLine text.chars ++ eventsIn p.after) (leftover (String.ofList p.before))
  have hsecond := parseFields_fill_describing p text'
  rw [← hevents] at hsecond
  refine ⟨ofLine_describing text, ?_, _, _, parseFields_fill_describing p text, hsecond, hfields⟩
  rw [parseFields_fill_describing p text, hsecond, List.map_append, List.map_append,
    hfields.undescribed_eq]

/-- The two texts mention the same mark, and the description is that of the second field. -/
theorem parseFields_replace_description_marked :
    Event.ofLine "see @NotNull".toList = Event.ofLine "@NotNull (new)".toList ∧
      (parseFields
            "public Long a;\n  @Schema(description = \"see @NotNull\")\r\npublic Date b;").map
          Field.undescribed =
        (parseFields
            "public Long a;\n  @Schema(description = \"@NotNull (new)\")\r\npublic Date b;").map
          Field.undescribed := by
  have hevents : Event.ofLine "see @NotNull".toList = Event.ofLine "@NotNull (new)".toList := by
    decide
  have hreplace := parseFields_replace_description
    ⟨"public Long a;\n".toList, ⟨"  ".toList, "\r".toList, by decide, by decide⟩,
      "\npublic Date b;".toList, Or.inr rfl, Or.inr rfl⟩
    ⟨"see @NotNull".toList, by decide, by decide, by decide⟩
    ⟨"@NotNull (new)".toList, by decide, by decide, by decide⟩ hevents
  exact ⟨hevents, hreplace.2.1⟩

end Source

end FieldList
