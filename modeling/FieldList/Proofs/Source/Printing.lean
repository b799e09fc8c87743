import FieldList.Proofs.Source.Assembly
import FieldList.Proofs.Source.Layout
import FieldList.Proofs.Source.Quotation
import Mathlib.Data.List.Basic

/-!
# Reading back a printed source

A block is a field as a programmer writes it: annotations and other lines in any order, then the
declaration. `parseFields_print` says that a source printed from blocks gives one field for each of
them, with what is written in the block and nothing of its neighbours.

Each printed line triggers its own search (`ofLine_print`). For all lines but one this follows from
the characters that the line does not have. The text of a description may have any characters but
the quote; what could be found in it would be found in the text alone as well
(`ofLine_describing`), and a `Wording` is a text in which nothing is found.
-/

namespace FieldList.Source

open Text

/-! ## Blocks -/

/-- The name of a type, a field or a constant. -/
structure Identifier where
  chars : List Char
  isWordRun : IsWordRun chars

/-- A text for a description: one line without quotes that says nothing by itself. -/
structure Wording where
  chars : List Char
  ne_nil : chars ≠ []
  quote_notMem : '"' ∉ chars
  newline_notMem : '\n' ∉ chars
  silent : Event.ofLine chars = []

/-- A line that says nothing. -/
structure Remark where
  chars : List Char
  newline_notMem : '\n' ∉ chars
  silent : Event.ofLine chars = []

/-- A line before a declaration: an annotation, or a line that says nothing. -/
inductive Note where
  | description (text : Wording)
  | dateFormat (constant : Identifier)
  | notNull
  | remark (line : Remark)

/-- The blank characters at both ends of a line. -/
structure Margins where
  left : List Char
  right : List Char
  left_blank : AllBlank left
  right_blank : AllBlank right

structure Block where
  notes : List (Margins × Note)
  margins : Margins
  visibility : String
  visibility_mem : visibility ∈ visibilities
  dataType : Identifier
  name : Identifier

/-! ## Printing -/

def Margins.around (m : Margins) (line : List Char) : List Char := m.left ++ line ++ m.right

def dateFormatOpening : List Char := "@JsonFormat(pattern = Const.".toList

def Note.print : Note → List Char
  | description text => descriptionOpening ++ text.chars ++ ['"', ')']
  | dateFormat constant => dateFormatOpening ++ constant.chars ++ [')']
  | notNull => "@NotNull".toList
  | remark line => line.chars

lemma print_description (text : Wording) : (Note.description text).print =
    descriptionOpening ++ text.chars ++ ['"', ')'] := rfl

lemma print_dateFormat (constant : Identifier) : (Note.dateFormat constant).print =
    dateFormatOpening ++ constant.chars ++ [')'] := rfl

/-- The declaration of a block, without margins. -/
def Block.declaration (b : Block) : List Char :=
  b.visibility.toList ++ (' ' :: b.dataType.chars ++ ' ' :: b.name.chars) ++ [';']

def Block.lines (b : Block) : List (List Char) :=
  b.notes.map (fun line => line.1.around line.2.print) ++
    [b.margins.around b.declaration]

/-- The source with the given blocks, its lines joined by line feeds. -/
def print (blocks : List Block) : String :=
  String.ofList (['\n'].intercalate (blocks.flatMap Block.lines))

/-! ## The field of a block -/

def Note.text? : Note → Option String
  | description text => some (String.ofList text.chars)
  | _ => none

def Note.constant? : Note → Option String
  | dateFormat constant => some ("Const." ++ String.ofList constant.chars)
  | _ => none

def Note.isNotNull : Note → Bool
  | notNull => true
  | _ => false

/-- The layout that a constant adds to a description. -/
def constantSuffix (constant : String) : String :=
  if constant = "Const.DATE_FORMAT2" then " (dd/MM/yyyy)"
  else if constant = "Const.DATE_TIME_FORMAT2" then " (dd/MM/yyyy HH:mm:ss)"
  else ""

/-- The last description of the block, then the suffix of its last constant; a value is required
when the block has a mark. -/
def Block.field (b : Block) : Field where
  name := String.ofList b.name.chars
  dataType := String.ofList b.dataType.chars
  description :=
    (b.notes.filterMap (·.2.text?)).getLast?.getD "" ++
      ((b.notes.filterMap (·.2.constant?)).getLast?.map constantSuffix).getD ""
  requirement := if b.notes.any (·.2.isNotNull) then .required else .optional

/-! ## Lines other than descriptions -/

/-- An at sign starts the line and stands nowhere else in it, and the letter after it is no `N`. -/
lemma notNull?_print_dateFormat (constant : Identifier) :
    notNull? (Note.dateFormat constant).print = none := by
  have hopening : dateFormatOpening = '@' :: 'J' :: dateFormatOpening.drop 2 := by decide
  have hmark : "@NotNull".toList = '@' :: 'N' :: ['o', 't', 'N', 'u', 'l', 'l'] := by decide
  have hrest : '@' ∉ 'J' :: dateFormatOpening.drop 2 := by decide
  have hword : '@' ∉ constant.chars := constant.isWordRun.notMem (by decide)
  rw [notNull?_eq_none_iff, print_dateFormat, hopening, hmark]
  intro hstands
  have hstart := isPrefix_of_isInfix_cons
    (s := 'J' :: dateFormatOpening.drop 2 ++ constant.chars ++ [')']) ?_ hstands
  · simp at hstart
  · intro hmem
    rcases List.mem_append.mp hmem with hmem | hmem
    · rcases List.mem_append.mp hmem with hmem | hmem
      · exact hrest hmem
      · exact hword hmem
    · simp at hmem

lemma dateFormat?_print (constant : Identifier) :
    dateFormat? (Note.dateFormat constant).print =
      some (.dateFormat (DateFormat.ofConstant ("Const." ++ String.ofList constant.chars))) := by
  have hspaced : Spaced constantTokens dateFormatOpening :=
    spaced_of_afterTokens (by decide) (by decide)
  have hnames : NamesConstant (Note.dateFormat constant).print []
      ("Const.".toList ++ constant.chars) :=
    ⟨constant.chars, constant.isWordRun, rfl, dateFormatOpening, [], [], hspaced, AllBlank.nil,
      by rw [print_dateFormat, List.nil_append, List.append_nil]⟩
  refine dateFormat?_eq_some_iff.mpr ⟨[], _, ⟨hnames, fun _ _ _ => Nat.zero_le _⟩, ?_⟩
  rw [String.ofList_append, String.ofList_toList]

lemma ofLine_print_dateFormat (constant : Identifier) :
    Event.ofLine (Note.dateFormat constant).print =
      [.dateFormat (DateFormat.ofConstant ("Const." ++ String.ofList constant.chars))] := by
  have hquote : '"' ∉ (Note.dateFormat constant).print := by
    have hopening : '"' ∉ dateFormatOpening := by decide
    have hword : '"' ∉ constant.chars := constant.isWordRun.notMem (by decide)
    simp [print_dateFormat, hopening, hword]
  have hsemicolon : ';' ∉ (Note.dateFormat constant).print := by
    have hopening : ';' ∉ dateFormatOpening := by decide
    have hword : ';' ∉ constant.chars := constant.isWordRun.notMem (by decide)
    simp [print_dateFormat, hopening, hword]
  have htrim : trim (Note.dateFormat constant).print = (Note.dateFormat constant).print := by
    rw [print_dateFormat]
    exact trim_enclosed (by decide) (by decide) _
  rw [ofLine_eq_annotations_append, annotations, htrim, description?_eq_none_of_notMem hquote,
    dateFormat?_print, notNull?_print_dateFormat, declaration?_eq_none_of_notMem hsemicolon]
  rfl

lemma ofLine_declaration (b : Block) :
    Event.ofLine b.declaration =
      [.declaration (String.ofList b.dataType.chars) (String.ofList b.name.chars)] := by
  have hdataType := b.dataType.isWordRun
  have hname := b.name.isWordRun
  have hkeyword := solid_of_mem_visibilities b.visibility_mem
  have htrim : trim b.declaration = b.declaration := trim_enclosed hkeyword.1 (by decide) _
  have hat : '@' ∉ b.declaration := by
    simp [Block.declaration, hkeyword, hdataType.notMem (c := '@') (by decide),
      hname.notMem (c := '@') (by decide)]
  have hquote : '"' ∉ b.declaration := by
    simp [Block.declaration, hkeyword, hdataType.notMem (c := '"') (by decide),
      hname.notMem (c := '"') (by decide)]
  have hspace : IsBlankRun [' '] := ⟨by simp, by simp [AllBlank, show isBlank ' ' by decide]⟩
  have hdeclaration : declaration? b.declaration =
      some (.declaration (String.ofList b.dataType.chars) (String.ofList b.name.chars)) := by
    refine declaration?_eq_some_iff.mpr ⟨[], (b.dataType.chars, b.name.chars),
      ⟨⟨by simp, hdataType, hname, b.visibility, b.visibility_mem, [' '], [' '], [], hspace,
        hspace, by simp [Block.declaration]⟩, fun _ _ _ => Nat.zero_le _⟩, rfl, rfl⟩
  rw [ofLine_eq_annotations_append, annotations, htrim, description?_eq_none_of_notMem hquote,
    dateFormat?_eq_none_of_notMem hat, notNull?_eq_none_of_notMem hat, hdeclaration]
  rfl

/-! ## Descriptions -/

def Wording.quoted (text : Wording) : QuotedText :=
  ⟨text.chars, text.ne_nil, text.quote_notMem, text.newline_notMem⟩

lemma ofLine_print_description (text : Wording) :
    Event.ofLine (Note.description text).print =
      [.description (String.ofList text.chars)] := by
  have hline := ofLine_describing text.quoted
  rw [show text.quoted.chars = text.chars from rfl, text.silent] at hline
  exact hline

/-! ## Whole sources -/

/-- What a note says. -/
def Note.event? : Note → Option Event
  | description text => some (.description (String.ofList text.chars))
  | dateFormat constant =>
      some (.dateFormat (DateFormat.ofConstant ("Const." ++ String.ofList constant.chars)))
  | notNull => some .notNull
  | remark _ => none

/-- What the notes of a block say. -/
def Block.events (b : Block) : List Event :=
  b.notes.filterMap (·.2.event?)

/-- A printed note says what it was printed for and nothing else. -/
lemma ofLine_print (note : Note) :
    Event.ofLine note.print = note.event?.toList := by
  cases note with
  | description text => exact ofLine_print_description text
  | dateFormat constant => exact ofLine_print_dateFormat constant
  | notNull => decide
  | remark line => exact line.silent

lemma newline_notMem_print (note : Note) : '\n' ∉ note.print := by
  cases note with
  | description text =>
    have hopening : '\n' ∉ descriptionOpening := by decide
    simp [print_description, hopening, text.newline_notMem]
  | dateFormat constant =>
    have hopening : '\n' ∉ dateFormatOpening := by decide
    have hword : '\n' ∉ constant.chars := constant.isWordRun.notMem (by decide)
    simp [print_dateFormat, hopening, hword]
  | notNull => decide
  | remark line => exact line.newline_notMem

lemma newline_notMem_declaration (b : Block) : '\n' ∉ b.declaration := by
  simp [Block.declaration, solid_of_mem_visibilities b.visibility_mem,
    b.dataType.isWordRun.notMem (c := '\n') (by decide),
    b.name.isWordRun.notMem (c := '\n') (by decide)]

lemma eventsIn_around (m : Margins) {line : List Char} (hline : '\n' ∉ line) :
    eventsIn (m.around line) = Event.ofLine line :=
  eventsIn_surrounded hline m.left_blank m.right_blank

lemma flatMap_eventsIn_lines (b : Block) :
    b.lines.flatMap eventsIn =
      b.events ++ [.declaration (String.ofList b.dataType.chars) (String.ofList b.name.chars)] := by
  have hline : ∀ line : Margins × Note,
      eventsIn (line.1.around line.2.print) = line.2.event?.toList := by
    intro line
    rw [eventsIn_around _ (newline_notMem_print _), ofLine_print]
  rw [Block.lines, List.flatMap_append, List.flatMap_map, List.flatMap_singleton,
    eventsIn_around _ (newline_notMem_declaration b), ofLine_declaration]
  simp only [hline, Block.events, List.filterMap_eq_flatMap_toList]

lemma isDeclaration_of_mem_events {b : Block} {e : Event} (h : e ∈ b.events) :
    e.isDeclaration = false := by
  obtain ⟨line, -, he⟩ := List.mem_filterMap.mp h
  cases hnote : line.2 <;> rw [hnote] at he <;> cases he <;> rfl

lemma fieldOf_events (b : Block) :
    fieldOf b.events (String.ofList b.dataType.chars) (String.ofList b.name.chars) = b.field := by
  have htext : lastText b.events = (b.notes.filterMap (·.2.text?)).getLast? := by
    have hnote : ∀ note : Note, note.event?.bind Event.text? = note.text? := by
      intro note
      cases note <;> rfl
    simp only [lastText, Block.events, List.filterMap_filterMap, hnote]
  have hformat : lastFormat b.events =
      (b.notes.filterMap (·.2.constant?)).getLast?.map DateFormat.ofConstant := by
    have hnote : ∀ note : Note, note.event?.bind Event.format? =
        note.constant?.map DateFormat.ofConstant := by
      intro note
      cases note <;> rfl
    simp only [lastFormat, Block.events, List.filterMap_filterMap, hnote, ← List.getLast?_map,
      List.map_filterMap]
  have hsuffix : ∀ constant? : Option String,
      layoutSuffix (constant?.map DateFormat.ofConstant) =
        (constant?.map constantSuffix).getD "" := by
    intro constant?
    cases constant? with
    | none => rfl
    | some constant => exact layoutSuffix_ofConstant constant
  have hnotNull : .notNull ∈ b.events ↔ b.notes.any (·.2.isNotNull) := by
    have hnote : ∀ note : Note, note.event? = some .notNull ↔ note.isNotNull := by
      intro note
      cases note <;> simp [Note.event?, Note.isNotNull]
    simp only [Block.events, List.mem_filterMap, List.any_eq_true, hnote]
  simp only [fieldOf, Block.field, htext, hformat, hsuffix, hnotNull]

/-- One block after the other: a declaration leaves nothing pending for the next block. -/
lemma assemble_blocks (blocks : List Block) :
    (assemble Pending.empty ((blocks.flatMap Block.lines).flatMap eventsIn)).1 =
      blocks.map Block.field := by
  induction blocks with
  | nil => rfl
  | cons b blocks ih =>
    rw [List.flatMap_cons, List.flatMap_append, flatMap_eventsIn_lines, List.append_assoc,
      List.singleton_append, assemble_declaration _ fun _ => isDeclaration_of_mem_events,
      field_foldl_absorb, fieldOf_events, ih, List.map_cons]

/-- **Parsing undoes printing.** A printed source has the fields of its blocks, in order. -/
theorem parseFields_print (blocks : List Block) :
    parseFields (print blocks) = blocks.map Block.field := by
  rw [parseFields, eventsOf_eq, print, String.toList_ofList, eventsIn_intercalate,
    assemble_blocks]

/-- Blocks can be built, also with parentheses in a text. -/
theorem parseFields_print_singleton : ∃ b : Block,
    print [b] = "@NotNull\n@Schema(description = \"Born (day)\")\n" ++
        "@JsonFormat(pattern = Const.DATE_FORMAT2)\nprivate Date born;" ∧
      parseFields (print [b]) = [⟨"born", "Date", "Born (day) (dd/MM/yyyy)", .required⟩] :=
  ⟨{ notes := [(⟨[], [], by decide, by decide⟩, .notNull),
      (⟨[], [], by decide, by decide⟩, .description
        ⟨"Born (day)".toList, by decide, by decide, by decide, by decide⟩),
      (⟨[], [], by decide, by decide⟩, .dateFormat ⟨"DATE_FORMAT2".toList, by decide⟩)]
     margins := ⟨[], [], by decide, by decide⟩
     visibility := "private"
     visibility_mem := by decide
     dataType := ⟨"Date".toList, by decide⟩
     name := ⟨"born".toList, by decide⟩ }, by decide, (parseFields_print _).trans (by decide)⟩

end FieldList.Source
