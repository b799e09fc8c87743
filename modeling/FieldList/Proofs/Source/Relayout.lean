import FieldList.Proofs.Source.Replacement

/-!
# Sources in another layout

The fields of a source do not depend on its layout: not on the form of its line ends, not on the
blank characters at the two ends of its lines, not on lines that say nothing, and not on a byte
order mark in front of it. A `LayoutEdit` is one change of this kind to the text, and
`parseFields_eq_of_relaid` says that any number of them, made or undone, keeps the fields.

All of these edits keep what the text says. The byte order mark is the one that trimming does not
undo: it is not blank, so it stays in its line, and so do the blank characters after it. It is no
word character either, and nothing that is searched for starts with it or with a blank character, so
the searches pass over such characters (`Inert`) and find the rest as if it stood alone.
-/

namespace FieldList.Source

open Text

/-! ## Characters that searches pass over -/

/-- A character with which no annotation and no declaration starts, and which ends no word. -/
def Inert (c : Char) : Prop := c ≠ '@' ∧ isWord c = false

lemma inert_of_isBlank {c : Char} (hc : isBlank c) : Inert c := by
  refine ⟨?_, isWord_eq_false_of_isBlank hc⟩
  rintro rfl
  exact absurd hc (by decide)

/-- A search passes over inert characters when its reader finds nothing at them, and takes them
before its place for nothing at all. -/
lemma leftmost_inert_append {α : Type} {read : Option Char → List Char → Option α}
    (hstart : ∀ c, Inert c → ∀ before s, read before (c :: s) = none)
    (hbefore : ∀ c, Inert c → ∀ s, read (some c) s = read none s)
    {inert : List Char} (hinert : ∀ c ∈ inert, Inert c) (s : List Char) :
    leftmost read none (inert ++ s) = leftmost read none s := by
  induction inert with
  | nil => rfl
  | cons c inert ih =>
    rw [List.forall_mem_cons] at hinert
    have hshift : ∀ t, leftmost read (some c) t = leftmost read none t := by
      intro t
      cases t with
      | nil => exact hbefore c hinert.1 []
      | cons d t => rw [leftmost, leftmost, hbefore c hinert.1]
    rw [List.cons_append, leftmost, hstart c hinert.1, ← ih hinert.2]
    exact hshift (inert ++ s)

section Inert

variable {inert : List Char} (hinert : ∀ c ∈ inert, Inert c) (s : List Char)

include hinert

lemma description?_inert_append : description? (inert ++ s) = description? s := by
  have hstart : ∀ c, Inert c → ∀ before : Option Char, ∀ s, descriptionAt (c :: s) = none := by
    intro c hc _ s
    simp [descriptionAt, afterTokens, afterLiteral, Ne.symm hc.1]
  rw [description?, leftmost_inert_append hstart (fun _ _ _ => rfl) hinert, description?]

lemma dateFormat?_inert_append : dateFormat? (inert ++ s) = dateFormat? s := by
  have hstart : ∀ c, Inert c → ∀ before : Option Char, ∀ s, constantAt (c :: s) = none := by
    intro c hc _ s
    simp [constantAt, afterTokens, afterLiteral, Ne.symm hc.1]
  rw [dateFormat?, leftmost_inert_append hstart (fun _ _ _ => rfl) hinert, dateFormat?]

lemma notNull?_inert_append : notNull? (inert ++ s) = notNull? s := by
  have hstart : ∀ c, Inert c → ∀ before : Option Char, ∀ s,
      afterLiteral "@NotNull".toList (c :: s) = none := by
    intro c hc _ s
    simp [afterLiteral, Ne.symm hc.1]
  rw [notNull?, leftmost_inert_append hstart (fun _ _ _ => rfl) hinert, notNull?]

lemma declaration?_inert_append : declaration? (inert ++ s) = declaration? s := by
  have hstart : ∀ c, Inert c → ∀ before s, declarationAt before (c :: s) = none := by
    intro c hc before s
    have hp : 'p' ≠ c := by
      rintro rfl
      exact absurd hc.2 (by decide)
    simp [declarationAt, afterVisibility, afterLiteral, hp]
  have hbefore : ∀ c, Inert c → ∀ s, declarationAt (some c) s = declarationAt none s := by
    intro c hc s
    simp [declarationAt, hc.2]
  rw [declaration?, leftmost_inert_append hstart hbefore hinert, declaration?]

end Inert

/-! ## Inert characters in front of a line -/

lemma ofLine_inert_cons {c : Char} (hc : Inert c) (line : List Char) :
    Event.ofLine (c :: line) = Event.ofLine line := by
  cases hblank : isBlank c with
  | true =>
    have hgap : AllBlank [c] := by simpa [AllBlank] using hblank
    exact ofLine_gap_append hgap line
  | false =>
    obtain ⟨gap, hgap, htrim⟩ := exists_trim_cons_eq hblank line
    have hinert : ∀ d ∈ c :: gap, Inert d := by
      rw [List.forall_mem_cons]
      exact ⟨hc, fun d hd => inert_of_isBlank (hgap d hd)⟩
    rw [ofLine_eq_annotations_append, ofLine_eq_annotations_append, annotations, annotations,
      htrim, description?_inert_append hinert, dateFormat?_inert_append hinert,
      notNull?_inert_append hinert, declaration?_inert_append hinert]

lemma eventsIn_inert_cons {c : Char} (hc : Inert c) (s : List Char) :
    eventsIn (c :: s) = eventsIn s :=
  eventsIn_cons (ofLine_inert_cons hc) s

/-! ## Line ends -/

/-- The ends that a line can have. -/
def lineEnds : List (List Char) := [['\n'], ['\r', '\n']]

lemma blank_of_mem_lineEnds {lineEnd : List Char} (h : lineEnd ∈ lineEnds) :
    AllBlank lineEnd ∧ lineEnd.getLast? = some '\n' := by
  have hall : ∀ lineEnd ∈ lineEnds, AllBlank lineEnd ∧ lineEnd.getLast? = some '\n' := by decide
  exact hall lineEnd h

/-- The text with a carriage return before each line feed. -/
def withReturns (s : List Char) : List Char :=
  s.flatMap fun c => if c = '\n' then ['\r', '\n'] else [c]

/-- Induction over a text line by line. -/
@[elab_as_elim]
lemma line_induction {P : List Char → Prop} (last : ∀ line, '\n' ∉ line → P line)
    (more : ∀ line rest, '\n' ∉ line → P rest → P (line ++ '\n' :: rest)) (s : List Char) :
    P s := by
  by_cases hs : '\n' ∈ s
  · obtain ⟨line, rest, rfl, hline⟩ := List.eq_append_cons_of_mem hs
    have hsmaller : rest.length < (line ++ '\n' :: rest).length := by
      simp
      omega
    exact more line rest hline (line_induction last more rest)
  · exact last s hs
termination_by s.length

/-- Blank characters at the end of a text say nothing, line feeds included. -/
lemma eventsIn_append_gap (s : List Char) {gap : List Char} (hgap : AllBlank gap) :
    eventsIn (s ++ gap) = eventsIn s := by
  induction s using line_induction with
  | last line hline =>
    rw [eventsIn_of_newline_notMem hline]
    exact eventsIn_surrounded hline AllBlank.nil hgap
  | more line rest hline ih =>
    rw [List.append_assoc, List.cons_append, eventsIn_append_newline, ih, eventsIn_append_newline]

lemma withReturns_of_notMem {line : List Char} (hline : '\n' ∉ line) : withReturns line = line := by
  rw [withReturns, List.flatMap_congr fun c hc => if_neg (ne_of_mem_of_not_mem hc hline),
    List.flatMap_singleton']

lemma eventsIn_withReturns (s : List Char) : eventsIn (withReturns s) = eventsIn s := by
  induction s using line_induction with
  | last line hline => rw [withReturns_of_notMem hline]
  | more line rest hline ih =>
    have hreturn : AllBlank ['\r'] := by decide
    have hsplit : withReturns (line ++ '\n' :: rest) =
        (line ++ ['\r']) ++ '\n' :: withReturns rest := by
      rw [withReturns, List.flatMap_append, ← withReturns, withReturns_of_notMem hline]
      simp [withReturns]
    rw [hsplit, eventsIn_append_newline, eventsIn_append_newline, eventsIn_append_gap line hreturn,
      ih]

/-- A line end cuts what a text says in two. -/
lemma eventsIn_append_lineEnd_append (s : List Char) {lineEnd : List Char}
    (h : lineEnd ∈ lineEnds) (t : List Char) :
    eventsIn (s ++ lineEnd ++ t) = eventsIn s ++ eventsIn t := by
  obtain ⟨hblank, hlast⟩ := blank_of_mem_lineEnds h
  have hends : (s ++ lineEnd).getLast? = some '\n' := by simp [List.getLast?_append, hlast]
  rw [eventsIn_append_of_ends (Or.inr hends), eventsIn_append_gap s hblank]

/-! ## Edits -/

/-- A new line starts after this text. -/
def StartsLine (before : List Char) : Prop := before = [] ∨ before.getLast? = some '\n'

/-- A line ends before this text. -/
def EndsLine (after : List Char) : Prop := after = [] ∨ ∃ lineEnd ∈ lineEnds, lineEnd <+: after

def byteOrderMark : Char := '\uFEFF'

/-- One change to the layout of a text. -/
inductive LayoutEdit : List Char → List Char → Prop where
  /-- Each line feed gets a carriage return before it. -/
  | returns (s : List Char) : LayoutEdit s (withReturns s)
  /-- Blank characters are put in where a line starts. -/
  | indent (before : List Char) {gap : List Char} (after : List Char) :
      StartsLine before → AllBlank gap → LayoutEdit (before ++ after) (before ++ gap ++ after)
  /-- Blank characters are put in where a line ends. -/
  | trail (before : List Char) {gap after : List Char} :
      EndsLine after → AllBlank gap → LayoutEdit (before ++ after) (before ++ gap ++ after)
  /-- A line that says nothing is put in where a line starts. -/
  | line (before : List Char) {lineEnd : List Char} (remark : Remark) (after : List Char) :
      StartsLine before → lineEnd ∈ lineEnds →
        LayoutEdit (before ++ after) (before ++ remark.chars ++ lineEnd ++ after)
  /-- A line that says nothing is put after the last line, which has an end of its own or gets
  one. -/
  | lastLine (before : List Char) {lineEnd : List Char} (remark : Remark) :
      StartsLine before ∧ lineEnd = [] ∨ lineEnd ∈ lineEnds →
        LayoutEdit before (before ++ lineEnd ++ remark.chars)
  | mark (s : List Char) : LayoutEdit s (byteOrderMark :: s)

lemma eventsIn_remark (remark : Remark) : eventsIn remark.chars = [] := by
  rw [eventsIn_of_newline_notMem remark.newline_notMem, remark.silent]

lemma eventsIn_trail (before : List Char) {gap after : List Char} (hafter : EndsLine after)
    (hgap : AllBlank gap) : eventsIn (before ++ gap ++ after) = eventsIn (before ++ after) := by
  rcases hafter with rfl | ⟨lineEnd, hend, rest, rfl⟩
  · rw [List.append_nil, List.append_nil, eventsIn_append_gap before hgap]
  · rw [← List.append_assoc, eventsIn_append_lineEnd_append _ hend, eventsIn_append_gap before hgap,
      ← List.append_assoc, eventsIn_append_lineEnd_append _ hend]

/-- One edit keeps what the text says. -/
lemma eventsIn_eq_of_layoutEdit {s t : List Char} (h : LayoutEdit s t) :
    eventsIn s = eventsIn t := by
  cases h with
  | returns => exact (eventsIn_withReturns s).symm
  | indent before after hbefore hgap =>
    rw [List.append_assoc, eventsIn_append_of_ends hbefore, eventsIn_append_of_ends hbefore,
      eventsIn_gap_append hgap]
  | trail before hafter hgap => exact (eventsIn_trail before hafter hgap).symm
  | line before remark after hbefore hend =>
    rw [eventsIn_append_lineEnd_append _ hend, eventsIn_append_of_ends hbefore,
      eventsIn_append_of_ends hbefore, eventsIn_remark, List.append_nil]
  | lastLine before remark hend =>
    rcases hend with ⟨hbefore, rfl⟩ | hend
    · rw [List.append_nil, eventsIn_append_of_ends hbefore, eventsIn_remark, List.append_nil]
    · rw [eventsIn_append_lineEnd_append _ hend, eventsIn_remark, List.append_nil]
  | mark =>
    have hmark : Inert byteOrderMark := ⟨by decide, by decide +kernel⟩
    exact (eventsIn_inert_cons hmark s).symm

/-- So do any number of edits, done or undone. -/
lemma eventsIn_eq_of_relaid {s t : List Char} (h : Relation.EqvGen LayoutEdit s t) :
    eventsIn s = eventsIn t := by
  induction h with
  | rel s t hedit => exact eventsIn_eq_of_layoutEdit hedit
  | refl s => rfl
  | symm s t _ ih => exact ih.symm
  | trans s t u _ _ hst htu => exact hst.trans htu

/-- **The layout of a source does not count.** A source that comes out of another by changes to its
layout, any number of them and also taken back, has the same fields. -/
theorem parseFields_eq_of_relaid {source source' : String}
    (h : Relation.EqvGen LayoutEdit source.toList source'.toList) :
    parseFields source = parseFields source' := by
  rw [parseFields, parseFields, eventsOf_eq, eventsOf_eq, eventsIn_eq_of_relaid h]

/-- A remark is taken out, a line is indented, the line ends are changed, and a byte order mark is
put in front. -/
theorem parseFields_eq_of_relaid_marked :
    Relation.EqvGen LayoutEdit "// id\n@NotNull\npublic T x;".toList
        "\uFEFF@NotNull\r\n\tpublic T x;".toList ∧
      parseFields "// id\n@NotNull\npublic T x;" =
        parseFields "\uFEFF@NotNull\r\n\tpublic T x;" := by
  have hend : ['\n'] ∈ lineEnds := by decide
  have hremark : LayoutEdit "@NotNull\npublic T x;".toList
      "// id\n@NotNull\npublic T x;".toList :=
    .line [] ⟨"// id".toList, by decide, by decide⟩ _ (Or.inl rfl) hend
  have htab : AllBlank ['\t'] := by decide
  have hindent : LayoutEdit "@NotNull\npublic T x;".toList "@NotNull\n\tpublic T x;".toList :=
    .indent "@NotNull\n".toList "public T x;".toList (Or.inr rfl) htab
  have hreturns : LayoutEdit "@NotNull\n\tpublic T x;".toList
      "@NotNull\r\n\tpublic T x;".toList := by
    have htext : withReturns "@NotNull\n\tpublic T x;".toList =
        "@NotNull\r\n\tpublic T x;".toList := by decide
    rw [← htext]
    exact .returns _
  have hmark : LayoutEdit "@NotNull\r\n\tpublic T x;".toList
      "\uFEFF@NotNull\r\n\tpublic T x;".toList := by
    have htext : byteOrderMark :: "@NotNull\r\n\tpublic T x;".toList =
        "\uFEFF@NotNull\r\n\tpublic T x;".toList := by decide
    rw [← htext]
    exact .mark _
  have hrelaid : Relation.EqvGen LayoutEdit "// id\n@NotNull\npublic T x;".toList
      "\uFEFF@NotNull\r\n\tpublic T x;".toList :=
    .trans _ _ _ (.symm _ _ (.rel _ _ hremark)) <| .trans _ _ _ (.rel _ _ hindent) <|
      .trans _ _ _ (.rel _ _ hreturns) (.rel _ _ hmark)
  exact ⟨hrelaid, parseFields_eq_of_relaid hrelaid⟩

end FieldList.Source
