import FieldList.Proofs.Text.Reading
import FieldList.Source.Event

/-!
# The events of a line

A line gives at most one event of each kind, in a fixed order of kinds, and the declaration last.
`ofLine_pairwise_rank` is that order, and `mem_ofLine_iff` tells each event by the one search that
can have found it, so that later proofs never go through the list of the four searches.
-/

namespace FieldList.Source

open Text

namespace Event

/-! ## Kinds of events -/

/-- The place of an event in the order in which a line gives its events. -/
def rank : Event → Nat
  | description _ => 0
  | dateFormat _ => 1
  | notNull => 2
  | declaration _ _ => 3

/-- The search of a line that finds events of this kind. -/
def search : Event → List Char → Option Event
  | description _ => description?
  | dateFormat _ => dateFormat?
  | notNull => notNull?
  | declaration _ _ => declaration?

def isDeclaration : Event → Bool
  | declaration _ _ => true
  | _ => false

/-- The text of a description. -/
def text? : Event → Option String
  | description text => some text
  | _ => none

/-- The layout of a date format. -/
def format? : Event → Option DateFormat
  | dateFormat format => some format
  | _ => none

lemma isDeclaration_iff_rank {e : Event} : e.isDeclaration ↔ e.rank = 3 := by
  cases e <;> simp [isDeclaration, rank]

end Event

variable {s line : List Char} {e : Event}

lemma rank_of_description? (h : description? s = some e) : e.rank = 0 := by
  obtain ⟨text, -, rfl⟩ := Option.map_eq_some_iff.mp h
  rfl

lemma rank_of_dateFormat? (h : dateFormat? s = some e) : e.rank = 1 := by
  obtain ⟨constant, -, rfl⟩ := Option.map_eq_some_iff.mp h
  rfl

lemma rank_of_notNull? (h : notNull? s = some e) : e.rank = 2 := by
  obtain ⟨rest, -, rfl⟩ := Option.map_eq_some_iff.mp h
  rfl

lemma rank_of_declaration? (h : declaration? s = some e) : e.rank = 3 := by
  obtain ⟨declared, -, rfl⟩ := Option.map_eq_some_iff.mp h
  rfl

/-! ## Which search found an event -/

lemma mem_ofLine_iff : e ∈ Event.ofLine line ↔ e.search (trim line) = some e := by
  cases e <;>
    simp [Event.ofLine, Event.search, description?, dateFormat?, notNull?, declaration?]

/-- The events of a line come in the order of their kinds. -/
lemma ofLine_pairwise_rank (line : List Char) :
    ((Event.ofLine line).map Event.rank).Pairwise (· < ·) := by
  rw [List.pairwise_map, Event.ofLine, List.pairwise_filterMap]
  have hrank : ∀ {i j : Nat} {f g : List Char → Option Event}, i < j →
      (∀ {e}, f (trim line) = some e → e.rank = i) →
      (∀ {e}, g (trim line) = some e → e.rank = j) →
      ∀ b, f (trim line) = some b → ∀ b', g (trim line) = some b' → b.rank < b'.rank := by
    intro i j f g hij hf hg b hb b' hb'
    rw [hf hb, hg hb']
    exact hij
  simp only [List.pairwise_cons, List.mem_cons, List.not_mem_nil, or_false, forall_eq_or_imp,
    forall_eq, List.Pairwise.nil, and_true, false_imp_iff, implies_true]
  refine ⟨⟨?_, ?_, ?_⟩, ⟨?_, ?_⟩, ?_⟩
  · exact hrank (by decide) rank_of_description? rank_of_dateFormat?
  · exact hrank (by decide) rank_of_description? rank_of_notNull?
  · exact hrank (by decide) rank_of_description? rank_of_declaration?
  · exact hrank (by decide) rank_of_dateFormat? rank_of_notNull?
  · exact hrank (by decide) rank_of_dateFormat? rank_of_declaration?
  · exact hrank (by decide) rank_of_notNull? rank_of_declaration?

/-- A line gives at most one event of each kind. -/
lemma eq_of_mem_ofLine_of_rank_eq {e' : Event} (he : e ∈ Event.ofLine line)
    (he' : e' ∈ Event.ofLine line) (h : e.rank = e'.rank) : e = e' := by
  have hsearch : e.search = e'.search := by
    cases e <;> cases e' <;> first | rfl | simp [Event.rank] at h
  rw [mem_ofLine_iff] at he he'
  rw [hsearch, he'] at he
  exact (Option.some.inj he).symm

/-! ## The declaration comes last -/

/-- What a line says about the field of the next declaration. -/
def annotations (line : List Char) : List Event :=
  (description? (trim line)).toList ++ (dateFormat? (trim line)).toList ++
    (notNull? (trim line)).toList

/-- A line is its annotations and, after them, what it declares. -/
lemma ofLine_eq_annotations_append (line : List Char) :
    Event.ofLine line = annotations line ++ (declaration? (trim line)).toList := by
  have hone : ∀ find? : List Char → Option Event,
      [find?].filterMap (fun find? => find? (trim line)) = (find? (trim line)).toList := by
    intro find?
    cases h : find? (trim line) <;> simp [h]
  rw [annotations, ← hone, ← hone, ← hone, ← hone, ← List.filterMap_append,
    ← List.filterMap_append, ← List.filterMap_append]
  rfl

lemma isDeclaration_of_mem_annotations (h : e ∈ annotations line) : e.isDeclaration = false := by
  have hrank : e.rank ≠ 3 := by
    simp only [annotations, List.mem_append, Option.mem_toList] at h
    rcases h with (he | he) | he
    · simp [rank_of_description? he]
    · simp [rank_of_dateFormat? he]
    · simp [rank_of_notNull? he]
  simpa [← Event.isDeclaration_iff_rank] using hrank

lemma ofLine_of_declaration_mem {dataType name : String}
    (h : .declaration dataType name ∈ Event.ofLine line) :
    Event.ofLine line = annotations line ++ [.declaration dataType name] := by
  have hfound : declaration? (trim line) = some (.declaration dataType name) :=
    mem_ofLine_iff.mp h
  rw [ofLine_eq_annotations_append, hfound]
  rfl

/-- A declaration is the last event of its line. -/
lemma getLast?_ofLine_of_mem {dataType name : String}
    (h : .declaration dataType name ∈ Event.ofLine line) :
    (Event.ofLine line).getLast? = some (.declaration dataType name) := by
  simp [ofLine_of_declaration_mem h]

/-! ## Only the trimmed line counts -/

lemma ofLine_eq_of_trim_eq {line' : List Char} (h : trim line = trim line') :
    Event.ofLine line = Event.ofLine line' := by
  rw [Event.ofLine, h, Event.ofLine]

lemma ofLine_gap_append {gap : List Char} (hgap : AllBlank gap) (s : List Char) :
    Event.ofLine (gap ++ s) = Event.ofLine s :=
  ofLine_eq_of_trim_eq (trim_gap_append hgap s)

lemma ofLine_append_gap (s : List Char) {gap : List Char} (hgap : AllBlank gap) :
    Event.ofLine (s ++ gap) = Event.ofLine s :=
  ofLine_eq_of_trim_eq (trim_append_gap s hgap)

lemma ofLine_nil : Event.ofLine [] = [] := by decide

end FieldList.Source
