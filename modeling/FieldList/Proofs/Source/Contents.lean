import FieldList.Proofs.Source.Description
import FieldList.Proofs.Source.Grammar
import FieldList.Proofs.Source.Layout

/-!
# What the fields of a source are made of

Names and types are words. A description is text of one line, and what its date layout adds to it;
nothing of the source is changed on the way. `fieldMadeOf_of_mem_parseFields` says so for any
property of characters, and is used where something must not occur in a field.

The property goes through the reading of a source with what is pending: an event has it when its
line has it, an annotation keeps it, and a declaration hands it on to its field.
-/

namespace FieldList.Source

open Text

/-! ## Lines -/

/-- Reading lines adds no characters. -/
lemma mem_of_mem_lines {s line : List Char} {c : Char} (hline : line ∈ lines s) (hc : c ∈ line) :
    c ∈ s := by
  fun_induction lines s generalizing line with
  | case1 => simp at hline
  | case2 rest ih =>
    rcases List.mem_cons.mp hline with rfl | hline
    · simp at hc
    · exact List.mem_cons_of_mem _ (ih hline hc)
  | case3 rest ih =>
    rcases List.mem_cons.mp hline with rfl | hline
    · simp at hc
    · exact List.mem_cons_of_mem _ (List.mem_cons_of_mem _ (ih hline hc))
  | case4 d rest _ _ _ _ =>
    rcases List.mem_singleton.mp hline with rfl
    exact List.mem_cons.mpr (Or.inl (List.mem_singleton.mp hc))
  | case5 d rest _ _ first more hrest ih =>
    rcases List.mem_cons.mp hline with rfl | hline
    · rcases List.mem_cons.mp hc with rfl | hc
      · exact List.mem_cons_self
      · exact List.mem_cons_of_mem _ (ih (hrest ▸ List.mem_cons_self) hc)
    · exact List.mem_cons_of_mem _ (ih (hrest ▸ List.mem_cons_of_mem _ hline) hc)

/-- What is left of a trimmed line was in the line. -/
lemma mem_of_mem_trim {line : List Char} {c : Char} (hc : c ∈ trim line) : c ∈ line := by
  obtain ⟨gap, gap', -, -, hline⟩ := exists_gaps_around_trim line
  rw [hline]
  simp [hc]

/-! ## Events -/

variable {P : Char → Prop} {e : Event} {p : Pending} {events : List Event} {f : Field}

/-- The event declares words, or describes with characters that have `P`. -/
def Event.MadeOf (P : Char → Prop) : Event → Prop
  | .description text => ∀ c ∈ text.toList, P c
  | .declaration dataType name => IsWordRun dataType.toList ∧ IsWordRun name.toList
  | .dateFormat _ | .notNull => True

lemma madeOf_of_mem_ofLine {line : List Char} (hline : ∀ c ∈ line, c ≠ '\n' → P c)
    (he : e ∈ Event.ofLine line) : e.MadeOf P := by
  rw [mem_ofLine_iff] at he
  cases e with
  | description text =>
    obtain ⟨pre, t, ⟨hdescribes, -⟩, rfl⟩ := description?_eq_some_iff.mp he
    obtain ⟨-, hnewline, opening, closing, post, -, -, hsplit⟩ := hdescribes
    intro c hc
    rw [String.toList_ofList] at hc
    refine hline c (mem_of_mem_trim ?_) fun heq => hnewline (heq ▸ hc)
    rw [hsplit]
    simp [hc]
  | declaration dataType name =>
    obtain ⟨pre, declared, ⟨⟨-, hdataType, hname, -⟩, -⟩, rfl, rfl⟩ :=
      declaration?_eq_some_iff.mp he
    rw [Event.MadeOf, String.toList_ofList, String.toList_ofList]
    exact ⟨hdataType, hname⟩
  | dateFormat format => trivial
  | notNull => trivial

lemma madeOf_of_mem_eventsOf {source : String} (hsource : ∀ c ∈ source.toList, c ≠ '\n' → P c)
    (he : e ∈ eventsOf source) : e.MadeOf P := by
  obtain ⟨line, hline, he⟩ := List.mem_flatMap.mp he
  exact madeOf_of_mem_ofLine (fun c hc => hsource c (mem_of_mem_lines hline hc)) he

/-! ## Pending annotations -/

/-- The pending description, if there is one, has only characters with `P`. -/
def Pending.MadeOf (P : Char → Prop) (p : Pending) : Prop :=
  ∀ text, p.description = some text → ∀ c ∈ text.toList, P c

/-- The field has words for its name and its type, and a description of characters with `P`. -/
structure FieldMadeOf (P : Char → Prop) (f : Field) : Prop where
  name : IsWordRun f.name.toList
  dataType : IsWordRun f.dataType.toList
  description : ∀ c ∈ f.description.toList, P c

lemma madeOf_empty : Pending.empty.MadeOf P := nofun

/-- One annotation keeps what is pending as it should be. -/
lemma Pending.MadeOf.absorb (hp : p.MadeOf P) (he : e.MadeOf P) : (p.absorb e).MadeOf P := by
  cases e with
  | description text =>
    rintro _ ⟨⟩
    exact he
  | dateFormat format => exact hp
  | notNull => exact hp
  | declaration dataType name => exact hp

/-- The characters of the longer date layout, which has all those of the shorter one. -/
def layoutChars : List Char := " (dd/MM/yyyy HH:mm:ss)".toList

lemma mem_layoutChars {format : Option DateFormat} {c : Char}
    (hc : c ∈ ((format.bind DateFormat.suffix?).getD "").toList) : c ∈ layoutChars := by
  have hdate : " (dd/MM/yyyy)".toList ⊆ layoutChars := by decide
  rcases format with _ | _ | _ | _
  · simp at hc
  · exact hdate hc
  · exact hc
  · simp [DateFormat.suffix?] at hc

/-- A declaration of words makes a field of what is pending. -/
lemma Pending.MadeOf.field (hp : p.MadeOf P) (hlayout : ∀ c ∈ layoutChars, P c)
    {dataType name : String} (hdataType : IsWordRun dataType.toList)
    (hname : IsWordRun name.toList) : FieldMadeOf P (p.field dataType name) where
  name := hname
  dataType := hdataType
  description := by
    intro c hc
    rw [Pending.field, String.toList_append, List.mem_append] at hc
    rcases hc with hc | hc
    · cases htext : p.description with
      | none => simp [htext] at hc
      | some text => exact hp text htext c (by simpa [htext] using hc)
    · exact hlayout c (mem_layoutChars hc)

/-! ## Fields -/

/-- By the cases of the next event: an annotation becomes pending, a declaration takes what is
pending and leaves nothing. -/
lemma fieldMadeOf_of_mem_assemble (hlayout : ∀ c ∈ layoutChars, P c) (hp : p.MadeOf P)
    (hevents : ∀ e ∈ events, e.MadeOf P) (hf : f ∈ (assemble p events).1) : FieldMadeOf P f := by
  induction events generalizing p with
  | nil => simp [assemble] at hf
  | cons e events ih =>
    rw [List.forall_mem_cons] at hevents
    obtain ⟨he, hevents⟩ := hevents
    cases e with
    | declaration dataType name =>
      rcases List.mem_cons.mp hf with rfl | hf
      · exact hp.field hlayout he.1 he.2
      · exact ih madeOf_empty hevents hf
    | description text => exact ih (hp.absorb he) hevents hf
    | dateFormat format => exact ih (hp.absorb he) hevents hf
    | notNull => exact ih (hp.absorb he) hevents hf

/-- What holds of all characters of a source but its line feeds, and of those of the date layouts,
holds of all descriptions. -/
lemma fieldMadeOf_of_mem_parseFields {source : String}
    (hsource : ∀ c ∈ source.toList, c ≠ '\n' → P c) (hlayout : ∀ c ∈ layoutChars, P c)
    (hf : f ∈ parseFields source) : FieldMadeOf P f :=
  fieldMadeOf_of_mem_assemble hlayout madeOf_empty
    (fun _ he => madeOf_of_mem_eventsOf hsource he) hf

end FieldList.Source
