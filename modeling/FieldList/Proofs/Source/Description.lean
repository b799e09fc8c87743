import FieldList.Proofs.Source.Events

/-!
# Which text a line gives as a description

`Describes s pre text` is the written form of a description annotation after `pre`, for any choice
of the place and of the text. Several choices can be open: the annotation may be written more than
once, and a quote inside the text can be taken for the closing one. `description_leftmost_shortest`
says that a line gives a description exactly when some choice is open, and then the one with the
least text before it and, at that place, with the shortest text.

The reader goes through the text of the annotation once, and `textToClose_eq_some_iff` is the fact
about that loop from which the rest follows.
-/

namespace FieldList.Source

open Text

/-! ## The written form -/

/-- What an annotation holds before its text. -/
def openingTokens : List String := ["@Schema", "(", "description", "=", "\""]

/-- What an annotation holds after its text. -/
def closingTokens : List String := ["\"", ")"]

/-- After `pre` stands a description annotation with this text. -/
def Describes (s pre text : List Char) : Prop :=
  text ≠ [] ∧ '\n' ∉ text ∧ ∃ opening closing post,
    Spaced openingTokens opening ∧ Spaced closingTokens closing ∧
      s = pre ++ opening ++ text ++ closing ++ post

/-- Of all ways to read a description annotation in `s`, the one with the least text before it and,
of these, with the shortest text. -/
def FirstDescription (s pre text : List Char) : Prop :=
  Describes s pre text ∧ ∀ pre' text', Describes s pre' text' →
    pre.length < pre'.length ∨ pre = pre' ∧ text.length ≤ text'.length

/-! ## The shortest text -/

/-- Of the texts with a property, one of the least length. -/
def Shortest (P : List Char → Prop) (t : List Char) : Prop :=
  P t ∧ ∀ t', P t' → t.length ≤ t'.length

lemma exists_shortest {P : List Char → Prop} (h : ∃ t, P t) : ∃ t, Shortest P t := by
  obtain ⟨t, ht, hmin⟩ := (measure List.length).wf.has_min {t | P t} h
  exact ⟨t, ht, fun t' ht' => Nat.le_of_not_lt (hmin t' ht')⟩

/-- The text `t` stands at the start of `s`, and the closing tokens after it. -/
def ClosesAfter (s t : List Char) : Prop :=
  '\n' ∉ t ∧ ∃ closing post, Spaced closingTokens closing ∧ s = t ++ closing ++ post

lemma afterTokens_closing_isSome_iff {s : List Char} :
    (afterTokens ["\"", ")"] s).isSome ↔ ClosesAfter s [] := by
  have hsolid : ∀ token ∈ closingTokens.tail, startsSolid token.toList := by decide
  rw [Option.isSome_iff_exists]
  constructor
  · rintro ⟨post, h⟩
    obtain ⟨closing, hclosing, hs⟩ := (afterTokens_eq_some_iff hsolid).mp h
    exact ⟨List.not_mem_nil, closing, post, hclosing, hs⟩
  · rintro ⟨-, closing, post, hclosing, hs⟩
    exact ⟨post, (afterTokens_eq_some_iff hsolid).mpr ⟨closing, hclosing, hs⟩⟩

lemma not_closesAfter_nil {t : List Char} : ¬ ClosesAfter [] t := by
  rintro ⟨-, closing, post, hclosing, hs⟩
  obtain ⟨rest, rfl⟩ := hclosing.exists_append
  simp at hs

lemma closesAfter_cons_cons_iff {c d : Char} {rest t : List Char} :
    ClosesAfter (c :: rest) (d :: t) ↔ c ≠ '\n' ∧ c = d ∧ ClosesAfter rest t := by
  constructor
  · rintro ⟨hnewline, closing, post, hclosing, hs⟩
    obtain ⟨rfl, hrest⟩ : c = d ∧ rest = t ++ closing ++ post := by simpa using hs
    rw [List.mem_cons, not_or] at hnewline
    exact ⟨Ne.symm hnewline.1, rfl, hnewline.2, closing, post, hclosing, hrest⟩
  · rintro ⟨hc, rfl, hnewline, closing, post, hclosing, rfl⟩
    refine ⟨?_, closing, post, hclosing, by simp⟩
    rw [List.mem_cons, not_or]
    exact ⟨Ne.symm hc, hnewline⟩

/-- A character that is no line feed goes to the front of the shortest text. -/
lemma map_cons_eq_some_iff {c : Char} {rest t : List Char} {found : Option (List Char)}
    {P : List Char → Prop} (hfound : ∀ t, found = some t ↔ Shortest (ClosesAfter rest) t)
    (hP : ∀ t, P t ↔ t ≠ [] ∧ ClosesAfter (c :: rest) t) :
    (if c = '\n' then none else found.map (c :: ·)) = some t ↔ Shortest P t := by
  have hcons : ∀ t, P t ↔ c ≠ '\n' ∧ ∃ t', t = c :: t' ∧ ClosesAfter rest t' := by
    intro t
    rw [hP]
    cases t with
    | nil => simp
    | cons d t => simp [closesAfter_cons_cons_iff, eq_comm]
  split
  · next hc => simp [Shortest, hcons, hc]
  · next hc =>
    rw [Option.map_eq_some_iff]
    constructor
    · rintro ⟨t, ht, rfl⟩
      obtain ⟨hcloses, hmin⟩ := (hfound t).mp ht
      refine ⟨(hcons _).mpr ⟨hc, t, rfl, hcloses⟩, fun t' ht' => ?_⟩
      obtain ⟨-, u, rfl, hu⟩ := (hcons t').mp ht'
      simpa using hmin u hu
    · rintro ⟨ht, hmin⟩
      obtain ⟨-, u, rfl, hu⟩ := (hcons t).mp ht
      refine ⟨u, (hfound u).mpr ⟨hu, fun t' ht' => ?_⟩, rfl⟩
      simpa using hmin (c :: t') ((hcons _).mpr ⟨hc, t', rfl, ht'⟩)

/-- The text before the closing tokens is the shortest one. -/
lemma textToClose_eq_some_iff {s t : List Char} :
    textToClose s = some t ↔ Shortest (ClosesAfter s) t := by
  induction s generalizing t with
  | nil => simp [textToClose, Shortest, not_closesAfter_nil]
  | cons c rest ih =>
    rw [textToClose]
    split
    · next hcloses =>
      rw [afterTokens_closing_isSome_iff] at hcloses
      rw [Option.some_inj]
      constructor
      · rintro rfl
        exact ⟨hcloses, fun t' _ => Nat.zero_le _⟩
      · rintro ⟨-, hmin⟩
        exact (List.length_eq_zero_iff.mp (Nat.le_zero.mp (hmin [] hcloses))).symm
    · next hcloses =>
      rw [afterTokens_closing_isSome_iff] at hcloses
      refine map_cons_eq_some_iff (fun t => ih) fun t => ?_
      refine ⟨fun ht => ⟨?_, ht⟩, And.right⟩
      rintro rfl
      exact hcloses ht

/-- The first character of the text is taken whatever it is; with it the text is as short as can
be. -/
lemma descriptionText_eq_some_iff {s t : List Char} :
    descriptionText s = some t ↔ Shortest (fun t => t ≠ [] ∧ ClosesAfter s t) t := by
  cases s with
  | nil => simp [descriptionText, Shortest, not_closesAfter_nil]
  | cons c rest =>
    rw [descriptionText]
    exact map_cons_eq_some_iff (fun t => textToClose_eq_some_iff) fun t => Iff.rfl

/-! ## One annotation -/

/-- The place of an annotation determines where its text starts. -/
lemma describes_iff {s pre text : List Char} :
    Describes s pre text ↔ ∃ post rest, s = pre ++ post ∧
      afterTokens openingTokens post = some rest ∧ text ≠ [] ∧ ClosesAfter rest text := by
  have hsolid : ∀ token ∈ openingTokens.tail, startsSolid token.toList := by decide
  constructor
  · rintro ⟨hne, hnewline, opening, closing, post, hopening, hclosing, rfl⟩
    refine ⟨opening ++ (text ++ closing ++ post), text ++ closing ++ post, by simp, ?_, hne,
      hnewline, closing, post, hclosing, rfl⟩
    exact (afterTokens_eq_some_iff hsolid).mpr ⟨opening, hopening, rfl⟩
  · rintro ⟨post, rest, rfl, hrest, hne, hnewline, closing, post', hclosing, rfl⟩
    obtain ⟨opening, hopening, rfl⟩ := (afterTokens_eq_some_iff hsolid).mp hrest
    exact ⟨hne, hnewline, opening, closing, post', hopening, hclosing, by simp⟩

lemma descriptionAt_eq_some_iff {s text : List Char} {pre : List Char} :
    Shortest (Describes s pre) text ↔
      ∃ post, s = pre ++ post ∧ descriptionAt post = some text := by
  constructor
  · rintro ⟨hdescribes, hmin⟩
    obtain ⟨post, rest, hs, hrest, hne, hcloses⟩ := describes_iff.mp hdescribes
    refine ⟨post, hs, ?_⟩
    rw [descriptionAt]
    refine Option.bind_eq_some_iff.mpr ⟨rest, hrest, descriptionText_eq_some_iff.mpr ?_⟩
    refine ⟨⟨hne, hcloses⟩, fun t' ht' => hmin t' ?_⟩
    exact describes_iff.mpr ⟨post, rest, hs, hrest, ht'⟩
  · rintro ⟨post, rfl, h⟩
    obtain ⟨rest, hrest, htext⟩ := Option.bind_eq_some_iff.mp h
    obtain ⟨htext, hmin⟩ := descriptionText_eq_some_iff.mp htext
    refine ⟨describes_iff.mpr ⟨post, rest, rfl, hrest, htext⟩, fun t' ht' => ?_⟩
    obtain ⟨post', rest', hpost, hrest', ht'⟩ := describes_iff.mp ht'
    obtain rfl : post = post' := List.append_cancel_left hpost
    obtain rfl : rest = rest' := Option.some.inj (hrest.symm.trans hrest')
    exact hmin t' ht'

/-! ## The leftmost annotation -/

lemma firstDescription_iff_foremost {s pre text : List Char} :
    FirstDescription s pre text ↔ Foremost (fun pre => Shortest (Describes s pre)) pre text := by
  constructor
  · rintro ⟨hdescribes, hfirst⟩
    refine ⟨⟨hdescribes, fun t' ht' => ?_⟩, fun pre' t' ht' => ?_⟩
    · rcases hfirst pre t' ht' with hlt | ⟨-, hle⟩
      · exact absurd hlt (Nat.lt_irrefl _)
      · exact hle
    · rcases hfirst pre' t' ht'.1 with hlt | ⟨rfl, -⟩
      · exact hlt.le
      · exact le_rfl
  · rintro ⟨⟨hdescribes, hmin⟩, hforemost⟩
    refine ⟨hdescribes, fun pre' t' ht' => ?_⟩
    obtain ⟨u, hu⟩ := exists_shortest ⟨t', ht'⟩
    rcases (hforemost pre' u hu).lt_or_eq with hlt | heq
    · exact Or.inl hlt
    · -- Two places with texts of one length before them are one place.
      obtain ⟨post, -, hpost, -⟩ := describes_iff.mp hdescribes
      obtain ⟨post', -, hpost', -⟩ := describes_iff.mp ht'
      obtain rfl : pre = pre' := (List.append_inj (hpost.symm.trans hpost') heq).1
      exact Or.inr ⟨rfl, hmin t' ht'⟩

lemma description?_eq_some_iff {s : List Char} {text : String} :
    description? s = some (.description text) ↔
      ∃ pre t, FirstDescription s pre t ∧ text = String.ofList t := by
  have hleftmost : ∀ t, leftmost (fun _ => descriptionAt) none s = some t ↔
      ∃ pre, FirstDescription s pre t := by
    intro t
    simp only [firstDescription_iff_foremost]
    exact leftmost_eq_some_iff_foremost fun pre t => descriptionAt_eq_some_iff
  rw [description?, Option.map_eq_some_iff]
  constructor
  · rintro ⟨t, ht, hevent⟩
    obtain ⟨pre, hpre⟩ := (hleftmost t).mp ht
    obtain rfl : String.ofList t = text := by simpa using hevent
    exact ⟨pre, t, hpre, rfl⟩
  · rintro ⟨pre, t, hpre, rfl⟩
    exact ⟨t, (hleftmost t).mpr ⟨pre, hpre⟩, rfl⟩

lemma exists_firstDescription_iff {s : List Char} :
    (∃ pre text, FirstDescription s pre text) ↔ ∃ pre text, Describes s pre text := by
  simp only [firstDescription_iff_foremost, exists_foremost_iff]
  constructor
  · rintro ⟨pre, text, h, -⟩
    exact ⟨pre, text, h⟩
  · rintro ⟨pre, text, h⟩
    exact ⟨pre, exists_shortest ⟨text, h⟩⟩

lemma exists_description?_iff {s : List Char} :
    (∃ text, description? s = some (.description text)) ↔ ∃ pre text, Describes s pre text := by
  rw [← exists_firstDescription_iff]
  simp only [description?_eq_some_iff]
  constructor
  · rintro ⟨-, pre, t, hfirst, -⟩
    exact ⟨pre, t, hfirst⟩
  · rintro ⟨pre, t, hfirst⟩
    exact ⟨String.ofList t, pre, t, hfirst, rfl⟩

lemma description?_eq_none_iff {s : List Char} :
    description? s = none ↔ ∀ pre text, ¬ Describes s pre text := by
  rw [description?, Option.map_eq_none_iff,
    leftmost_eq_none_iff_forall fun pre t => descriptionAt_eq_some_iff]
  constructor
  · intro h pre text hdescribes
    obtain ⟨t, ht⟩ := exists_shortest ⟨text, hdescribes⟩
    exact h pre t ht
  · intro h pre t ht
    exact h pre t ht.1

/-- A description has quotes. -/
lemma description?_eq_none_of_notMem {s : List Char} (h : '"' ∉ s) : description? s = none := by
  rw [description?_eq_none_iff]
  rintro pre text ⟨-, -, opening, closing, post, -, hclosing, rfl⟩
  obtain ⟨rest, rfl⟩ := hclosing.exists_append
  simp at h

/-- The searches for other events find no description. -/
lemma filterMap_text?_ofLine (line : List Char) :
    (Event.ofLine line).filterMap Event.text? =
      ((description? (trim line)).bind Event.text?).toList := by
  have hnone : ∀ {find? : List Char → Option Event} {i : Nat}, i ≠ 0 →
      (∀ {e}, find? (trim line) = some e → e.rank = i) →
      (find? (trim line)).bind Event.text? = none := by
    intro find? i hi hrank
    rw [Option.bind_eq_none_iff]
    intro e he
    cases e with
    | description text => exact absurd (hrank he).symm hi
    | _ => rfl
  rw [Event.ofLine, List.filterMap_filterMap]
  cases hdescription : (description? (trim line)).bind Event.text? <;>
    simp [hdescription, hnone (by decide) rank_of_dateFormat?,
      hnone (by decide) rank_of_notNull?, hnone (by decide) rank_of_declaration?]

/-- **Descriptions are leftmost and shortest.** A line gives a description exactly when an
annotation can be read in it, and then it gives one, that of the first way to read it. -/
theorem description_leftmost_shortest (line : List Char) :
    ((∃ text, .description text ∈ Event.ofLine line) ↔
        ∃ pre text, Describes (trim line) pre text) ∧
      ((Event.ofLine line).filterMap Event.text?).length ≤ 1 ∧
      ∀ text, .description text ∈ Event.ofLine line ↔
        ∃ pre t, FirstDescription (trim line) pre t ∧ text = String.ofList t := by
  simp only [mem_ofLine_iff]
  refine ⟨exists_description?_iff, ?_, fun text => description?_eq_some_iff⟩
  rw [filterMap_text?_ofLine]
  exact Option.length_toList_le

example : Event.ofLine "@Schema(description = \"say \"yes\" (or no)\")".toList =
    [.description "say \"yes\" (or no)"] := by decide

end FieldList.Source
