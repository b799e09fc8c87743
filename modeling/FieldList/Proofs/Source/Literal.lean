import FieldList.Proofs.Source.Description

/-!
# Descriptions and string literals

In code the text of an annotation is a string literal: it ends at the first quote that no backslash
escapes. The reader of descriptions knows no literals. It ends a text at the first quote that a
parenthesis follows, whether that quote is escaped or not. So what it takes can go past the end of
the literal (`description_not_holdsLiteral`) or stop inside it (`exists_description_in_literal`).

`description_eq_literal_iff` says when the two agree: exactly when the literal stands alone between
the parentheses and no quote in it is followed by a parenthesis.
-/

namespace FieldList.Source

open Text

/-! ## Literals -/

/-- Whether the text ends in an odd number of backslashes, which escape what follows. -/
def endsEscaping (s : List Char) : Bool := (s.reverse.takeWhile (· = '\\')).length % 2 = 1

/-- After an opening quote stand a literal's content, its closing quote, and `post`. Quotes in the
content are escaped, and the closing one is not. -/
structure OpensLiteral (s content post : List Char) : Prop where
  eq_append : s = content ++ '"' :: post
  escaped : ∀ a b, content = a ++ '"' :: b → endsEscaping a
  closed : endsEscaping content = false

/-- The content of a literal ends where a quote is first not escaped. -/
lemma OpensLiteral.length_le {s content content' post post' : List Char}
    (h : OpensLiteral s content post) (h' : OpensLiteral s content' post') :
    content.length ≤ content'.length := by
  have heq : content ++ '"' :: post = content' ++ '"' :: post' := h.eq_append ▸ h'.eq_append
  rcases List.append_eq_append_iff.mp heq with ⟨more, rfl, -⟩ | ⟨more, hcontent, hmore⟩
  · simp
  · cases more with
    | nil => simp [hcontent]
    | cons c more =>
      obtain ⟨rfl, -⟩ : '"' = c ∧ post' = more ++ '"' :: post := by simpa using hmore
      have hescaping := h.escaped content' more hcontent
      rw [h'.closed] at hescaping
      exact absurd hescaping Bool.false_ne_true

/-- One literal opens at a quote. -/
lemma OpensLiteral.unique {s content content' post post' : List Char}
    (h : OpensLiteral s content post) (h' : OpensLiteral s content' post') :
    content = content' ∧ post = post' := by
  have hlength := le_antisymm (h.length_le h') (h'.length_le h)
  have heq : content ++ '"' :: post = content' ++ '"' :: post' := h.eq_append ▸ h'.eq_append
  obtain ⟨hcontent, hpost⟩ := List.append_inj heq hlength
  exact ⟨hcontent, (List.cons.inj hpost).2⟩

/-- A quote at the start of a content would not be escaped. -/
lemma OpensLiteral.ne_nil_of_quote {s content post a b : List Char}
    (h : OpensLiteral s content post) (hquote : content = a ++ '"' :: b) : a ≠ [] := by
  rintro rfl
  exact absurd (h.escaped [] b hquote) (by decide)

/-! ## Literals that close their annotation -/

/-- A literal with this content, followed by `post`, is all that its annotation holds, and the only
quote before a parenthesis is its closing one. -/
structure ClosesAnnotation (content post : List Char) : Prop where
  ne_nil : content ≠ []
  newline_notMem : '\n' ∉ content
  parenthesis_follows : ∃ gap after, AllBlank gap ∧ post = gap ++ ')' :: after
  no_quote_before_parenthesis : ∀ a gap b, AllBlank gap → content ≠ a ++ '"' :: (gap ++ ')' :: b)

lemma spaced_closingTokens_iff {closing : List Char} :
    Spaced closingTokens closing ↔ ∃ gap, AllBlank gap ∧ closing = '"' :: (gap ++ [')']) := by
  unfold closingTokens
  constructor
  · intro h
    cases h with
    | @cons _ gap _ s hgap _ hs =>
    cases hs with
    | single => exact ⟨gap, hgap, by simp⟩
    | cons _ _ hne => exact absurd rfl hne
  · rintro ⟨gap, hgap, rfl⟩
    have hspaced := Spaced.cons "\"" hgap (List.cons_ne_nil ")" []) (Spaced.single ")")
    simpa using hspaced

/-- A text closed before the end of a literal is closed by a quote and a parenthesis inside it. -/
lemma exists_quote_before_parenthesis {content post text : List Char}
    (hcloses : ClosesAfter (content ++ '"' :: post) text) (hlt : text.length < content.length) :
    ∃ gap b, AllBlank gap ∧ content = text ++ '"' :: (gap ++ ')' :: b) := by
  obtain ⟨-, closing, after, hclosing, heq⟩ := hcloses
  obtain ⟨gap, hgap, rfl⟩ := spaced_closingTokens_iff.mp hclosing
  have hquote : '"' ∉ gap ++ [')'] := by simp [hgap.notMem (c := '"') (by decide)]
  have hsplit : content ++ '"' :: post = (text ++ ['"']) ++ (gap ++ [')']) ++ after := by
    simpa using heq
  rcases split_around hquote hsplit with ⟨b, hcontent⟩ | ⟨r, htext, -⟩
  · exact ⟨gap, b, hgap, by simpa using hcontent⟩
  · have hlength := congrArg List.length htext
    simp only [List.length_append, List.length_cons, List.length_nil] at hlength
    omega

/-! ## Descriptions -/

section

variable {s pre opening rest text content post : List Char}

lemma describes_iff_closesAfter (hopening : Spaced openingTokens opening)
    (hs : s = pre ++ opening ++ rest) :
    Describes s pre text ↔ text ≠ [] ∧ ClosesAfter rest text := by
  have hsolid : ∀ token ∈ openingTokens.tail, startsSolid token.toList := by decide
  have hrest : afterTokens openingTokens (opening ++ rest) = some rest :=
    (afterTokens_eq_some_iff hsolid).mpr ⟨opening, hopening, rfl⟩
  rw [describes_iff]
  constructor
  · rintro ⟨after, rest', hafter, hrest', htext⟩
    obtain rfl : opening ++ rest = after := by simpa [hs] using hafter
    obtain rfl : rest = rest' := Option.some.inj (hrest.symm.trans hrest')
    exact htext
  · intro htext
    exact ⟨opening ++ rest, rest, by simp [hs], hrest, htext⟩

/-- The literal at a description's place, if it closes the annotation, can be read as its text. -/
lemma ClosesAnnotation.closesAfter (hliteral : OpensLiteral rest content post)
    (hcloses : ClosesAnnotation content post) : ClosesAfter rest content := by
  obtain ⟨gap, after, hgap, rfl⟩ := hcloses.parenthesis_follows
  refine ⟨hcloses.newline_notMem, '"' :: (gap ++ [')']), after, ?_, ?_⟩
  · exact spaced_closingTokens_iff.mpr ⟨gap, hgap, rfl⟩
  · simpa using hliteral.eq_append

/-- What the reader takes at the place of an annotation is the content of the literal there, when
the literal closes the annotation. -/
lemma eq_content_of_closesAnnotation (hfirst : FirstDescription s pre text)
    (hopening : Spaced openingTokens opening) (hs : s = pre ++ opening ++ rest)
    (hliteral : OpensLiteral rest content post) (hcloses : ClosesAnnotation content post) :
    text = content := by
  have hcontent : Describes s pre content := (describes_iff_closesAfter hopening hs).mpr
    ⟨hcloses.ne_nil, hcloses.closesAfter hliteral⟩
  have htext := ((describes_iff_closesAfter hopening hs).mp hfirst.1).2
  have hle : text.length ≤ content.length := by
    rcases hfirst.2 pre content hcontent with hlt | ⟨-, hle⟩
    · exact absurd hlt (Nat.lt_irrefl _)
    · exact hle
  rw [hliteral.eq_append] at htext
  rcases hle.lt_or_eq with hlt | hlength
  · obtain ⟨gap, b, hgap, hinside⟩ := exists_quote_before_parenthesis htext hlt
    exact absurd hinside (hcloses.no_quote_before_parenthesis text gap b hgap)
  · obtain ⟨-, closing, after, -, heq⟩ := htext
    rw [List.append_assoc] at heq
    exact (List.append_inj heq hlength.symm).1.symm

/-- A literal that is taken whole closes its annotation. -/
lemma closesAnnotation_of_firstDescription (hfirst : FirstDescription s pre text)
    (hopening : Spaced openingTokens opening) (hs : s = pre ++ opening ++ rest)
    (hliteral : OpensLiteral rest text post) : ClosesAnnotation text post := by
  obtain ⟨hne, hnewline, closing, after, hclosing, hrest⟩ :=
    (describes_iff_closesAfter hopening hs).mp hfirst.1
  obtain ⟨gap, hgap, rfl⟩ := spaced_closingTokens_iff.mp hclosing
  refine ⟨hne, hnewline, ⟨gap, after, hgap, ?_⟩, fun a gap' b hgap' htext => ?_⟩
  · have heq : text ++ '"' :: post = text ++ '"' :: (gap ++ ')' :: after) := by
      rw [← hliteral.eq_append, hrest]
      simp
    simpa using heq
  · -- The text before such a quote would be a shorter choice.
    have hshorter : Describes s pre a := by
      refine (describes_iff_closesAfter hopening hs).mpr ⟨hliteral.ne_nil_of_quote htext, ?_⟩
      have hnewline' : '\n' ∉ a := fun hmem => hnewline (by simp [htext, hmem])
      refine ⟨hnewline', '"' :: (gap' ++ [')']), b ++ '"' :: post, ?_, ?_⟩
      · exact spaced_closingTokens_iff.mpr ⟨gap', hgap', rfl⟩
      · rw [hliteral.eq_append, htext]
        simp
    have hlength := congrArg List.length htext
    simp only [List.length_append, List.length_cons] at hlength
    rcases hfirst.2 pre a hshorter with hlt | ⟨-, hle⟩
    · exact Nat.lt_irrefl _ hlt
    · omega

end

/-- **When a description is one literal.** Where the first annotation of a line stands, the line
gives a description, and its text is the content of the literal there exactly when that literal
closes the annotation. -/
theorem description_eq_literal_iff {line pre text opening rest : List Char}
    (hfirst : FirstDescription (trim line) pre text) (hopening : Spaced openingTokens opening)
    (hline : trim line = pre ++ opening ++ rest) :
    .description (String.ofList text) ∈ Event.ofLine line ∧
      ((∃ post, OpensLiteral rest text post) ↔
        ∃ content post, OpensLiteral rest content post ∧ ClosesAnnotation content post) := by
  constructor
  · rw [mem_ofLine_iff]
    exact description?_eq_some_iff.mpr ⟨pre, text, hfirst, rfl⟩
  constructor
  · rintro ⟨post, hliteral⟩
    exact ⟨text, post, hliteral,
      closesAnnotation_of_firstDescription hfirst hopening hline hliteral⟩
  · rintro ⟨content, post, hliteral, hcloses⟩
    obtain rfl := eq_content_of_closesAnnotation hfirst hopening hline hliteral hcloses
    exact ⟨post, hliteral⟩

lemma escaped_of_forall_take {content : List Char}
    (h : ∀ i < content.length, content[i]? = some '"' → endsEscaping (content.take i)) :
    ∀ a b, content = a ++ '"' :: b → endsEscaping a := by
  intro a b hcontent
  subst hcontent
  simpa using h a.length (by simp) (by simp)

/-- A literal with escaped quotes, taken whole. -/
theorem description_eq_literal_escaped :
    let rest := "say \\\"hi\\\" twice\" )".toList
    let text := "say \\\"hi\\\" twice".toList
    let line := "  @Schema( description = \"".toList ++ rest
    FirstDescription (trim line) [] text ∧ .description (String.ofList text) ∈ Event.ofLine line ∧
      ∃ post, OpensLiteral rest text post := by
  intro rest text line
  have hfirst : FirstDescription (trim line) [] text := by
    refine firstDescription_iff_foremost.mpr ⟨?_, fun pre' text' _ => Nat.zero_le _⟩
    exact descriptionAt_eq_some_iff.mpr ⟨trim line, rfl, by decide⟩
  have hopening : Spaced openingTokens "@Schema( description = \"".toList :=
    spaced_of_afterTokens (by decide) (by decide)
  have hliteral : OpensLiteral rest text " )".toList :=
    ⟨by decide, escaped_of_forall_take (by decide), by decide⟩
  have hparenthesis : ')' ∉ text := by decide
  have hcloses : ClosesAnnotation text " )".toList := by
    refine ⟨by decide, by decide, ⟨" ".toList, [], by decide, by decide⟩, ?_⟩
    intro a gap b _ htext
    simp [htext] at hparenthesis
  have hline : trim line = [] ++ "@Schema( description = \"".toList ++ rest := by decide
  obtain ⟨hevent, hiff⟩ := description_eq_literal_iff hfirst hopening hline
  exact ⟨hfirst, hevent, hiff.mpr ⟨text, _, hliteral, hcloses⟩⟩

/-! ## Descriptions that are no literal -/

/-- Somewhere in a line stands an annotation with a literal of this content. -/
def HoldsLiteral (line : List Char) (text : String) : Prop :=
  ∃ pre opening rest post, Spaced openingTokens opening ∧ trim line = pre ++ opening ++ rest ∧
    OpensLiteral rest text.toList post

/-- Another attribute becomes part of the description. -/
theorem description_not_holdsLiteral :
    ¬ ∀ (line : List Char) (text : String),
      .description text ∈ Event.ofLine line → HoldsLiteral line text := by
  intro h
  have hevent : .description "Full name\", example = \"x" ∈
      Event.ofLine "@Schema(description = \"Full name\", example = \"x\")".toList := by decide
  obtain ⟨pre, opening, rest, post, -, -, hliteral⟩ := h _ _ hevent
  have hescaping := hliteral.escaped "Full name".toList ", example = \"x".toList (by decide)
  exact absurd hescaping (by decide)

/-- An escaped quote before a parenthesis ends the description. -/
theorem exists_description_in_literal :
    ∃ (line : List Char) (text : String),
      .description text ∈ Event.ofLine line ∧ ¬ HoldsLiteral line text := by
  refine ⟨"@Schema(description = \"call f(\\\"x\\\") first\")".toList, "call f(\\\"x\\", ?_, ?_⟩
  · decide
  · rintro ⟨pre, opening, rest, post, -, -, hliteral⟩
    exact absurd hliteral.closed (by decide)

end FieldList.Source
