import FieldList.Proofs.Source.Description
import FieldList.Proofs.Source.Grammar

/-!
# The text of a description

A description annotation holds a text between quotes. The rules for dates, marks and declarations
search the whole line and know nothing of quotes, so they find in it what they find in the text by
itself, and nothing else: `ofLine_describing` says that the line gives its description and then the
events of the text.

What one of these rules finds has no quote, is solid at both ends, and has characters that stand
neither before the first quote nor after the last one. Such a part (`FromText`) lies inside the
quotes (`quotedAt_describing`), where trimming the text leaves it alone. The character before the
text is a quote or blank, so a word starts in the line where it starts in the text.
-/

namespace FieldList.Source

open Text

/-! ## The annotation -/

/-- One line without quotes, not empty. -/
structure QuotedText where
  chars : List Char
  ne_nil : chars ≠ []
  quote_notMem : '"' ∉ chars
  newline_notMem : '\n' ∉ chars

def descriptionOpening : List Char := "@Schema(description = \"".toList

/-- What an annotation has before its first quote. -/
def descriptionHead : List Char := "@Schema(description = ".toList

/-- The line that gives a text as a description. -/
def describing (text : QuotedText) : List Char := descriptionOpening ++ text.chars ++ ['"', ')']

lemma describing_eq (text : QuotedText) :
    describing text = descriptionHead ++ '"' :: (text.chars ++ '"' :: [')']) := by
  have hopening : descriptionOpening = descriptionHead ++ ['"'] := by decide
  rw [describing, hopening]
  simp

lemma trim_describing (text : QuotedText) : trim (describing text) = describing text :=
  trim_enclosed (by decide) (by decide) _

lemma quote_notMem_trim (text : QuotedText) : '"' ∉ trim text.chars := by
  obtain ⟨gap, gap', -, -, htext⟩ := exists_gaps_around_trim text.chars
  intro hmem
  apply text.quote_notMem
  rw [htext]
  simp [hmem]

/-! ## The description -/

lemma firstDescription_describing (text : QuotedText) :
    FirstDescription (describing text) [] text.chars := by
  have hopening : Spaced openingTokens descriptionOpening :=
    spaced_of_afterTokens (by decide) (by decide)
  have hclosing : Spaced closingTokens ['"', ')'] :=
    spaced_of_afterTokens (by decide) (by decide)
  refine ⟨⟨text.ne_nil, text.newline_notMem, descriptionOpening, ['"', ')'], [], hopening,
    hclosing, by rw [describing, List.nil_append, List.append_nil]⟩, ?_⟩
  intro pre' text' hdescribes
  cases pre' with
  | cons c pre' => exact Or.inl (by simp)
  | nil =>
    -- Another text at this place starts where the printed one does, and a quote follows it too.
    refine Or.inr ⟨rfl, ?_⟩
    obtain ⟨post, rest, hpost, hrest, -, -, closing, post', hclosing', rfl⟩ :=
      describes_iff.mp hdescribes
    have hstart : afterTokens openingTokens (describing text) =
        some (text.chars ++ ['"', ')']) := by
      refine (afterTokens_eq_some_iff (by decide)).mpr ⟨descriptionOpening, hopening, ?_⟩
      rw [describing, List.append_assoc]
    rw [hpost, List.nil_append, hrest, Option.some_inj] at hstart
    obtain ⟨closing, rfl⟩ := hclosing'.exists_append
    have hquote : "\"".toList = ['"'] := by decide
    rw [hquote] at hstart
    have hsplit : text.chars ++ ['"', ')'] = text' ++ '"' :: (closing ++ post') := by
      rw [← hstart]
      simp
    exact length_le_of_notMem text.quote_notMem hsplit

lemma description?_describing (text : QuotedText) :
    description? (describing text) = some (.description (String.ofList text.chars)) :=
  description?_eq_some_iff.mpr ⟨[], text.chars, firstDescription_describing text, rfl⟩

/-! ## Parts of the text -/

/-- A part that can stand nowhere in an annotation but in its text. -/
structure FromText (m : List Char) : Prop where
  quote_notMem : '"' ∉ m
  not_head : ∃ c ∈ m, c ∉ descriptionHead
  not_tail : ∃ c ∈ m, c ∉ [')']
  startsSolid : startsSolid m
  endsSolid : endsSolid m

/-- The text `t` stands in `s` after `shift`, which does not end inside a word, and every part that
can only be from a text stands in `t`. -/
structure QuotedAt (s shift t : List Char) : Prop where
  boundary : ∃ c ∈ shift.getLast?, isWord c = false
  eq_append : ∃ rest, s = shift ++ t ++ rest
  inside : ∀ {pre m post}, FromText m → s = pre ++ m ++ post →
    ∃ pre' post', pre = shift ++ pre' ∧ t = pre' ++ m ++ post'

/-- Trimming the text takes nothing off its parts. -/
lemma quotedAt_describing (text : QuotedText) :
    ∃ shift, QuotedAt (describing text) shift (trim text.chars) := by
  obtain ⟨gap, gap', hgap, hgap', htext⟩ := exists_gaps_around_trim text.chars
  refine ⟨descriptionHead ++ '"' :: gap, ?_, ⟨gap' ++ '"' :: [')'], ?_⟩, ?_⟩
  · rcases List.eq_nil_or_concat gap with rfl | ⟨gap, c, rfl⟩
    · exact ⟨'"', by simp, by decide⟩
    · exact ⟨c, by simp [List.getLast?_append, List.getLast?_cons],
        isWord_eq_false_of_isBlank (hgap c (by simp))⟩
  · have hline : text.chars ++ '"' :: [')'] =
        gap ++ trim text.chars ++ gap' ++ '"' :: [')'] :=
      congrArg (· ++ '"' :: [')']) htext
    rw [describing_eq, hline]
    simp
  · intro pre m post hm h
    rw [describing_eq] at h
    rcases split_around hm.quote_notMem h with ⟨r, hr⟩ | ⟨r, rfl, hr⟩
    · obtain ⟨c, hc, hout⟩ := hm.not_head
      exact absurd (by simp [hr, hc]) hout
    · rcases split_around hm.quote_notMem hr with ⟨r', hr'⟩ | ⟨r', rfl, hr'⟩
      · rw [htext, List.append_assoc, List.append_assoc r] at hr'
        obtain ⟨pre', rfl, hrest⟩ := split_after_gap hgap hm.startsSolid hr'
        rw [← List.append_assoc] at hrest
        obtain ⟨post', -, htrim⟩ := split_before_gap hgap' hm.endsSolid hrest
        exact ⟨pre', post', by simp, htrim⟩
      · obtain ⟨c, hc, hout⟩ := hm.not_tail
        exact absurd (by simp [hr', hc]) hout

/-! ## What the other rules find -/

section QuotedAt

variable {s shift t : List Char} (h : QuotedAt s shift t)

include h

lemma namesConstant_shift_iff (pre constant : List Char) :
    NamesConstant s pre constant ↔ ∃ pre', pre = shift ++ pre' ∧ NamesConstant t pre' constant := by
  constructor
  · rintro ⟨word, hword, rfl, opening, gap, post, hopening, hgap, hs⟩
    have hquote : '"' ∉ opening ++ (word ++ gap ++ [')']) := by
      simp [hopening.notMem (c := '"') (by decide) (by decide),
        hword.notMem (c := '"') (by decide), hgap.notMem (c := '"') (by decide)]
    have hat : '@' ∈ opening := by
      have hmark : '@' ∈ "@JsonFormat".toList := by decide
      obtain ⟨rest, rfl⟩ := hopening.exists_append
      exact List.mem_append_left rest hmark
    have hpart : FromText (opening ++ (word ++ gap ++ [')'])) :=
      ⟨hquote, ⟨')', by simp, by decide⟩, ⟨'@', List.mem_append_left _ hat, by decide⟩,
        startsSolid_append (hopening.startsSolid (by decide)) _,
        endsSolid_append (endsSolid_append (by decide) _) _⟩
    have hsplit : s = pre ++ (opening ++ (word ++ gap ++ [')'])) ++ post := by simp [hs]
    obtain ⟨pre', post', rfl, ht⟩ := h.inside hpart hsplit
    exact ⟨pre', rfl, word, hword, rfl, opening, gap, post', hopening, hgap, by simp [ht]⟩
  · rintro ⟨pre', rfl, word, hword, rfl, opening, gap, post, hopening, hgap, ht⟩
    obtain ⟨rest, hs⟩ := h.eq_append
    exact ⟨word, hword, rfl, opening, gap, post ++ rest, hopening, hgap, by simp [hs, ht]⟩

lemma dateFormat?_quotedAt : dateFormat? s = dateFormat? t := by
  have hsame : leftmost (fun _ => constantAt) none s = leftmost (fun _ => constantAt) none t :=
    leftmost_eq_of_shift (fun _ _ => constantAt_eq_some_iff)
      (fun _ _ => constantAt_eq_some_iff) (namesConstant_shift_iff h)
  rw [dateFormat?, hsame, dateFormat?]

lemma notNull_infix_iff : "@NotNull".toList <:+: s ↔ "@NotNull".toList <:+: t := by
  constructor
  · rintro ⟨pre, post, hs⟩
    have hpart : FromText "@NotNull".toList :=
      ⟨by decide, ⟨'N', by decide, by decide⟩, ⟨'N', by decide, by decide⟩, by decide, by decide⟩
    obtain ⟨pre', post', -, ht⟩ := h.inside hpart hs.symm
    exact ⟨pre', post', ht.symm⟩
  · intro ht
    obtain ⟨rest, rfl⟩ := h.eq_append
    exact ht.trans ⟨shift, rest, rfl⟩

lemma notNull?_quotedAt : notNull? s = notNull? t := by
  by_cases hstands : "@NotNull".toList <:+: t
  · rw [notNull?_eq_some_iff.mpr hstands,
      notNull?_eq_some_iff.mpr ((notNull_infix_iff h).mpr hstands)]
  · rw [notNull?_eq_none_iff.mpr hstands,
      notNull?_eq_none_iff.mpr (mt (notNull_infix_iff h).mp hstands)]

/-- A word starts after `shift` where it starts in the text. -/
lemma boundary_shift_iff (pre : List Char) :
    (∀ c ∈ (shift ++ pre).getLast?, isWord c = false) ↔
      ∀ c ∈ pre.getLast?, isWord c = false := by
  obtain ⟨d, hd, hword⟩ := h.boundary
  rw [List.getLast?_append]
  cases hlast : pre.getLast? with
  | none => simp [Option.mem_def.mp hd, hword]
  | some c => simp

lemma declares_shift_iff (pre : List Char) (declared : List Char × List Char) :
    Declares s pre declared ↔ ∃ pre', pre = shift ++ pre' ∧ Declares t pre' declared := by
  obtain ⟨dataType, name⟩ := declared
  constructor
  · rintro ⟨hpre, hdataType, hname, keyword, hkeyword, gap, gap', post, hgap, hgap', hs⟩
    obtain ⟨hsolid, hkeywordQuote, -⟩ := solid_of_mem_visibilities hkeyword
    have hquote : '"' ∉ keyword.toList ++ (gap ++ dataType ++ gap' ++ name ++ [';']) := by
      simp [hkeywordQuote, hgap.2.notMem (c := '"') (by decide),
        hdataType.notMem (c := '"') (by decide), hgap'.2.notMem (c := '"') (by decide),
        hname.notMem (c := '"') (by decide)]
    have hpart : FromText (keyword.toList ++ (gap ++ dataType ++ gap' ++ name ++ [';'])) :=
      ⟨hquote, ⟨';', by simp, by decide⟩, ⟨';', by simp, by decide⟩,
        startsSolid_append hsolid _, endsSolid_append (endsSolid_append (by decide) _) _⟩
    have hsplit : s = pre ++ (keyword.toList ++ (gap ++ dataType ++ gap' ++ name ++ [';'])) ++
        post := by
      simp [hs]
    obtain ⟨pre', post', rfl, ht⟩ := h.inside hpart hsplit
    exact ⟨pre', rfl, (boundary_shift_iff h pre').mp hpre, hdataType, hname, keyword, hkeyword,
      gap, gap', post', hgap, hgap', by simp [ht]⟩
  · rintro ⟨pre', rfl, hpre, hdataType, hname, keyword, hkeyword, gap, gap', post, hgap, hgap', ht⟩
    obtain ⟨rest, hs⟩ := h.eq_append
    exact ⟨(boundary_shift_iff h pre').mpr hpre, hdataType, hname, keyword, hkeyword, gap, gap',
      post ++ rest, hgap, hgap', by simp [hs, ht]⟩

lemma declaration?_quotedAt : declaration? s = declaration? t := by
  have hsame : leftmost declarationAt none s = leftmost declarationAt none t :=
    leftmost_eq_of_shift (fun _ _ => declarationAt_eq_some_iff)
      (fun _ _ => declarationAt_eq_some_iff) (declares_shift_iff h)
  rw [declaration?, hsame, declaration?]

end QuotedAt

/-- The line gives its description, and then what the text alone would give. -/
lemma ofLine_describing (text : QuotedText) :
    Event.ofLine (describing text) =
      .description (String.ofList text.chars) :: Event.ofLine text.chars := by
  obtain ⟨shift, hquoted⟩ := quotedAt_describing text
  rw [ofLine_eq_annotations_append, ofLine_eq_annotations_append, annotations, annotations,
    trim_describing, description?_describing, dateFormat?_quotedAt hquoted,
    notNull?_quotedAt hquoted, declaration?_quotedAt hquoted,
    description?_eq_none_of_notMem (quote_notMem_trim text)]
  rfl

end FieldList.Source
