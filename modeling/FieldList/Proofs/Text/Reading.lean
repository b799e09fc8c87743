import FieldList.Text.Search
import Mathlib.Data.List.TakeWhile
import Mathlib.Order.WellFounded

/-!
# What the readers accept

The readers of `Text/Search.lean` walk along a text. This module says what they accept in terms of
the text alone: each reader succeeds exactly on the texts that split into its parts, and the parts
are the ones it returns.

`Spaced` is the form of an annotation's fixed part, tokens with blank characters between them.
`Foremost` is the choice that a search makes between several places: the one with the least text
before it. `leftmost_eq_some_iff_foremost` ties the two sides together and is what the rules of
`Source/Event.lean` are read through.
-/

namespace FieldList.Text

/-! ## Blank and word characters -/

/-- A text of blank characters only. -/
def AllBlank (s : List Char) : Prop := ∀ c ∈ s, isBlank c

/-- A nonempty text of blank characters only. -/
def IsBlankRun (s : List Char) : Prop := s ≠ [] ∧ AllBlank s

/-- A nonempty text of word characters only. -/
def IsWordRun (s : List Char) : Prop := s ≠ [] ∧ ∀ c ∈ s, isWord c

instance : DecidablePred AllBlank :=
  fun s => decidable_of_iff (s.all isBlank) (by simp [AllBlank])

instance : DecidablePred IsWordRun :=
  fun s => decidable_of_iff (!s.isEmpty && s.all isWord) (by simp [IsWordRun])

/-- Whether the text starts with a character that is not blank. -/
def startsSolid (s : List Char) : Bool := s.head?.any fun c => !isBlank c

/-- Whether the text ends with a character that is not blank. -/
def endsSolid (s : List Char) : Bool := s.getLast?.any fun c => !isBlank c

lemma wordRanges_contains_blank :
    ∀ r ∈ blankRanges, ∀ n ∈ List.range' r.1 (r.2 + 1 - r.1), wordRanges.contains n = false := by
  decide +kernel

/-- The two tables have no code point in common. -/
lemma isWord_eq_false_of_isBlank {c : Char} (h : isBlank c) : isWord c = false := by
  obtain ⟨r, hr, hlo, hhi⟩ := (CodeRanges.contains_iff blankRanges_ordered c.toNat).mp h
  have hmem : c.toNat ∈ List.range' r.1 (r.2 + 1 - r.1) := by
    rw [List.mem_range'_1]
    omega
  exact wordRanges_contains_blank r hr c.toNat hmem

lemma isBlank_eq_false_of_isWord {c : Char} (h : isWord c) : isBlank c = false := by
  cases hc : isBlank c with
  | false => rfl
  | true => simp [isWord_eq_false_of_isBlank hc] at h

lemma AllBlank.nil : AllBlank [] := by simp [AllBlank]

lemma startsSolid_append {s : List Char} (hs : startsSolid s) (t : List Char) :
    startsSolid (s ++ t) := by
  cases s with
  | nil => simp [startsSolid] at hs
  | cons c s => exact hs

lemma endsSolid_append {t : List Char} (ht : endsSolid t) (s : List Char) :
    endsSolid (s ++ t) := by
  cases hlast : t.getLast? with
  | none => simp [endsSolid, hlast] at ht
  | some c => simpa [endsSolid, List.getLast?_append, hlast] using ht

lemma IsWordRun.startsSolid {w : List Char} (hw : IsWordRun w) : startsSolid w := by
  cases w with
  | nil => exact absurd rfl hw.1
  | cons c w => simp [Text.startsSolid, isBlank_eq_false_of_isWord (hw.2 c List.mem_cons_self)]

/-- What starts with blank characters does not start with a word character. -/
lemma IsBlankRun.head?_append {gap : List Char} (hgap : IsBlankRun gap) (s : List Char) :
    ∀ c ∈ (gap ++ s).head?, isWord c = false := by
  cases gap with
  | nil => exact absurd rfl hgap.1
  | cons d gap =>
    rintro c ⟨⟩
    exact isWord_eq_false_of_isBlank (hgap.2 d List.mem_cons_self)

/-- A word run has none of the characters that are no word characters. -/
lemma IsWordRun.notMem {w : List Char} (hw : IsWordRun w) {c : Char} (hc : isWord c = false) :
    c ∉ w := by
  intro hmem
  simp [hw.2 c hmem] at hc

lemma AllBlank.notMem {gap : List Char} (hgap : AllBlank gap) {c : Char}
    (hc : isBlank c = false) : c ∉ gap := by
  intro hmem
  simp [hgap c hmem] at hc

/-! ## Skipping and trimming -/

lemma skipBlanks_append_of_allBlank {gap : List Char} (hgap : AllBlank gap) (s : List Char) :
    skipBlanks (gap ++ s) = skipBlanks s :=
  List.dropWhile_append_of_pos hgap

lemma skipBlanks_of_allBlank {gap : List Char} (hgap : AllBlank gap) : skipBlanks gap = [] := by
  simpa [skipBlanks] using skipBlanks_append_of_allBlank hgap []

lemma skipBlanks_of_startsSolid {s : List Char} (hs : startsSolid s) : skipBlanks s = s := by
  cases s with
  | nil => rfl
  | cons c s =>
    have hc : isBlank c = false := by simpa [startsSolid] using hs
    simp [skipBlanks, hc]

/-- What is skipped is blank, and what is left does not start with a blank character. -/
lemma exists_gap_append_skipBlanks (s : List Char) :
    ∃ gap, AllBlank gap ∧ s = gap ++ skipBlanks s ∧
      (skipBlanks s = [] ∨ startsSolid (skipBlanks s)) := by
  induction s with
  | nil => exact ⟨[], AllBlank.nil, rfl, Or.inl rfl⟩
  | cons c s ih =>
    cases hc : isBlank c with
    | false =>
      have hskip : skipBlanks (c :: s) = c :: s := by simp [skipBlanks, hc]
      exact ⟨[], AllBlank.nil, hskip.symm, Or.inr (by simp [hskip, startsSolid, hc])⟩
    | true =>
      obtain ⟨gap, hgap, hs, hsolid⟩ := ih
      have hskip : skipBlanks (c :: s) = skipBlanks s := by simp [skipBlanks, hc]
      rw [hskip]
      refine ⟨c :: gap, ?_, ?_, hsolid⟩
      · intro d hd
        rcases List.mem_cons.mp hd with rfl | hd
        · exact hc
        · exact hgap d hd
      · rw [List.cons_append, ← hs]

/-- Skipping stops inside `pre` or right before a part that starts solid. -/
lemma skipBlanks_append_of_startsSolid (pre : List Char) {s : List Char} (hs : startsSolid s) :
    skipBlanks (pre ++ s) = skipBlanks pre ++ s := by
  induction pre with
  | nil => simpa [skipBlanks] using skipBlanks_of_startsSolid hs
  | cons c pre ih =>
    cases hc : isBlank c with
    | false => simp [skipBlanks, hc]
    | true => simpa [skipBlanks, hc] using ih

lemma startsSolid_reverse (s : List Char) : startsSolid s.reverse = endsSolid s := by
  simp [startsSolid, endsSolid]

lemma dropTrailingBlanks_append_of_endsSolid {s : List Char} (hs : endsSolid s)
    (post : List Char) : dropTrailingBlanks (s ++ post) = s ++ dropTrailingBlanks post := by
  rw [← startsSolid_reverse] at hs
  simp [dropTrailingBlanks, skipBlanks_append_of_startsSolid _ hs]

lemma dropTrailingBlanks_of_allBlank {gap : List Char} (hgap : AllBlank gap) :
    dropTrailingBlanks gap = [] := by
  have hreverse : AllBlank gap.reverse := fun c hc => hgap c (List.mem_reverse.mp hc)
  rw [dropTrailingBlanks, skipBlanks_of_allBlank hreverse, List.reverse_nil]

/-- Trimming takes nothing off a part of the text whose two ends are solid. -/
lemma trim_around (pre : List Char) {s : List Char} (hstart : startsSolid s) (hend : endsSolid s)
    (post : List Char) :
    trim (pre ++ s ++ post) = skipBlanks pre ++ s ++ dropTrailingBlanks post := by
  rw [trim, List.append_assoc, skipBlanks_append_of_startsSolid _ (startsSolid_append hstart post),
    ← List.append_assoc, dropTrailingBlanks_append_of_endsSolid (endsSolid_append hend _)]

lemma trim_eq_self {s : List Char} (hstart : startsSolid s) (hend : endsSolid s) : trim s = s := by
  simpa [skipBlanks, dropTrailingBlanks] using trim_around [] hstart hend []

/-- Trimming takes nothing off a text enclosed by two solid parts. -/
lemma trim_enclosed {opening closing : List Char} (hstart : startsSolid opening)
    (hend : endsSolid closing) (s : List Char) :
    trim (opening ++ s ++ closing) = opening ++ s ++ closing :=
  trim_eq_self (startsSolid_append (startsSolid_append hstart s) closing)
    (endsSolid_append hend _)

lemma trim_gap_append {gap : List Char} (hgap : AllBlank gap) (s : List Char) :
    trim (gap ++ s) = trim s := by
  rw [trim, skipBlanks_append_of_allBlank hgap, trim]

lemma trim_append_gap (s : List Char) {gap : List Char} (hgap : AllBlank gap) :
    trim (s ++ gap) = trim s := by
  have hreverse : AllBlank gap.reverse := fun c hc => hgap c (List.mem_reverse.mp hc)
  obtain ⟨before, hbefore, hs, hsolid⟩ := exists_gap_append_skipBlanks s
  rcases hsolid with hnil | hsolid
  · rw [hnil, List.append_nil] at hs
    subst hs
    rw [trim_gap_append hbefore]
    simp [trim, hnil, skipBlanks_of_allBlank hgap]
  · rw [hs, List.append_assoc, trim_gap_append hbefore, trim_gap_append hbefore, trim, trim,
      skipBlanks_of_startsSolid (startsSolid_append hsolid gap), skipBlanks_of_startsSolid hsolid]
    simp [dropTrailingBlanks, skipBlanks_append_of_allBlank hreverse]

/-- Trimming leaves the text between two gaps. -/
lemma exists_gaps_around_trim (s : List Char) :
    ∃ gap gap', AllBlank gap ∧ AllBlank gap' ∧ s = gap ++ trim s ++ gap' := by
  obtain ⟨gap, hgap, hs, -⟩ := exists_gap_append_skipBlanks s
  obtain ⟨gap', hgap', hend, -⟩ := exists_gap_append_skipBlanks (skipBlanks s).reverse
  refine ⟨gap, gap'.reverse, hgap, fun c hc => hgap' c (List.mem_reverse.mp hc), ?_⟩
  have hskip : skipBlanks s = trim s ++ gap'.reverse := by
    rw [trim, dropTrailingBlanks, ← List.reverse_append, ← hend, List.reverse_reverse]
  rw [List.append_assoc, ← hskip, ← hs]

lemma trim_eq_nil_or_endsSolid (s : List Char) : trim s = [] ∨ endsSolid (trim s) := by
  obtain ⟨-, -, -, hsolid⟩ := exists_gap_append_skipBlanks (skipBlanks s).reverse
  rw [trim, dropTrailingBlanks, ← startsSolid_reverse, List.reverse_reverse, List.reverse_eq_nil_iff]
  exact hsolid

/-- A character that is not blank keeps the blank characters after it from being trimmed. -/
lemma exists_trim_cons_eq {c : Char} (hc : isBlank c = false) (line : List Char) :
    ∃ gap, AllBlank gap ∧ trim (c :: line) = c :: gap ++ trim line := by
  have hsolid : endsSolid [c] := by simp [endsSolid, hc]
  have htrim : trim (c :: line) = c :: dropTrailingBlanks line := by
    rw [trim, skipBlanks_of_startsSolid (by simp [startsSolid, hc])]
    exact dropTrailingBlanks_append_of_endsSolid hsolid line
  obtain ⟨gap, gap', hgap, hgap', hline⟩ := exists_gaps_around_trim line
  rcases trim_eq_nil_or_endsSolid line with hnil | hends
  · have hblank : AllBlank line := by
      rw [hline, hnil]
      intro d hd
      rcases List.mem_append.mp hd with hd | hd
      · exact hgap d (by simpa using hd)
      · exact hgap' d hd
    refine ⟨[], AllBlank.nil, ?_⟩
    rw [htrim, dropTrailingBlanks_of_allBlank hblank, hnil, List.append_nil]
  · refine ⟨gap, hgap, ?_⟩
    have hdrop := dropTrailingBlanks_append_of_endsSolid (endsSolid_append hends gap) gap'
    rw [← hline, dropTrailingBlanks_of_allBlank hgap', List.append_nil] at hdrop
    rw [htrim, hdrop, List.cons_append]

/-! ## Splitting off a gap -/

/-- A part that starts solid stands after the whole of the gap before it. -/
lemma split_after_gap {gap s pre m post : List Char} (hgap : AllBlank gap) (hm : startsSolid m)
    (h : gap ++ s = pre ++ (m ++ post)) : ∃ r, pre = gap ++ r ∧ s = r ++ (m ++ post) := by
  rcases List.append_eq_append_iff.mp h with ⟨r, hpre, hs⟩ | ⟨r, hpre, hs⟩
  · exact ⟨r, hpre, hs⟩
  · cases r with
    | nil => exact ⟨[], by simpa using hpre.symm, by simpa using hs.symm⟩
    | cons c r =>
      have hc : isBlank c := hgap c (by simp [hpre])
      have hsolid : startsSolid (c :: (r ++ s)) := by
        rw [← List.cons_append, ← hs]
        exact startsSolid_append hm post
      simp [startsSolid, hc] at hsolid

/-- A part that ends solid stands before the whole of the gap after it. -/
lemma split_before_gap {gap s pre m post : List Char} (hgap : AllBlank gap) (hm : endsSolid m)
    (h : s ++ gap = pre ++ m ++ post) : ∃ r, post = r ++ gap ∧ s = pre ++ m ++ r := by
  rcases List.append_eq_append_iff.mp h with ⟨r, hs, hpost⟩ | ⟨r, hs, hpost⟩
  · rcases List.eq_nil_or_concat r with rfl | ⟨r, c, rfl⟩
    · exact ⟨[], by simpa using hpost.symm, by simpa using hs.symm⟩
    · have hc : isBlank c := hgap c (by simp [hpost])
      have hsolid : endsSolid (s ++ r.concat c) := by
        rw [← hs]
        exact endsSolid_append hm pre
      simp [endsSolid, hc] at hsolid
  · exact ⟨r, hpost, hs⟩

/-- What starts with a character found nowhere else in the text starts the text. -/
lemma isPrefix_of_isInfix_cons {c : Char} {m s : List Char} (hc : c ∉ s)
    (h : c :: m <:+: c :: s) : m <+: s := by
  obtain ⟨pre, post, h⟩ := h
  cases pre with
  | nil => exact ⟨post, by simpa using h⟩
  | cons d pre =>
    obtain ⟨-, rfl⟩ : d = c ∧ pre ++ c :: m ++ post = s := by simpa using h
    simp at hc

/-- A text that ends before a character is no longer than one that goes up to a place where the
character stands. -/
lemma length_le_of_notMem {c : Char} {t t' r r' : List Char} (hc : c ∉ t)
    (h : t ++ r = t' ++ c :: r') : t.length ≤ t'.length := by
  rcases List.append_eq_append_iff.mp h with ⟨more, rfl, -⟩ | ⟨more, rfl, hmore⟩
  · simp
  · cases more with
    | nil => simp
    | cons d more =>
      obtain ⟨rfl, -⟩ : c = d ∧ r' = more ++ r := by simpa using hmore
      simp at hc

/-- A part without the character `q` stands on one side of each `q`. -/
lemma split_around {q : Char} {a b pre m post : List Char} (hq : q ∉ m)
    (h : a ++ q :: b = pre ++ m ++ post) :
    (∃ r, a = pre ++ m ++ r) ∨ ∃ r, pre = a ++ q :: r ∧ b = r ++ m ++ post := by
  rcases List.append_eq_append_iff.mp h with ⟨more, hpre, hmore⟩ | ⟨more, ha, -⟩
  · cases more with
    | nil => exact Or.inl ⟨[], by simpa using hpre.symm⟩
    | cons d more =>
      obtain ⟨rfl, rfl⟩ : q = d ∧ b = more ++ post := by simpa using hmore
      rcases List.append_eq_append_iff.mp hpre with ⟨left, -, rfl⟩ | ⟨left, rfl, hleft⟩
      · simp at hq
      · cases left with
        | nil => simp [← List.nil_append m ▸ hleft] at hq
        | cons d left =>
          obtain ⟨rfl, rfl⟩ : q = d ∧ more = left ++ m := by simpa using hleft
          exact Or.inr ⟨left, rfl, rfl⟩
  · exact Or.inl ⟨more, ha⟩

/-! ## Tokens -/

/-- A text of the given tokens in this order, with blank characters between two of them. -/
inductive Spaced : List String → List Char → Prop where
  | nil : Spaced [] []
  | single (token : String) : Spaced [token] token.toList
  | cons (token : String) {gap : List Char} {tokens : List String} {s : List Char} :
      AllBlank gap → tokens ≠ [] → Spaced tokens s →
      Spaced (token :: tokens) (token.toList ++ gap ++ s)

lemma Spaced.exists_append {token : String} {tokens : List String} {s : List Char}
    (h : Spaced (token :: tokens) s) : ∃ rest, s = token.toList ++ rest := by
  cases h with
  | single => exact ⟨[], by simp⟩
  | cons _ hgap hne hs => exact ⟨_, List.append_assoc _ _ _⟩

lemma Spaced.startsSolid {token : String} {tokens : List String} {s : List Char}
    (h : Spaced (token :: tokens) s) (hsolid : startsSolid token.toList) : startsSolid s := by
  obtain ⟨rest, rfl⟩ := h.exists_append
  exact startsSolid_append hsolid rest

/-- A spaced text has no characters besides blank ones and those of its tokens. -/
lemma Spaced.notMem {tokens : List String} {s : List Char} (h : Spaced tokens s) {c : Char}
    (hblank : isBlank c = false) (htokens : ∀ token ∈ tokens, c ∉ token.toList) : c ∉ s := by
  induction h with
  | nil => exact List.not_mem_nil
  | single token => exact htokens token List.mem_cons_self
  | cons token hgap _ _ ih =>
    have hrest := ih fun other hother => htokens other (List.mem_cons_of_mem _ hother)
    simp [htokens token List.mem_cons_self, hgap.notMem hblank, hrest]

/-- Blank characters are skipped as far as they go, so no token after the first may start with
one. -/
lemma afterTokens_eq_some_iff {tokens : List String} {s rest : List Char}
    (hsolid : ∀ token ∈ tokens.tail, startsSolid token.toList) :
    afterTokens tokens s = some rest ↔ ∃ used, Spaced tokens used ∧ s = used ++ rest := by
  fun_induction afterTokens tokens s with
  | case1 s =>
    constructor
    · intro h
      exact ⟨[], Spaced.nil, by simpa using h⟩
    · rintro ⟨used, hused, rfl⟩
      cases hused
      rfl
  | case2 token s =>
    rw [afterLiteral_eq_some_iff]
    constructor
    · intro h
      exact ⟨token.toList, Spaced.single token, h⟩
    · rintro ⟨used, hused, rfl⟩
      cases hused with
      | single => rfl
      | cons _ _ hne => exact absurd rfl hne
  | case3 token tokens s hne ih =>
    simp only [Option.bind_eq_bind, Option.bind_eq_some_iff, afterLiteral_eq_some_iff]
    cases tokens with
    | nil => exact absurd rfl hne
    | cons next tokens =>
    have htail : ∀ token ∈ tokens, startsSolid token.toList :=
      fun t ht => hsolid t (List.mem_cons_of_mem _ ht)
    constructor
    · rintro ⟨s', rfl, h⟩
      obtain ⟨used, hused, hs'⟩ := (ih s' htail).mp h
      obtain ⟨gap, hgap, hskip, -⟩ := exists_gap_append_skipBlanks s'
      refine ⟨_, Spaced.cons token hgap (List.cons_ne_nil next tokens) hused, ?_⟩
      rw [hskip, hs']
      simp
    · rintro ⟨used, hused, rfl⟩
      cases hused with
      | @cons _ gap _ t hgap _ ht =>
      refine ⟨gap ++ (t ++ rest), by simp, (ih _ htail).mpr ⟨t, ht, ?_⟩⟩
      have hnext : startsSolid next.toList := hsolid next (by simp)
      rw [skipBlanks_append_of_allBlank hgap,
        skipBlanks_of_startsSolid (startsSolid_append (ht.startsSolid hnext) rest)]

lemma spaced_of_afterTokens {tokens : List String} {s : List Char}
    (hsolid : ∀ token ∈ tokens.tail, startsSolid token.toList)
    (h : afterTokens tokens s = some []) : Spaced tokens s := by
  obtain ⟨used, hused, rfl⟩ := (afterTokens_eq_some_iff hsolid).mp h
  simpa using hused

/-! ## Runs -/

lemma afterBlanks_eq_some_iff {s rest : List Char} :
    afterBlanks s = some rest ↔
      ∃ gap, IsBlankRun gap ∧ s = gap ++ rest ∧ (rest = [] ∨ startsSolid rest) := by
  cases s with
  | nil =>
    simp only [afterBlanks, reduceCtorEq, false_iff]
    rintro ⟨gap, hgap, hs, -⟩
    exact hgap.1 (List.append_eq_nil_iff.mp hs.symm).1
  | cons c s =>
    rw [afterBlanks]
    split
    · next hc =>
      rw [Option.some_inj]
      constructor
      · rintro rfl
        obtain ⟨gap, hgap, hs, hsolid⟩ := exists_gap_append_skipBlanks s
        refine ⟨c :: gap, ⟨by simp, ?_⟩, by rw [List.cons_append, ← hs], hsolid⟩
        intro d hd
        rcases List.mem_cons.mp hd with rfl | hd
        · exact hc
        · exact hgap d hd
      · rintro ⟨gap, ⟨-, hgap⟩, hs, hsolid⟩
        have hskip : skipBlanks (c :: s) = skipBlanks s := by simp [skipBlanks, hc]
        rw [← hskip, hs, skipBlanks_append_of_allBlank hgap]
        rcases hsolid with rfl | hsolid
        · rfl
        · exact skipBlanks_of_startsSolid hsolid
    · next hc =>
      simp only [reduceCtorEq, false_iff]
      rintro ⟨gap, ⟨hne, hgap⟩, hs, -⟩
      cases gap with
      | nil => exact hne rfl
      | cons d gap =>
        obtain ⟨rfl, -⟩ : c = d ∧ s = gap ++ rest := by simpa using hs
        exact hc (hgap c List.mem_cons_self)

/-- A word run is never cut short: what follows it does not start with a word character. -/
lemma wordRun_eq_some_iff {s word rest : List Char} :
    wordRun s = some (word, rest) ↔
      s = word ++ rest ∧ IsWordRun word ∧ ∀ c ∈ rest.head?, isWord c = false := by
  constructor
  · intro h
    have hsplit : s.takeWhile isWord = word ∧ word ≠ [] ∧ s.dropWhile isWord = rest := by
      rw [wordRun] at h
      split at h
      · simp at h
      · next hne =>
        obtain ⟨rfl, rfl⟩ : s.takeWhile isWord = word ∧ s.dropWhile isWord = rest := by
          simpa using h
        exact ⟨rfl, hne, rfl⟩
    obtain ⟨rfl, hne, rfl⟩ := hsplit
    refine ⟨List.takeWhile_append_dropWhile.symm, ⟨hne, fun c hc => ?_⟩, fun c hc => ?_⟩
    · exact List.mem_takeWhile_imp hc
    · have hstop := List.head?_dropWhile_not isWord s
      rw [Option.mem_def.mp hc] at hstop
      exact hstop
  · rintro ⟨rfl, ⟨hne, hword⟩, hrest⟩
    have htake : (word ++ rest).takeWhile isWord = word := by
      rw [List.takeWhile_append_of_pos hword]
      cases rest with
      | nil => simp
      | cons c rest => simp [hrest c rfl]
    have hdrop : (word ++ rest).dropWhile isWord = rest := by
      rw [List.dropWhile_append_of_pos hword]
      cases rest with
      | nil => rfl
      | cons c rest => simp [hrest c rfl]
    rw [wordRun, htake, hdrop]
    cases word with
    | nil => exact absurd rfl hne
    | cons c word => rfl

/-! ## Searching -/

section Foremost

variable {α : Type} {P : List Char → α → Prop}

/-- Of all places at which `P` holds of some value, the one with the least text before it. -/
def Foremost (P : List Char → α → Prop) (pre : List Char) (a : α) : Prop :=
  P pre a ∧ ∀ pre' a', P pre' a' → pre.length ≤ pre'.length

lemma exists_foremost_iff : (∃ pre a, Foremost P pre a) ↔ ∃ pre a, P pre a := by
  constructor
  · rintro ⟨pre, a, h, -⟩
    exact ⟨pre, a, h⟩
  · intro h
    obtain ⟨pre, ⟨a, ha⟩, hmin⟩ := (measure List.length).wf.has_min {pre | ∃ a, P pre a} h
    exact ⟨pre, a, ha, fun pre' a' h' => Nat.le_of_not_lt (hmin pre' ⟨a', h'⟩)⟩

/-- A search for what `P` says finds the value at the foremost place, when the reader gives at each
place the value that `P` holds of there. -/
lemma leftmost_eq_some_iff_foremost {read : Option Char → List Char → Option α} {s : List Char}
    (hread : ∀ pre a, P pre a ↔ ∃ post, s = pre ++ post ∧ read pre.getLast? post = some a)
    {a : α} : leftmost read none s = some a ↔ ∃ pre, Foremost P pre a := by
  simp only [leftmost_eq_some_iff, Option.or_none, Foremost]
  constructor
  · rintro ⟨pre, post, hs, ha, hfirst⟩
    refine ⟨pre, (hread pre a).mpr ⟨post, hs, ha⟩, fun pre' a' h => ?_⟩
    obtain ⟨post', hs', ha'⟩ := (hread pre' a').mp h
    refine Nat.le_of_not_lt fun hlt => ?_
    rw [hfirst pre' post' hs' hlt] at ha'
    simp at ha'
  · rintro ⟨pre, hpre, hmin⟩
    obtain ⟨post, hs, ha⟩ := (hread pre a).mp hpre
    refine ⟨pre, post, hs, ha, fun pre' post' hs' hlt => ?_⟩
    cases hfound : read pre'.getLast? post' with
    | none => rfl
    | some a' =>
      have := hmin pre' a' ((hread pre' a').mpr ⟨post', hs', hfound⟩)
      omega

lemma leftmost_eq_none_iff_forall {read : Option Char → List Char → Option α} {s : List Char}
    (hread : ∀ pre a, P pre a ↔ ∃ post, s = pre ++ post ∧ read pre.getLast? post = some a) :
    leftmost read none s = none ↔ ∀ pre a, ¬ P pre a := by
  simp only [leftmost_eq_none_iff, Option.or_none, hread, not_exists, not_and]
  constructor
  · intro h pre a post hs ha
    simp [h pre post hs] at ha
  · intro h pre post hs
    cases hfound : read pre.getLast? post with
    | none => rfl
    | some a => exact absurd hfound (h pre a post hs)

/-- Two searches have the same result when the one text has its finds where the other has them,
`shift` further. -/
lemma leftmost_eq_of_shift {Q : List Char → α → Prop}
    {read : Option Char → List Char → Option α} {s t shift : List Char}
    (hP : ∀ pre a, P pre a ↔ ∃ post, s = pre ++ post ∧ read pre.getLast? post = some a)
    (hQ : ∀ pre a, Q pre a ↔ ∃ post, t = pre ++ post ∧ read pre.getLast? post = some a)
    (hshift : ∀ pre a, P pre a ↔ ∃ pre', pre = shift ++ pre' ∧ Q pre' a) :
    leftmost read none s = leftmost read none t := by
  apply Option.ext
  intro a
  rw [leftmost_eq_some_iff_foremost hP, leftmost_eq_some_iff_foremost hQ]
  constructor
  · rintro ⟨pre, hpre, hmin⟩
    obtain ⟨pre', rfl, hpre'⟩ := (hshift pre a).mp hpre
    refine ⟨pre', hpre', fun other a' hother => ?_⟩
    have hle := hmin _ a' ((hshift _ a').mpr ⟨other, rfl, hother⟩)
    simpa using hle
  · rintro ⟨pre', hpre', hmin⟩
    refine ⟨shift ++ pre', (hshift _ a).mpr ⟨pre', rfl, hpre'⟩, fun other a' hother => ?_⟩
    obtain ⟨other', rfl, hother'⟩ := (hshift other a').mp hother
    have hle := hmin other' a' hother'
    simpa using hle

end Foremost

end FieldList.Text
