import FieldList.Proofs.Source.Events

/-!
# Which date formats, marks and declarations a line gives

`NamesConstant` and `Declares` are the written forms of a date format annotation and of a
declaration. `ofLine_followsGrammar` says that a line gives exactly the events of what is written in
it: of several date formats or declarations the one with the least text before it, and the events
in the order of their kinds.

A word run is followed by a character that is no word character, so it can be read in one way only;
blank characters and word characters have nothing in common. This is why the reader, which never
takes back what it has read, misses no declaration.
-/

namespace FieldList.Source

open Text

/-! ## The written forms -/

/-- What a date format annotation holds before the name of its constant. -/
def constantTokens : List String := ["@JsonFormat", "(", "pattern", "=", "Const."]

/-- After `pre` stands a date format annotation that names this constant, prefix included. -/
def NamesConstant (s pre constant : List Char) : Prop :=
  ∃ word, IsWordRun word ∧ constant = "Const.".toList ++ word ∧
    ∃ opening gap post, Spaced constantTokens opening ∧ AllBlank gap ∧
      s = pre ++ opening ++ word ++ gap ++ ')' :: post

/-- The keywords with which a declaration can start. -/
def visibilities : List String := ["private", "protected", "public"]

/-- After `pre`, which does not end inside a word, stands a declaration of a type and a name. -/
def Declares (s pre : List Char) (declared : List Char × List Char) : Prop :=
  (∀ c ∈ pre.getLast?, isWord c = false) ∧ IsWordRun declared.1 ∧ IsWordRun declared.2 ∧
    ∃ keyword ∈ visibilities, ∃ gap gap' post, IsBlankRun gap ∧ IsBlankRun gap' ∧
      s = pre ++ keyword.toList ++ gap ++ declared.1 ++ gap' ++ declared.2 ++ ';' :: post

/-- The events are those of what is written in `s`, descriptions aside. -/
structure FollowsGrammar (s : List Char) (events : List Event) : Prop where
  exists_declaration_iff : (∃ dataType name, .declaration dataType name ∈ events) ↔
    ∃ pre declared, Declares s pre declared
  declaration_iff : ∀ dataType name, .declaration dataType name ∈ events ↔
    ∃ pre declared, Foremost (Declares s) pre declared ∧
      dataType = String.ofList declared.1 ∧ name = String.ofList declared.2
  exists_dateFormat_iff : (∃ format, .dateFormat format ∈ events) ↔
    ∃ pre constant, NamesConstant s pre constant
  dateFormat_iff : ∀ format, .dateFormat format ∈ events ↔
    ∃ pre constant, Foremost (NamesConstant s) pre constant ∧
      format = DateFormat.ofConstant (String.ofList constant)
  notNull_iff : .notNull ∈ events ↔ "@NotNull".toList <:+: s
  /-- Descriptions come before date formats, these before marks, and declarations come last. -/
  ordered : (events.map Event.rank).Pairwise (· < ·)
  unique : ∀ e ∈ events, ∀ e' ∈ events, e.rank = e'.rank → e = e'
  declaration_last : ∀ dataType name, .declaration dataType name ∈ events →
    events.getLast? = some (.declaration dataType name)

/-! ## Date formats -/

lemma constantAt_eq_some_iff {s pre constant : List Char} :
    NamesConstant s pre constant ↔
      ∃ post, s = pre ++ post ∧ constantAt post = some constant := by
  have hsolid : ∀ token ∈ constantTokens.tail, startsSolid token.toList := by decide
  simp only [constantAt, Option.bind_eq_bind, Option.bind_eq_some_iff, Prod.exists,
    Option.some_inj]
  constructor
  · rintro ⟨word, hword, rfl, opening, gap, post, hopening, hgap, rfl⟩
    have hstop : ∀ c ∈ (gap ++ ')' :: post).head?, isWord c = false := by
      cases gap with
      | nil =>
        rintro c ⟨⟩
        decide
      | cons d gap => exact IsBlankRun.head?_append ⟨by simp, hgap⟩ _
    have hskip : skipBlanks (gap ++ ')' :: post) = ')' :: post := by
      rw [skipBlanks_append_of_allBlank hgap]
      exact skipBlanks_of_startsSolid (startsSolid_append (s := [')']) (by decide) post)
    refine ⟨opening ++ (word ++ (gap ++ ')' :: post)), by simp, word ++ (gap ++ ')' :: post), ?_,
      word, gap ++ ')' :: post, ?_, post, ?_, rfl⟩
    · exact (afterTokens_eq_some_iff hsolid).mpr ⟨opening, hopening, rfl⟩
    · exact wordRun_eq_some_iff.mpr ⟨rfl, hword, hstop⟩
    · rw [hskip, afterLiteral_eq_some_iff]
      rfl
  · rintro ⟨post, rfl, rest, hrest, word, rest', hword, post', hpost, rfl⟩
    obtain ⟨opening, hopening, rfl⟩ := (afterTokens_eq_some_iff hsolid).mp hrest
    obtain ⟨rfl, hrun, -⟩ := wordRun_eq_some_iff.mp hword
    obtain ⟨gap, hgap, hskip, -⟩ := exists_gap_append_skipBlanks rest'
    rw [afterLiteral_eq_some_iff] at hpost
    rw [hpost] at hskip
    exact ⟨word, hrun, rfl, opening, gap, post', hopening, hgap, by simp [hskip]⟩

lemma dateFormat?_eq_some_iff {s : List Char} {format : DateFormat} :
    dateFormat? s = some (.dateFormat format) ↔
      ∃ pre constant, Foremost (NamesConstant s) pre constant ∧
        format = DateFormat.ofConstant (String.ofList constant) := by
  have hleftmost : ∀ constant, leftmost (fun _ => constantAt) none s = some constant ↔
      ∃ pre, Foremost (NamesConstant s) pre constant :=
    fun _ => leftmost_eq_some_iff_foremost fun pre c => constantAt_eq_some_iff
  rw [dateFormat?, Option.map_eq_some_iff]
  constructor
  · rintro ⟨constant, hconstant, hevent⟩
    obtain ⟨pre, hpre⟩ := (hleftmost constant).mp hconstant
    exact ⟨pre, constant, hpre, (Event.dateFormat.inj hevent).symm⟩
  · rintro ⟨pre, constant, hpre, rfl⟩
    exact ⟨constant, (hleftmost constant).mpr ⟨pre, hpre⟩, rfl⟩

lemma exists_dateFormat?_iff {s : List Char} :
    (∃ format, dateFormat? s = some (.dateFormat format)) ↔
      ∃ pre constant, NamesConstant s pre constant := by
  rw [← exists_foremost_iff]
  simp only [dateFormat?_eq_some_iff]
  constructor
  · rintro ⟨-, pre, constant, hfirst, -⟩
    exact ⟨pre, constant, hfirst⟩
  · rintro ⟨pre, constant, hfirst⟩
    exact ⟨_, pre, constant, hfirst, rfl⟩

lemma dateFormat?_eq_none_iff {s : List Char} :
    dateFormat? s = none ↔ ∀ pre constant, ¬ NamesConstant s pre constant := by
  rw [dateFormat?, Option.map_eq_none_iff,
    leftmost_eq_none_iff_forall fun pre c => constantAt_eq_some_iff]

/-- A date format has an at sign. -/
lemma dateFormat?_eq_none_of_notMem {s : List Char} (h : '@' ∉ s) : dateFormat? s = none := by
  rw [dateFormat?_eq_none_iff]
  rintro pre constant ⟨word, -, -, opening, gap, post, hopening, -, rfl⟩
  obtain ⟨rest, rfl⟩ := hopening.exists_append
  simp at h

/-! ## Marks -/

lemma notNull?_eq_none_iff {s : List Char} :
    notNull? s = none ↔ ¬ "@NotNull".toList <:+: s := by
  have hread : ∀ pre rest, s = pre ++ "@NotNull".toList ++ rest ↔
      ∃ post, s = pre ++ post ∧ afterLiteral "@NotNull".toList post = some rest := by
    simp [afterLiteral_eq_some_iff]
  rw [notNull?, Option.map_eq_none_iff, leftmost_eq_none_iff_forall hread]
  simp only [List.IsInfix, not_exists, eq_comm]

/-- A mark has an at sign. -/
lemma notNull?_eq_none_of_notMem {s : List Char} (h : '@' ∉ s) : notNull? s = none := by
  rw [notNull?_eq_none_iff]
  intro hstands
  exact h (hstands.subset (by simp))

lemma notNull?_eq_some_iff {s : List Char} :
    notNull? s = some .notNull ↔ "@NotNull".toList <:+: s := by
  rw [← not_iff_not, ← notNull?_eq_none_iff]
  cases h : notNull? s with
  | none => simp
  | some e =>
    obtain ⟨rest, -, rfl⟩ := Option.map_eq_some_iff.mp h
    simp

/-! ## Declarations -/

lemma afterVisibility_eq_some_iff {s rest : List Char} :
    afterVisibility s = some rest ↔ ∃ keyword ∈ visibilities, s = keyword.toList ++ rest := by
  constructor
  · intro h
    obtain ⟨keyword, hkeyword, h⟩ := List.exists_of_findSome?_eq_some h
    exact ⟨keyword, hkeyword, afterLiteral_eq_some_iff.mp h⟩
  · rintro ⟨keyword, hkeyword, rfl⟩
    simp only [visibilities, List.mem_cons, List.not_mem_nil, or_false] at hkeyword
    rcases hkeyword with rfl | rfl | rfl <;> rfl

lemma solid_of_mem_visibilities {keyword : String} (h : keyword ∈ visibilities) :
    startsSolid keyword.toList ∧ '"' ∉ keyword.toList ∧ '@' ∉ keyword.toList ∧
      '\n' ∉ keyword.toList := by
  have hall : ∀ keyword ∈ visibilities, startsSolid keyword.toList ∧ '"' ∉ keyword.toList ∧
      '@' ∉ keyword.toList ∧ '\n' ∉ keyword.toList := by decide
  exact hall keyword h

lemma declarationAt_eq_some_iff {s pre : List Char} {declared : List Char × List Char} :
    Declares s pre declared ↔
      ∃ post, s = pre ++ post ∧ declarationAt pre.getLast? post = some declared := by
  obtain ⟨dataType, name⟩ := declared
  have hboundary : pre.getLast?.any isWord = false ↔ ∀ c ∈ pre.getLast?, isWord c = false := by
    cases pre.getLast? <;> simp
  constructor
  · rintro ⟨hpre, hdataType, hname, keyword, hkeyword, gap, gap', post, hgap, hgap', rfl⟩
    refine ⟨keyword.toList ++ (gap ++ (dataType ++ (gap' ++ (name ++ ';' :: post)))), by simp, ?_⟩
    rw [declarationAt, if_neg (by simp [hboundary.mpr hpre])]
    simp only [Option.bind_eq_bind, Option.bind_eq_some_iff, Prod.exists, Option.some_inj]
    refine ⟨_, afterVisibility_eq_some_iff.mpr ⟨keyword, hkeyword, rfl⟩,
      dataType ++ (gap' ++ (name ++ ';' :: post)), ?_, dataType, gap' ++ (name ++ ';' :: post), ?_,
      name ++ ';' :: post, ?_, name, ';' :: post, ?_, post, ?_, rfl⟩
    · exact afterBlanks_eq_some_iff.mpr
        ⟨gap, hgap, rfl, Or.inr (startsSolid_append hdataType.startsSolid _)⟩
    · exact wordRun_eq_some_iff.mpr ⟨rfl, hdataType, hgap'.head?_append _⟩
    · exact afterBlanks_eq_some_iff.mpr
        ⟨gap', hgap', rfl, Or.inr (startsSolid_append hname.startsSolid _)⟩
    · refine wordRun_eq_some_iff.mpr ⟨rfl, hname, ?_⟩
      rintro c ⟨⟩
      decide
    · exact afterLiteral_eq_some_iff.mpr rfl
  · rintro ⟨post, rfl, h⟩
    rw [declarationAt] at h
    split at h
    · simp at h
    · next hpre =>
      simp only [Option.bind_eq_bind, Option.bind_eq_some_iff, Prod.exists, Option.some_inj,
        Prod.mk.injEq] at h
      obtain ⟨s₁, h₁, s₂, h₂, _, s₃, h₃, s₄, h₄, _, s₅, h₅, s₆, h₆, rfl, rfl⟩ := h
      obtain ⟨keyword, hkeyword, rfl⟩ := afterVisibility_eq_some_iff.mp h₁
      obtain ⟨gap, hgap, rfl, -⟩ := afterBlanks_eq_some_iff.mp h₂
      obtain ⟨rfl, hdataType, -⟩ := wordRun_eq_some_iff.mp h₃
      obtain ⟨gap', hgap', rfl, -⟩ := afterBlanks_eq_some_iff.mp h₄
      obtain ⟨rfl, hname, -⟩ := wordRun_eq_some_iff.mp h₅
      obtain rfl := afterLiteral_eq_some_iff.mp h₆
      exact ⟨hboundary.mp (by simpa using hpre), hdataType, hname, keyword, hkeyword, gap, gap',
        s₆, hgap, hgap', by simp⟩

lemma declaration?_eq_some_iff {s : List Char} {dataType name : String} :
    declaration? s = some (.declaration dataType name) ↔
      ∃ pre declared, Foremost (Declares s) pre declared ∧
        dataType = String.ofList declared.1 ∧ name = String.ofList declared.2 := by
  have hleftmost : ∀ declared, leftmost declarationAt none s = some declared ↔
      ∃ pre, Foremost (Declares s) pre declared :=
    fun _ => leftmost_eq_some_iff_foremost fun pre declared => declarationAt_eq_some_iff
  rw [declaration?, Option.map_eq_some_iff]
  constructor
  · rintro ⟨declared, hdeclared, hevent⟩
    obtain ⟨pre, hpre⟩ := (hleftmost declared).mp hdeclared
    obtain ⟨hdataType, hname⟩ := Event.declaration.inj hevent
    exact ⟨pre, declared, hpre, hdataType.symm, hname.symm⟩
  · rintro ⟨pre, declared, hpre, rfl, rfl⟩
    exact ⟨declared, (hleftmost declared).mpr ⟨pre, hpre⟩, rfl⟩

lemma exists_declaration?_iff {s : List Char} :
    (∃ dataType name, declaration? s = some (.declaration dataType name)) ↔
      ∃ pre declared, Declares s pre declared := by
  rw [← exists_foremost_iff]
  simp only [declaration?_eq_some_iff]
  constructor
  · rintro ⟨-, -, pre, declared, hfirst, -⟩
    exact ⟨pre, declared, hfirst⟩
  · rintro ⟨pre, declared, hfirst⟩
    exact ⟨_, _, pre, declared, hfirst, rfl, rfl⟩

lemma declaration?_eq_none_iff {s : List Char} :
    declaration? s = none ↔ ∀ pre declared, ¬ Declares s pre declared := by
  rw [declaration?, Option.map_eq_none_iff,
    leftmost_eq_none_iff_forall fun pre declared => declarationAt_eq_some_iff]

/-- A declaration has a semicolon. -/
lemma declaration?_eq_none_of_notMem {s : List Char} (h : ';' ∉ s) : declaration? s = none := by
  rw [declaration?_eq_none_iff]
  rintro pre declared ⟨-, -, -, keyword, -, gap, gap', post, -, -, rfl⟩
  simp at h

/-! ## All events -/

/-- **A line gives the events of its grammar**, in the order of their kinds. -/
theorem ofLine_followsGrammar (line : List Char) :
    FollowsGrammar (trim line) (Event.ofLine line) where
  exists_declaration_iff := by
    simp only [mem_ofLine_iff]
    exact exists_declaration?_iff
  declaration_iff dataType name := by
    rw [mem_ofLine_iff]
    exact declaration?_eq_some_iff
  exists_dateFormat_iff := by
    simp only [mem_ofLine_iff]
    exact exists_dateFormat?_iff
  dateFormat_iff format := by
    rw [mem_ofLine_iff]
    exact dateFormat?_eq_some_iff
  notNull_iff := by
    rw [mem_ofLine_iff]
    exact notNull?_eq_some_iff
  ordered := ofLine_pairwise_rank line
  unique _ he _ he' := eq_of_mem_ofLine_of_rank_eq he he'
  declaration_last _ _ := getLast?_ofLine_of_mem

example : Event.ofLine "public protected private x;".toList = [.declaration "private" "x"] := by
  decide

end FieldList.Source
