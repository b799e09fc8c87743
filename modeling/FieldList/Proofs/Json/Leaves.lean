import FieldList.Json.Reader
import FieldList.Proofs.Json.Grammar

/-!
# Reading strings and numbers

The readers of strings and numbers take what the grammar calls so, in front of anything that can
stand after it, and leave the rest.

A string is read in two steps, first as code points and surrogates and then as the text these are
joined to (`ReadsUnits`, `JoinsTo`). A number has no closing mark: it ends where nothing follows
that could belong to it, and of what can stand after a value nothing does (`endings`).
-/

namespace FieldList.Json

/-! ## Strings -/

lemma hexDigit?_of_getElem? {digits : List Char} {c : Char} {n : ℕ}
    (hdigits : ∀ n < digits.length, digits[n]?.bind hexDigit? = some n)
    (h : digits[n]? = some c) : hexDigit? c = some n := by
  have hn := hdigits n (List.getElem?_eq_some_iff.mp h).1
  rwa [h] at hn

lemma hexDigit?_of_isHexDigit {c : Char} {n : ℕ} (h : IsHexDigit c n) : hexDigit? c = some n := by
  rcases h with h | h
  · exact hexDigit?_of_getElem? (by decide +kernel) h
  · exact hexDigit?_of_getElem? (by decide +kernel) h

lemma escaped?_of_mem_escapes {letter c : Char} (h : (letter, c) ∈ escapes) :
    escaped? letter = some c ∧ letter ≠ 'u' := by
  have hall : ∀ e ∈ escapes, escaped? e.1 = some e.2 ∧ e.1 ≠ 'u' := by decide
  exact hall (letter, c) h

/-- A text is read as some units when these come before what is read after it. -/
def ReadsUnits (s : List Char) (units : List ℕ) : Prop :=
  ∀ rest, readUnits (s ++ rest) = (readUnits rest).map fun r => (units ++ r.1, r.2)

/-- Units are joined to a text when it comes before what is joined after them. -/
def JoinsTo (units : List ℕ) (text : List Char) : Prop :=
  ∀ more, joinSurrogates (units ++ more) = (joinSurrogates more).map (text ++ ·)

lemma ReadsUnits.append {s t : List Char} {units more : List ℕ} (hs : ReadsUnits s units)
    (ht : ReadsUnits t more) : ReadsUnits (s ++ t) (units ++ more) := by
  intro rest
  rw [List.append_assoc, hs, ht]
  cases readUnits rest <;> simp

lemma JoinsTo.append {units more : List ℕ} {s t : List Char} (hs : JoinsTo units s)
    (ht : JoinsTo more t) : JoinsTo (units ++ more) (s ++ t) := by
  intro rest
  rw [List.append_assoc, hs, ht]
  cases joinSurrogates rest <;> simp

lemma readsUnits_hexNumber {digits : List Char} {n : ℕ} (h : IsHexNumber digits n) :
    ReadsUnits ('\\' :: 'u' :: digits) [n] := by
  intro rest
  cases h with
  | @digits a b c d k l m n ha hb hc hd =>
    have hnumber : hexNumber? a b c d = some (0x1000 * k + 0x100 * l + 0x10 * m + n) := by
      simp only [hexNumber?, hexDigit?_of_isHexDigit ha, hexDigit?_of_isHexDigit hb,
        hexDigit?_of_isHexDigit hc, hexDigit?_of_isHexDigit hd, Option.bind_eq_bind,
        Option.bind_some, Option.some.injEq]
      omega
    simp only [List.cons_append, List.nil_append, readUnits, hnumber]
    cases readUnits rest <;> rfl

lemma joinsTo_singleton (c : Char) : JoinsTo [c.toNat] [c] := by
  intro more
  have hplain : ¬ (0xD800 ≤ c.toNat ∧ c.toNat ≤ 0xDFFF) := c.toNat_not_surrogate
  have hhigh : ¬ (0xD800 ≤ c.toNat ∧ c.toNat < 0xDC00) := by omega
  have hlow : ¬ (0xDC00 ≤ c.toNat ∧ c.toNat < 0xE000) := by omega
  have hpair : ¬ (0xD800 ≤ c.toNat ∧ c.toNat < 0xE000) := by omega
  cases more with
  | nil => simp [joinSurrogates, hpair]
  | cons next more =>
    simp only [List.cons_append, List.nil_append, joinSurrogates, Bool.and_eq_true,
      decide_eq_true_eq, hhigh, hlow, if_false, Char.ofNat_toNat]
    cases joinSurrogates (next :: more) <;> rfl

lemma joinsTo_pair {c : Char} {h l : ℕ} (hh : h < 0x400) (hl : l < 0x400)
    (hc : c.toNat = 0x10000 + 0x400 * h + l) : JoinsTo [0xD800 + h, 0xDC00 + l] [c] := by
  intro more
  have hcode : 0x10000 + (0xD800 + h - 0xD800) * 0x400 + (0xDC00 + l - 0xDC00) = c.toNat := by omega
  have hhigh : 0xD800 ≤ 0xD800 + h ∧ 0xD800 + h < 0xDC00 := by omega
  have hlow : 0xDC00 ≤ 0xDC00 + l ∧ 0xDC00 + l < 0xE000 := by omega
  simp only [List.cons_append, List.nil_append, joinSurrogates, Bool.and_eq_true,
    decide_eq_true_eq, hhigh, hlow, hcode, Char.ofNat_toNat]
  cases joinSurrogates more <;> simp

/-- However a character is spelled, it is read and joined to itself. -/
lemma Spelling.exists_units {c : Char} {w : List Char} (h : Spelling c w) :
    ∃ units, ReadsUnits w units ∧ JoinsTo units [c] := by
  cases h with
  | itself hquote hbackslash hcontrol =>
    refine ⟨[c.toNat], fun rest => ?_, joinsTo_singleton c⟩
    have hplain : ¬ (c = '\\' ∨ c.toNat < 0x20) := by
      rintro (rfl | hlt)
      · exact hbackslash rfl
      · omega
    rw [List.singleton_append, readUnits]
    · rw [if_neg (by simpa using hplain)]
      cases readUnits rest <;> rfl
    all_goals simp_all
  | @escape letter c hmem =>
    obtain ⟨hletter, hu⟩ := escaped?_of_mem_escapes hmem
    refine ⟨[c.toNat], fun rest => ?_, joinsTo_singleton c⟩
    rw [List.cons_append, List.singleton_append, readUnits]
    · rw [hletter]
      cases readUnits rest <;> rfl
    all_goals simp_all
  | unit hnumber => exact ⟨[c.toNat], readsUnits_hexNumber hnumber, joinsTo_singleton c⟩
  | surrogates hhigh hlow hh hl hc =>
    have hread := (readsUnits_hexNumber hhigh).append (readsUnits_hexNumber hlow)
    exact ⟨_, hread, joinsTo_pair hh hl hc⟩

lemma Spells.exists_units {text s : List Char} (h : Spells text s) :
    ∃ units, ReadsUnits s units ∧ JoinsTo units text := by
  induction h with
  | nil => exact ⟨[], fun rest => by simp, fun more => by simp⟩
  | cons hc _ ih =>
    obtain ⟨units, hread, hjoin⟩ := hc.exists_units
    obtain ⟨more, hread', hjoin'⟩ := ih
    exact ⟨units ++ more, hread.append hread', hjoin.append hjoin'⟩

/-- A string is read as its text, in front of anything. -/
lemma readString_append {text : String} {s : List Char} (h : Quotes text s) (rest : List Char) :
    ∃ inner, s = '"' :: inner ∧ readString (inner ++ rest) = some (some text, rest) := by
  cases h with
  | @quoted text s hspells =>
    refine ⟨s ++ ['"'], rfl, ?_⟩
    obtain ⟨units, hread, hjoin⟩ := hspells.exists_units
    have hunits : readUnits (s ++ '"' :: rest) = some (units, rest) := by
      rw [hread, readUnits]
      simp
    have htext : joinSurrogates units = some text := by
      simpa [joinSurrogates] using hjoin []
    rw [List.append_assoc, List.singleton_append, readString, hunits]
    simp [htext]

/-! ## Numbers -/

/-- The text is empty or starts with one of some characters. -/
def StartsIn (cs s : List Char) : Prop := ∀ c ∈ s.head?, c ∈ cs

/-- The characters that can stand after a value. -/
def endings : List Char := [' ', '\t', '\n', '\r', ',', ']', '\x7d']

lemma StartsIn.eq_false {cs s : List Char} (h : StartsIn cs s) {p : Char → Bool}
    (hp : ∀ c ∈ cs, p c = false) : s.head?.any p = false := by
  cases s with
  | nil => rfl
  | cons c s => exact hp c (h c rfl)

lemma StartsIn.ne {cs s rest : List Char} {c : Char} (h : StartsIn cs s) (hc : c ∉ cs) :
    s ≠ c :: rest := by
  rintro rfl
  exact hc (h c rfl)

lemma takeWhile_eq_nil_of_head? {p : Char → Bool} {s : List Char} (h : s.head?.any p = false) :
    s.takeWhile p = [] ∧ s.dropWhile p = s := by
  cases s with
  | nil => exact ⟨rfl, rfl⟩
  | cons c s =>
    have hc : p c = false := h
    simp [hc]

lemma readDigits_append {digits rest : List Char} (h : IsDigits digits)
    (hrest : rest.head?.any Char.isDigit = false) :
    readDigits (digits ++ rest) = some (digits, rest) := by
  obtain ⟨htake, hdrop⟩ := takeWhile_eq_nil_of_head? hrest
  obtain ⟨hne, hall⟩ := h
  rw [readDigits, List.takeWhile_append_of_pos hall, List.dropWhile_append_of_pos hall, htake,
    hdrop, List.append_nil]
  cases digits with
  | nil => exact absurd rfl hne
  | cons d digits => rfl

lemma readWhole_append {whole rest : List Char} (h : IsWhole whole)
    (hrest : rest.head?.any Char.isDigit = false) :
    readWhole (whole ++ rest) = some (whole, rest) := by
  rcases h with rfl | ⟨hdigits, hzero⟩
  · rfl
  · rw [readWhole]
    · exact readDigits_append hdigits hrest
    · rintro more hmore
      obtain ⟨d, digits, rfl⟩ := List.exists_cons_of_ne_nil hdigits.1
      obtain ⟨rfl, -⟩ := List.cons.inj hmore
      exact hzero rfl

lemma readFraction_append {fraction rest : List Char} (h : IsFraction fraction)
    (hrest : rest.head?.any Char.isDigit = false) (hpoint : ∀ more, rest ≠ '.' :: more) :
    readFraction (fraction ++ rest) = some (fraction, rest) := by
  rcases h with rfl | ⟨digits, hdigits, rfl⟩
  · rw [List.nil_append, readFraction]
    exact hpoint
  · rw [List.cons_append, readFraction, readDigits_append hdigits hrest]
    rfl

lemma readSign_append {sign digits : List Char} (hsign : sign ∈ [[], ['+'], ['-']])
    (hdigits : IsDigits digits) (rest : List Char) :
    readSign (sign ++ (digits ++ rest)) = (sign, digits ++ rest) := by
  obtain ⟨d, digits, rfl⟩ := List.exists_cons_of_ne_nil hdigits.1
  have hd : d.isDigit := hdigits.2 d List.mem_cons_self
  simp only [List.mem_cons, List.not_mem_nil, or_false] at hsign
  rcases hsign with rfl | rfl | rfl
  · rw [List.nil_append, List.cons_append, readSign]
    all_goals
      rintro more hmore
      obtain ⟨rfl, -⟩ := List.cons.inj hmore
      cases hd
  · rfl
  · rfl

lemma readExponent_append {exponent rest : List Char} (h : IsExponent exponent)
    (hrest : StartsIn endings rest) :
    readExponent (exponent ++ rest) = some (exponent, rest) := by
  have hdigit : rest.head?.any Char.isDigit = false := hrest.eq_false (by simp [endings])
  rcases h with rfl | ⟨e, sign, digits, he, hsign, hdigits, rfl⟩
  · cases rest with
    | nil => rfl
    | cons c rest =>
      have hc : ¬ (c = 'e' ∨ c = 'E') := by
        rintro (rfl | rfl)
        · exact hrest.ne (by decide) rfl
        · exact hrest.ne (by decide) rfl
      simp [readExponent, hc]
  · have he : (e = 'e' || e = 'E') = true := by simpa using he
    have hread : readSign (sign ++ digits ++ rest) = (sign, digits ++ rest) := by
      rw [List.append_assoc, readSign_append hsign hdigits]
    rw [List.cons_append, List.cons_append, readExponent, if_pos he, hread]
    simp only [readDigits_append hdigits hdigit, Option.map_some, List.cons_append]

lemma StartsIn.mono {cs cs' s : List Char} (h : StartsIn cs s) (hcs : cs ⊆ cs') :
    StartsIn cs' s := fun c hc => hcs (h c hc)

lemma IsExponent.startsIn {exponent rest : List Char} (h : IsExponent exponent)
    (hrest : StartsIn endings rest) : StartsIn ('e' :: 'E' :: endings) (exponent ++ rest) := by
  rcases h with rfl | ⟨e, sign, digits, he, -, -, rfl⟩
  · exact hrest.mono (by decide)
  · have he : e = 'e' ∨ e = 'E' := by simpa using he
    rcases he with rfl | rfl <;> simp [StartsIn]

lemma IsFraction.startsIn {fraction rest : List Char} (h : IsFraction fraction)
    (hrest : StartsIn ('e' :: 'E' :: endings) rest) :
    StartsIn ('.' :: 'e' :: 'E' :: endings) (fraction ++ rest) := by
  rcases h with rfl | ⟨digits, -, rfl⟩
  · exact hrest.mono (by decide)
  · simp [StartsIn]

lemma readUnsigned_append {whole fraction exponent rest : List Char} (hwhole : IsWhole whole)
    (hfraction : IsFraction fraction) (hexponent : IsExponent exponent)
    (hrest : StartsIn endings rest) : readUnsigned (whole ++ fraction ++ exponent ++ rest) =
      some (whole ++ fraction ++ exponent, rest) := by
  have hafter := hexponent.startsIn hrest
  have hdigit : (exponent ++ rest).head?.any Char.isDigit = false :=
    hafter.eq_false (by simp [endings])
  have hdigit' : (fraction ++ (exponent ++ rest)).head?.any Char.isDigit = false :=
    (hfraction.startsIn hafter).eq_false (by simp [endings])
  have hpoint : ∀ more, exponent ++ rest ≠ '.' :: more := fun more => hafter.ne (by decide)
  simp only [List.append_assoc, readUnsigned, readWhole_append hwhole hdigit', hdigit',
    readFraction_append hfraction hdigit hpoint, readExponent_append hexponent hrest,
    Option.bind_eq_bind, Option.bind_some, Bool.false_eq_true, if_false]

lemma IsWhole.exists_head {whole : List Char} (h : IsWhole whole) :
    ∃ d digits, whole = d :: digits ∧ d.isDigit := by
  rcases h with rfl | ⟨⟨hne, hall⟩, -⟩
  · exact ⟨'0', [], rfl, rfl⟩
  · obtain ⟨d, digits, rfl⟩ := List.exists_cons_of_ne_nil hne
    exact ⟨d, digits, rfl, hall d List.mem_cons_self⟩

/-- A number is read as it is written, in front of what can stand after a value. -/
lemma readNumber_append {s rest : List Char} (h : IsNumber s) (hrest : StartsIn endings rest) :
    readNumber (s ++ rest) = some (s, rest) := by
  cases h with
  | @parts sign whole fraction exponent hsign hwhole hfraction hexponent =>
    have hread := readUnsigned_append hwhole hfraction hexponent hrest
    simp only [List.mem_cons, List.not_mem_nil, or_false] at hsign
    rcases hsign with rfl | rfl
    · rw [List.nil_append, readNumber, hread]
      rintro more hmore
      obtain ⟨d, digits, rfl, hd⟩ := hwhole.exists_head
      obtain ⟨rfl, -⟩ := List.cons.inj hmore
      cases hd
    · rw [List.cons_append, List.nil_append, List.cons_append, readNumber, hread]
      rfl

lemma IsNumber.exists_head {s : List Char} (h : IsNumber s) :
    ∃ c t, s = c :: t ∧ (c = '-' ∨ c.isDigit) := by
  cases h with
  | @parts sign whole fraction exponent hsign hwhole hfraction hexponent =>
    obtain ⟨d, digits, rfl, hd⟩ := hwhole.exists_head
    simp only [List.mem_cons, List.not_mem_nil, or_false] at hsign
    rcases hsign with rfl | rfl
    · exact ⟨d, _, rfl, .inr hd⟩
    · exact ⟨'-', _, rfl, .inl rfl⟩

end FieldList.Json
