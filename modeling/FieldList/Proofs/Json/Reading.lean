import FieldList.Proofs.Json.Leaves

/-!
# Reading JSON texts

The reader takes every text of the grammar, and for the value that it stands for
(`read_of_isText`).

It goes from left to right and never back, so each part is read in front of whatever follows it. The
induction is on the value, with its items and members (`readValue_append`). The steps of the reader
are counted by the length of the text: a value is read in twice as many steps, and a list of items
or members in one more.
-/

namespace FieldList.Json

open Text

/-! ## Gaps -/

lemma isSpace_iff {c : Char} : isSpace c = true ↔ c ∈ [' ', '\t', '\n', '\r'] := by
  simp [isSpace, or_assoc]

lemma skipSpaces_append {gap : List Char} (h : IsGap gap) (s : List Char) :
    skipSpaces (gap ++ s) = skipSpaces s :=
  List.dropWhile_append_of_pos fun c hc => isSpace_iff.mpr (h c hc)

lemma skipSpaces_gap {gap : List Char} (h : IsGap gap) : skipSpaces gap = [] := by
  simpa [skipSpaces] using skipSpaces_append h []

lemma skipSpaces_cons {c : Char} (h : isSpace c = false) (s : List Char) :
    skipSpaces (c :: s) = c :: s := by
  simp [skipSpaces, h]

lemma skipSpaces_skipSpaces (s : List Char) : skipSpaces (skipSpaces s) = skipSpaces s :=
  List.dropWhile_idempotent isSpace s

lemma startsIn_gap {gap : List Char} (h : IsGap gap) {s : List Char} (hs : StartsIn endings s) :
    StartsIn endings (gap ++ s) := by
  cases gap with
  | nil => exact hs
  | cons c gap =>
    have hc : c ∈ [' ', '\t', '\n', '\r'] := h c List.mem_cons_self
    have hsub : [' ', '\t', '\n', '\r'] ⊆ endings := by simp [endings]
    simpa [StartsIn] using hsub hc

lemma isSpace_eq_false_of_number {c : Char} (h : c = '-' ∨ c.isDigit) : isSpace c = false := by
  by_contra hspace
  have hmem : c ∈ [' ', '\t', '\n', '\r'] := isSpace_iff.mp (by simpa using hspace)
  simp only [List.mem_cons, List.not_mem_nil, or_false] at hmem
  rcases hmem with rfl | rfl | rfl | rfl <;> simp at h

/-! ## Values -/

lemma afterLiteral_append (literal rest : List Char) :
    afterLiteral literal (literal ++ rest) = some rest := afterLiteral_eq_some_iff.mpr rfl

/-- Values start with a mark that is no space and closes no array. -/
lemma Denotes.exists_head {v : Value} {s : List Char} (h : Denotes v s) :
    ∃ c t, s = c :: t ∧ isSpace c = false ∧ c ≠ ']' := by
  cases h with
  | null => exact ⟨'n', _, rfl, by decide, by decide⟩
  | boolean b =>
    cases b with
    | false => exact ⟨'f', _, rfl, by decide, by decide⟩
    | true => exact ⟨'t', _, rfl, by decide, by decide⟩
  | number hnumber =>
    obtain ⟨c, t, rfl, hc⟩ := hnumber.exists_head
    refine ⟨c, t, rfl, isSpace_eq_false_of_number hc, ?_⟩
    rintro rfl
    simp at hc
  | string hquotes =>
    cases hquotes
    exact ⟨'"', _, rfl, by decide, by decide⟩
  | emptyArray => exact ⟨'[', _, rfl, by decide, by decide⟩
  | array => exact ⟨'[', _, rfl, by decide, by decide⟩
  | emptyObject => exact ⟨'\x7b', _, rfl, by decide, by decide⟩
  | object => exact ⟨'\x7b', _, rfl, by decide, by decide⟩

lemma readValue_gap {gap : List Char} (h : IsGap gap) (steps : ℕ) (s : List Char) :
    readValue steps (gap ++ s) = readValue steps s := by
  cases steps with
  | zero => rfl
  | succ n => rw [readValue, readValue, skipSpaces_append h]

lemma readItems_skipSpaces (steps : ℕ) (s : List Char) :
    readItems steps (skipSpaces s) = readItems steps s := by
  have hvalue : ∀ n, readValue n (skipSpaces s) = readValue n s := by
    intro n
    cases n with
    | zero => rfl
    | succ n => rw [readValue, readValue, skipSpaces_skipSpaces]
  cases steps with
  | zero => rfl
  | succ n => rw [readItems, readItems, hvalue]

lemma readMembers_skipSpaces (steps : ℕ) (s : List Char) :
    readMembers steps (skipSpaces s) = readMembers steps s := by
  cases steps with
  | zero => rfl
  | succ n => rw [readMembers, readMembers, skipSpaces_skipSpaces]

/-- What starts with a sign or a digit is read as a number. -/
lemma readValue_number {c : Char} {t : List Char} (hc : c = '-' ∨ c.isDigit) (n : ℕ) :
    readValue (n + 1) (c :: t) =
      (readNumber (c :: t)).map fun (digits, rest) => (.number (String.ofList digits), rest) := by
  rw [readValue, skipSpaces_cons (isSpace_eq_false_of_number hc)]
  split
  all_goals
    first
    | rfl
    | next h =>
      obtain ⟨rfl, -⟩ := List.cons.inj h
      simp at hc

lemma readValue_array {rest : List Char} (h : (skipSpaces rest).head? ≠ some ']') (n : ℕ) :
    readValue (n + 1) ('[' :: rest) =
      (readItems n rest).map fun (vs, rest) => (.array vs, rest) := by
  rw [readValue, skipSpaces_cons (by decide), ← readItems_skipSpaces]
  simp only
  split
  · next hskip =>
    rw [hskip] at h
    exact absurd rfl h
  · rfl

lemma readValue_object {rest : List Char} (h : (skipSpaces rest).head? ≠ some '\x7d') (n : ℕ) :
    readValue (n + 1) ('\x7b' :: rest) =
      (readMembers n rest).map fun (members, rest) => (.object members, rest) := by
  rw [readValue, skipSpaces_cons (by decide), ← readMembers_skipSpaces]
  simp only
  split
  · next hskip =>
    rw [hskip] at h
    exact absurd rfl h
  · rfl

lemma DenoteItems.head?_skipSpaces {vs : List Value} {s : List Char} (h : DenoteItems vs s)
    (rest : List Char) : (skipSpaces (s ++ rest)).head? ≠ some ']' := by
  obtain ⟨before, v, t, more, hbefore, ht, rfl⟩ : ∃ before v t more, IsGap before ∧ Denotes v t ∧
      s = before ++ (t ++ more) := by
    cases h with
    | @last v before t after hbefore ht hafter =>
      exact ⟨before, v, t, after, hbefore, ht, List.append_assoc _ _ _⟩
    | @more v _ before t after more hbefore ht hafter hmore =>
      exact ⟨before, v, t, after ++ ',' :: more, hbefore, ht, by simp⟩
  obtain ⟨c, t, rfl, hspace, hc⟩ := ht.exists_head
  rw [List.append_assoc, skipSpaces_append hbefore, List.cons_append, List.cons_append,
    skipSpaces_cons hspace]
  simpa using hc

lemma DenoteMembers.head?_skipSpaces {members : List (Option String × Value)} {s : List Char}
    (h : DenoteMembers members s) (rest : List Char) :
    (skipSpaces (s ++ rest)).head? ≠ some '\x7d' := by
  obtain ⟨m, t, more, hmember, rfl⟩ : ∃ m t more, DenoteMember m t ∧ s = t ++ more := by
    cases h with
    | last hmember => exact ⟨_, _, [], hmember, by simp⟩
    | more hmember => exact ⟨_, _, _, hmember, rfl⟩
  cases hmember with
  | member hbefore hk =>
    cases hk
    simp [List.append_assoc, skipSpaces_append hbefore, skipSpaces_cons (c := '"') (by decide)]

section

variable {before s after rest : List Char} {v : Value} {n : ℕ} (hbefore : IsGap before)
  (hafter : IsGap after)

include hbefore hafter

/-- The items end with one that a bracket follows. -/
lemma readItems_last
    (hread : readValue n (s ++ (after ++ ']' :: rest)) = some (v, after ++ ']' :: rest)) :
    readItems (n + 1) (before ++ s ++ after ++ ']' :: rest) = some ([v], rest) := by
  simp only [List.append_assoc, readItems, readValue_gap hbefore, hread, Option.bind_eq_bind,
    Option.bind_some, skipSpaces_append hafter,
    skipSpaces_cons (show isSpace ']' = false by decide)]

/-- After an item that a comma follows there are more. -/
lemma readItems_more
    (hread : readValue n (s ++ (after ++ ',' :: rest)) = some (v, after ++ ',' :: rest)) :
    readItems (n + 1) (before ++ s ++ after ++ ',' :: rest) =
      (readItems n rest).map fun (vs, rest) => (v :: vs, rest) := by
  simp only [List.append_assoc, readItems, readValue_gap hbefore, hread, Option.bind_eq_bind,
    Option.bind_some, skipSpaces_append hafter,
    skipSpaces_cons (show isSpace ',' = false by decide)]
  cases readItems n rest <;> rfl

end

/-- The key of a member is read up to its colon, whatever follows. -/
lemma exists_readString_key {key : String} {before k between : List Char} (hbefore : IsGap before)
    (hk : Quotes key k) (hbetween : IsGap between) (tail : List Char) :
    ∃ inner, afterLiteral ['"'] (skipSpaces (before ++ (k ++ (between ++ ':' :: tail)))) =
        some inner ∧ readString inner = some (some key, between ++ ':' :: tail) ∧
      afterLiteral [':'] (skipSpaces (between ++ ':' :: tail)) = some tail := by
  obtain ⟨inner, rfl, hstring⟩ := readString_append hk (between ++ ':' :: tail)
  refine ⟨_, ?_, hstring, ?_⟩
  · rw [skipSpaces_append hbefore, List.cons_append, skipSpaces_cons (by decide)]
    exact afterLiteral_append ['"'] _
  · rw [skipSpaces_append hbetween, skipSpaces_cons (by decide)]
    exact afterLiteral_append [':'] _

section

variable {key : String} {before k between between' s after rest : List Char} {v : Value} {n : ℕ}
  (hbefore : IsGap before) (hk : Quotes key k) (hbetween : IsGap between)
  (hbetween' : IsGap between') (hafter : IsGap after)

include hbefore hk hbetween hbetween' hafter

/-- The members end with one that a brace follows. -/
lemma readMembers_last
    (hread : readValue n (s ++ (after ++ '\x7d' :: rest)) = some (v, after ++ '\x7d' :: rest)) :
    readMembers (n + 1)
        (before ++ k ++ between ++ ':' :: between' ++ s ++ after ++ '\x7d' :: rest) =
      some ([(some key, v)], rest) := by
  obtain ⟨inner, hquote, hstring, hcolon⟩ := exists_readString_key hbefore hk hbetween
    (between' ++ (s ++ (after ++ '\x7d' :: rest)))
  simp only [List.append_assoc, List.cons_append, readMembers, hquote, hstring, hcolon,
    readValue_gap hbetween', hread, Option.bind_eq_bind, Option.bind_some,
    skipSpaces_append hafter, skipSpaces_cons (show isSpace '\x7d' = false by decide)]

/-- After a member that a comma follows there are more. -/
lemma readMembers_more
    (hread : readValue n (s ++ (after ++ ',' :: rest)) = some (v, after ++ ',' :: rest)) :
    readMembers (n + 1) (before ++ k ++ between ++ ':' :: between' ++ s ++ after ++ ',' :: rest) =
      (readMembers n rest).map fun (members, rest) => ((some key, v) :: members, rest) := by
  obtain ⟨inner, hquote, hstring, hcolon⟩ := exists_readString_key hbefore hk hbetween
    (between' ++ (s ++ (after ++ ',' :: rest)))
  simp only [List.append_assoc, List.cons_append, readMembers, hquote, hstring, hcolon,
    readValue_gap hbetween', hread, Option.bind_eq_bind, Option.bind_some,
    skipSpaces_append hafter, skipSpaces_cons (show isSpace ',' = false by decide)]
  cases readMembers n rest <;> rfl

end

lemma Denotes.exists_steps {v : Value} {s : List Char} {steps : ℕ} (h : Denotes v s)
    (hsteps : 2 * s.length ≤ steps) : ∃ n, steps = n + 1 := by
  obtain ⟨c, t, rfl, -⟩ := h.exists_head
  rw [List.length_cons] at hsteps
  exact ⟨steps - 1, by omega⟩

mutual

/-- A value is read as itself in front of what can stand after it. -/
theorem readValue_append : ∀ (v : Value) {s rest : List Char} {steps : ℕ}, Denotes v s →
    StartsIn endings rest → 2 * s.length ≤ steps → readValue steps (s ++ rest) = some (v, rest)
  | .null, _, rest, steps, h, _, hsteps => by
    obtain ⟨n, rfl⟩ := h.exists_steps hsteps
    cases h
    change readValue (n + 1) ('n' :: ("ull".toList ++ rest)) = _
    rw [readValue, skipSpaces_cons (by decide)]
    simp only [afterLiteral_append, Option.map_some]
  | .boolean b, _, rest, steps, h, _, hsteps => by
    obtain ⟨n, rfl⟩ := h.exists_steps hsteps
    cases h
    cases b with
    | false =>
      change readValue (n + 1) ('f' :: ("alse".toList ++ rest)) = _
      rw [readValue, skipSpaces_cons (by decide)]
      simp only [afterLiteral_append, Option.map_some]
    | true =>
      change readValue (n + 1) ('t' :: ("rue".toList ++ rest)) = _
      rw [readValue, skipSpaces_cons (by decide)]
      simp only [afterLiteral_append, Option.map_some]
  | .number _, _, rest, steps, h, hrest, hsteps => by
    obtain ⟨n, rfl⟩ := h.exists_steps hsteps
    cases h with
    | number hnumber =>
      have hread := readNumber_append hnumber hrest
      obtain ⟨c, t, rfl, hc⟩ := hnumber.exists_head
      rw [List.cons_append, readValue_number hc, ← List.cons_append, hread]
      rfl
  | .string _, _, rest, steps, h, _, hsteps => by
    obtain ⟨n, rfl⟩ := h.exists_steps hsteps
    cases h with
    | string hquotes =>
      obtain ⟨inner, rfl, hread⟩ := readString_append hquotes rest
      rw [List.cons_append, readValue, skipSpaces_cons (by decide)]
      simp only [hread, Option.map_some]
  | .array vs, _, rest, steps, h, _, hsteps => by
    obtain ⟨n, rfl⟩ := h.exists_steps hsteps
    cases h with
    | @emptyArray gap hgap =>
      have hskip : skipSpaces (gap ++ ']' :: rest) = ']' :: rest := by
        rw [skipSpaces_append hgap, skipSpaces_cons (by decide)]
      rw [List.append_assoc, List.cons_append, List.singleton_append, readValue,
        skipSpaces_cons (by decide)]
      simp only [hskip]
    | @array _ s hitems =>
      have hn : 2 * s.length + 1 ≤ n := by simp at hsteps; omega
      rw [List.append_assoc, List.cons_append, List.singleton_append,
        readValue_array (hitems.head?_skipSpaces _), readItems_append vs hitems hn]
      rfl
  | .object members, _, rest, steps, h, _, hsteps => by
    obtain ⟨n, rfl⟩ := h.exists_steps hsteps
    cases h with
    | @emptyObject gap hgap =>
      have hskip : skipSpaces (gap ++ '\x7d' :: rest) = '\x7d' :: rest := by
        rw [skipSpaces_append hgap, skipSpaces_cons (by decide)]
      rw [List.append_assoc, List.cons_append, List.singleton_append, readValue,
        skipSpaces_cons (by decide)]
      simp only [hskip]
    | @object _ s hmembers =>
      have hn : 2 * s.length + 1 ≤ n := by simp at hsteps; omega
      rw [List.append_assoc, List.cons_append, List.singleton_append,
        readValue_object (hmembers.head?_skipSpaces _), readMembers_append members hmembers hn]
      rfl

theorem readItems_append : ∀ (vs : List Value) {s rest : List Char} {steps : ℕ},
    DenoteItems vs s → 2 * s.length + 1 ≤ steps →
      readItems steps (s ++ ']' :: rest) = some (vs, rest)
  | [], _, _, _, h, _ => by cases h
  | v :: vs, _, rest, steps, h, hsteps => by
    obtain ⟨n, rfl⟩ : ∃ n, steps = n + 1 := ⟨steps - 1, by omega⟩
    cases h with
    | @last _ before s after hbefore hs hafter =>
      have hend : StartsIn endings (after ++ ']' :: rest) :=
        startsIn_gap hafter (by simp [StartsIn, endings])
      have hn : 2 * s.length ≤ n := by simp at hsteps; omega
      exact readItems_last hbefore hafter (readValue_append v hs hend hn)
    | @more _ _ before s after more hbefore hs hafter hmore =>
      have hend : StartsIn endings (after ++ ',' :: (more ++ ']' :: rest)) :=
        startsIn_gap hafter (by simp [StartsIn, endings])
      have hn : 2 * s.length ≤ n ∧ 2 * more.length + 1 ≤ n := by
        simp at hsteps
        omega
      rw [List.append_assoc, List.cons_append,
        readItems_more hbefore hafter (readValue_append v hs hend hn.1),
        readItems_append vs hmore hn.2]
      rfl

theorem readMembers_append : ∀ (members : List (Option String × Value)) {s rest : List Char}
    {steps : ℕ}, DenoteMembers members s → 2 * s.length + 1 ≤ steps →
      readMembers steps (s ++ '\x7d' :: rest) = some (members, rest)
  | [], _, _, _, h, _ => by cases h
  | (_, v) :: members, _, rest, steps, h, hsteps => by
    obtain ⟨n, rfl⟩ : ∃ n, steps = n + 1 := ⟨steps - 1, by omega⟩
    cases h with
    | last hmember =>
      cases hmember with
      | @member _ _ before k between between' s after hbefore hk hbetween hbetween' hs hafter =>
        have hend : StartsIn endings (after ++ '\x7d' :: rest) :=
          startsIn_gap hafter (by simp [StartsIn, endings])
        have hn : 2 * s.length ≤ n := by simp at hsteps; omega
        exact readMembers_last hbefore hk hbetween hbetween' hafter
          (readValue_append v hs hend hn)
    | @more _ _ _ more hmember hmore =>
      cases hmember with
      | @member _ _ before k between between' s after hbefore hk hbetween hbetween' hs hafter =>
        have hend : StartsIn endings (after ++ ',' :: (more ++ '\x7d' :: rest)) :=
          startsIn_gap hafter (by simp [StartsIn, endings])
        have hn : 2 * s.length ≤ n ∧ 2 * more.length + 1 ≤ n := by
          simp at hsteps
          omega
        rw [List.append_assoc, List.cons_append, readMembers_more hbefore hk hbetween hbetween'
          hafter (readValue_append v hs hend hn.1), readMembers_append members hmore hn.2]
        rfl

end

/-- Every text that stands for a value is read as it. -/
theorem read_of_isText {v : Value} {text : String} (h : IsText v text) : read text = some v := by
  obtain ⟨before, s, after, hbefore, hs, hafter, htext⟩ := h
  have hend : StartsIn endings after := by simpa using startsIn_gap hafter (s := []) nofun
  have hsteps : 2 * s.length ≤ 2 * (before ++ (s ++ after)).length + 2 := by
    simp only [List.length_append]
    omega
  rw [read, htext, List.append_assoc, readValue_gap hbefore, readValue_append v hs hend hsteps]
  simp [skipSpaces_gap hafter]

end FieldList.Json
