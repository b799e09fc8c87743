import FieldList.Text.Blank
import FieldList.Text.Word

/-!
# Reading and searching text

Readers take the text from some place on and give what they found and what follows it, or nothing.
`leftmost` tries a reader at every place of a text from left to right, and takes the first result.
-/

namespace FieldList.Text

/-- What follows `literal`, when the text starts with it. -/
def afterLiteral : List Char → List Char → Option (List Char)
  | [], s => some s
  | _ :: _, [] => none
  | a :: literal, b :: s => if a = b then afterLiteral literal s else none

/-- What follows the given tokens, when the text starts with them in this order. Blank characters
may stand between two tokens, but not before the first. -/
def afterTokens : List String → List Char → Option (List Char)
  | [], s => some s
  | [token], s => afterLiteral token.toList s
  | token :: tokens, s => do afterTokens tokens (skipBlanks (← afterLiteral token.toList s))

/-- What follows the blank characters at the start of the text, of which there is at least one. -/
def afterBlanks : List Char → Option (List Char)
  | [] => none
  | c :: rest => if isBlank c then some (skipBlanks rest) else none

/-- The word characters at the start of the text, of which there is at least one, and what follows
them. -/
def wordRun (s : List Char) : Option (List Char × List Char) :=
  match s.takeWhile isWord with
  | [] => none
  | word => some (word, s.dropWhile isWord)

/-- The result of `read` at the leftmost place of the text at which it has one. The reader is also
given the character before its place, which is `before` at the start of the text. -/
def leftmost {α : Type} (read : Option Char → List Char → Option α) (before : Option Char) :
    List Char → Option α
  | [] => read before []
  | c :: rest =>
    match read before (c :: rest) with
    | some found => some found
    | none => leftmost read (some c) rest

theorem afterLiteral_eq_some_iff {literal s rest : List Char} :
    afterLiteral literal s = some rest ↔ s = literal ++ rest := by
  fun_induction afterLiteral literal s with
  | case1 s => simp [eq_comm]
  | case2 => simp
  | case3 a literal s ih => simp [ih]
  | case4 a literal b s h => simp [Ne.symm h]

/-- Nothing is found when no place has a result. -/
theorem leftmost_eq_none_iff {α : Type} {read : Option Char → List Char → Option α}
    {before : Option Char} {s : List Char} :
    leftmost read before s = none ↔
      ∀ pre post, s = pre ++ post → read (pre.getLast?.or before) post = none := by
  induction s generalizing before with
  | nil =>
    constructor
    · intro h pre post hs
      obtain ⟨rfl, rfl⟩ := List.append_eq_nil_iff.mp hs.symm
      simpa [leftmost] using h
    · intro h
      simpa [leftmost] using h [] [] rfl
  | cons c rest ih =>
    rw [leftmost]
    split
    · next found hfound =>
      constructor
      · intro h
        simp at h
      · intro h
        have := h [] (c :: rest) rfl
        simp [hfound] at this
    · next hnone =>
      rw [ih]
      constructor
      · intro h pre post hs
        cases pre with
        | nil =>
          obtain rfl : c :: rest = post := by simpa using hs
          simpa using hnone
        | cons d pre =>
          obtain ⟨rfl, hrest⟩ : c = d ∧ rest = pre ++ post := by simpa using hs
          have := h pre post hrest
          cases hlast : pre.getLast? <;> simp_all [List.getLast?_cons]
      · intro h pre post hs
        have := h (c :: pre) post (by simp [hs])
        cases hlast : pre.getLast? <;> simp_all [List.getLast?_cons]

/-- What is found is the result at a place that has one, while no place before it has. -/
theorem leftmost_eq_some_iff {α : Type} {read : Option Char → List Char → Option α}
    {before : Option Char} {s : List Char} {a : α} :
    leftmost read before s = some a ↔
      ∃ pre post, s = pre ++ post ∧ read (pre.getLast?.or before) post = some a ∧
        ∀ pre' post', s = pre' ++ post' → pre'.length < pre.length →
          read (pre'.getLast?.or before) post' = none := by
  induction s generalizing before with
  | nil =>
    constructor
    · intro h
      exact ⟨[], [], rfl, by simpa [leftmost] using h, by simp⟩
    · rintro ⟨pre, post, hs, hread, -⟩
      obtain ⟨rfl, rfl⟩ := List.append_eq_nil_iff.mp hs.symm
      simpa [leftmost] using hread
  | cons c rest ih =>
    rw [leftmost]
    split
    · next found hfound =>
      constructor
      · intro h
        exact ⟨[], c :: rest, rfl, by simpa [hfound] using h, by simp⟩
      · rintro ⟨pre, post, hs, hread, hfirst⟩
        cases pre with
        | nil =>
          obtain rfl : c :: rest = post := by simpa using hs
          simpa [hfound] using hread
        | cons d pre =>
          have := hfirst [] (c :: rest) rfl (by simp)
          simp [hfound] at this
    · next hnone =>
      rw [ih]
      have hlast : ∀ pre : List Char, pre.getLast?.or (some c) = (c :: pre).getLast?.or before := by
        intro pre
        cases h : pre.getLast? <;> simp [List.getLast?_cons, h]
      constructor
      · rintro ⟨pre, post, hs, hread, hfirst⟩
        refine ⟨c :: pre, post, by simp [hs], by rw [← hlast]; exact hread, ?_⟩
        intro pre' post' hs' hlen
        cases pre' with
        | nil =>
          obtain rfl : c :: rest = post' := by simpa using hs'
          simpa using hnone
        | cons d pre' =>
          obtain ⟨rfl, hrest⟩ : c = d ∧ rest = pre' ++ post' := by simpa using hs'
          rw [← hlast]
          exact hfirst pre' post' hrest (by simpa using hlen)
      · rintro ⟨pre, post, hs, hread, hfirst⟩
        cases pre with
        | nil =>
          obtain rfl : c :: rest = post := by simpa using hs
          simp [hnone] at hread
        | cons d pre =>
          obtain ⟨rfl, hrest⟩ : c = d ∧ rest = pre ++ post := by simpa using hs
          refine ⟨pre, post, hrest, by rw [hlast]; exact hread, ?_⟩
          intro pre' post' hs' hlen
          rw [hlast]
          exact hfirst (c :: pre') post' (by simp [hs']) (by simpa using hlen)

end FieldList.Text
