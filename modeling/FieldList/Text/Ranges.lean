/-!
# Ranges of code points

A character class is given by a table of closed intervals of code points in increasing order.
`CodeRanges.contains` looks a code point up in such a table; `CodeRanges.Ordered` says that a
table is one, and then the lookup answers exactly for the members of its intervals.
-/

namespace FieldList.Text

/-- Closed intervals of code points, each given by its two ends. -/
abbrev CodeRanges := List (Nat × Nat)

namespace CodeRanges

/-- Whether a code point lies in one of the intervals. The search ends at the first interval that
starts above the code point. -/
def contains : CodeRanges → Nat → Bool
  | [], _ => false
  | (lo, hi) :: rest, n => if n < lo then false else if n ≤ hi then true else contains rest n

/-- Each interval is nonempty, starts after `low`, and ends before the next one starts. -/
def Ordered : CodeRanges → Nat → Prop
  | [], _ => True
  | (lo, hi) :: rest, low => low ≤ lo ∧ lo ≤ hi ∧ Ordered rest (hi + 1)

instance : (ranges : CodeRanges) → (low : Nat) → Decidable (Ordered ranges low)
  | [], _ => inferInstanceAs (Decidable True)
  | (lo, hi) :: rest, low =>
    haveI := instDecidableOrdered rest (hi + 1)
    inferInstanceAs (Decidable (low ≤ lo ∧ lo ≤ hi ∧ Ordered rest (hi + 1)))

theorem le_of_mem_of_ordered {ranges : CodeRanges} {low : Nat} (h : Ordered ranges low)
    {r : Nat × Nat} (hr : r ∈ ranges) : low ≤ r.1 := by
  induction ranges generalizing low with
  | nil => cases hr
  | cons head rest ih =>
    obtain ⟨hlow, hle, hrest⟩ := h
    rcases List.mem_cons.mp hr with rfl | hr
    · exact hlow
    · have := ih hrest hr
      omega

/-- In an ordered table the early end of the search loses nothing. -/
theorem contains_iff {ranges : CodeRanges} {low : Nat} (h : Ordered ranges low) (n : Nat) :
    contains ranges n = true ↔ ∃ r ∈ ranges, r.1 ≤ n ∧ n ≤ r.2 := by
  induction ranges generalizing low with
  | nil => simp [contains]
  | cons head rest ih =>
    obtain ⟨lo, hi⟩ := head
    obtain ⟨hlow, hle, hrest⟩ := h
    rw [contains]
    split
    · next hn =>
      constructor
      · simp
      · rintro ⟨r, hr, h1, h2⟩
        rcases List.mem_cons.mp hr with rfl | hr
        · omega
        · have := le_of_mem_of_ordered hrest hr
          omega
    · split
      · next h1 h2 =>
        exact ⟨fun _ => ⟨(lo, hi), List.mem_cons_self, by omega, h2⟩, fun _ => rfl⟩
      · next h1 h2 =>
        rw [ih hrest]
        constructor
        · rintro ⟨r, hr, h⟩
          exact ⟨r, List.mem_cons_of_mem _ hr, h⟩
        · rintro ⟨r, hr, h3, h4⟩
          rcases List.mem_cons.mp hr with rfl | hr
          · omega
          · exact ⟨r, hr, h3, h4⟩

end CodeRanges

end FieldList.Text
