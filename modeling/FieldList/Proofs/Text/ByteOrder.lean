import Mathlib

/-!
# Texts in the order of their bytes

Texts are compared character by character, files and other programs compare the bytes of their
UTF-8 forms. Both come to the same order (`utf8_lt_utf8`).

A character with a greater code point has a greater form: the forms differ at some byte, and there
the greater one is greater (`utf8EncodeChar_append_lt`), so nothing after that byte counts.
-/

namespace FieldList.Text

/-- The bytes of a text in UTF-8. -/
def utf8 (s : String) : List UInt8 := s.toUTF8.data.toList

lemma utf8_ofList (s : List Char) : utf8 (String.ofList s) = s.flatMap String.utf8EncodeChar := by
  rw [utf8, String.toUTF8_eq_toByteArray, String.toByteArray_ofList]
  induction s with
  | nil => rfl
  | cons c rest ih =>
    rw [List.utf8Encode_cons, List.utf8Encode_singleton, ByteArray.data_append, Array.toList_append,
      ih, List.toList_data_toByteArray, List.flatMap_cons]

/-! ## Single bytes -/

lemma ofNat_lt_ofNat {m n : ℕ} (hm : m < 256) (hn : n < 256) :
    UInt8.ofNat m < UInt8.ofNat n ↔ m < n := by
  rw [UInt8.lt_iff_toNat_lt, UInt8.toNat_ofNat', UInt8.toNat_ofNat', Nat.mod_eq_of_lt hm,
    Nat.mod_eq_of_lt hn]

lemma ofNat_eq_ofNat {m n : ℕ} (hm : m < 256) (hn : n < 256) :
    UInt8.ofNat m = UInt8.ofNat n ↔ m = n := by
  rw [← UInt8.toNat_inj, UInt8.toNat_ofNat', UInt8.toNat_ofNat', Nat.mod_eq_of_lt hm,
    Nat.mod_eq_of_lt hn]

/-! ## Characters -/

/-- The form of a greater character is greater, whatever follows the two forms. -/
lemma utf8EncodeChar_append_lt {c d : Char} (h : c < d) (u v : List UInt8) :
    String.utf8EncodeChar c ++ u < String.utf8EncodeChar d ++ v := by
  have hlt : c.toNat < d.toNat := h
  have hd : d.toNat ≤ 0x10FFFF := d.toNat_le_max
  have hsecond : ∀ n : ℕ, n / 4096 = n / 64 / 64 := fun n => by omega
  have hthird : ∀ n : ℕ, n / 262144 = n / 64 / 64 / 64 := fun n => by omega
  unfold String.utf8EncodeChar
  dsimp only
  rw [show c.val.toNat = c.toNat from rfl, show d.val.toNat = d.toNat from rfl]
  simp only [hsecond, hthird]
  generalize c.toNat = m at *
  generalize d.toNat = n at *
  -- One case for each pair of lengths. In each the bytes are digits to the base 64 under a mark for
  -- the length, and `m < n` says which digit is the first to differ.
  split_ifs <;> simp (disch := omega) only [List.cons_append, List.nil_append,
    List.cons_lt_cons_iff, ofNat_lt_ofNat, ofNat_eq_ofNat] <;> omega

/-! ## Texts -/

lemma flatMap_utf8EncodeChar_lt {s t : List Char} (h : s < t) :
    s.flatMap String.utf8EncodeChar < t.flatMap String.utf8EncodeChar := by
  induction t generalizing s with
  | nil => simp at h
  | cons d t ih =>
    cases s with
    | nil =>
      obtain ⟨b, rest, hbytes⟩ := List.exists_cons_of_ne_nil (String.utf8EncodeChar_ne_nil (c := d))
      rw [List.flatMap_nil, List.flatMap_cons, hbytes]
      exact List.nil_lt_cons _ _
    | cons c s =>
      rw [List.flatMap_cons, List.flatMap_cons]
      rcases List.cons_lt_cons_iff.mp h with hchar | ⟨rfl, hrest⟩
      · exact utf8EncodeChar_append_lt hchar _ _
      · exact List.append_left_lt (ih hrest)

lemma utf8_lt_utf8_of_lt {s t : String} (h : s < t) : utf8 s < utf8 t := by
  rw [← String.ofList_toList (s := s), ← String.ofList_toList (s := t), utf8_ofList, utf8_ofList]
  exact flatMap_utf8EncodeChar_lt (String.lt_iff_toList_lt.mp h)

/-- Texts have the order of their bytes. -/
lemma utf8_lt_utf8 {s t : String} : utf8 s < utf8 t ↔ s < t := by
  refine ⟨fun h => ?_, utf8_lt_utf8_of_lt⟩
  rcases lt_trichotomy s t with hlt | rfl | hgt
  · exact hlt
  · exact absurd h (List.lt_irrefl _)
  · exact absurd (List.lt_trans h (utf8_lt_utf8_of_lt hgt)) (List.lt_irrefl _)

end FieldList.Text
