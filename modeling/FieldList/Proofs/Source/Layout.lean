import FieldList.Proofs.Source.Events
import FieldList.Source.Fields

/-!
# Events and the layout of a source

What a source says does not depend on how its lines end and on the blank characters around them.
`eventsOf_eq` replaces the lines of a source by its pieces between line feeds, which are easier to
cut and to join: a carriage return at the end of a piece is blank, and an empty last piece says
nothing.
-/

namespace FieldList.Source

open Text

/-- Everything said between the line feeds of a text, in order. -/
def eventsIn (s : List Char) : List Event := (s.splitOn '\n').flatMap Event.ofLine

/-! ## Lines and pieces -/

lemma isBlank_return : isBlank '\r' := by decide

/-- The lines say what the pieces say. The first line is the first piece up to a carriage return,
so that a character can be put before both. -/
inductive SaysAs : List (List Char) → List (List Char) → Prop where
  | nil : SaysAs [[]] []
  | cons {piece line : List Char} {pieces more : List (List Char)} :
      piece = line ∨ piece = line ++ ['\r'] →
      more.flatMap Event.ofLine = pieces.flatMap Event.ofLine →
      SaysAs (piece :: pieces) (line :: more)

lemma SaysAs.flatMap_eq {pieces ls : List (List Char)} (h : SaysAs pieces ls) :
    ls.flatMap Event.ofLine = pieces.flatMap Event.ofLine := by
  cases h with
  | nil => simp [ofLine_nil]
  | @cons piece line pieces more hpiece hmore =>
    have hline : Event.ofLine line = Event.ofLine piece := by
      rcases hpiece with rfl | rfl
      · rfl
      · exact (ofLine_append_gap line (by simp [AllBlank, isBlank_return])).symm
    rw [List.flatMap_cons, List.flatMap_cons, hline, hmore]

lemma splitOn_saysAs_lines (s : List Char) : SaysAs (s.splitOn '\n') (lines s) := by
  fun_induction lines s with
  | case1 => exact .nil
  | case2 rest ih =>
    rw [List.splitOn_cons_eq_if_modifyHead]
    exact .cons (Or.inl rfl) ih.flatMap_eq
  | case3 rest ih =>
    rw [List.splitOn_cons_eq_if_modifyHead, List.splitOn_cons_eq_if_modifyHead]
    exact .cons (Or.inr rfl) ih.flatMap_eq
  | case4 c rest hnewline hreturn hrest ih =>
    rw [hrest] at ih
    rw [List.splitOn_cons_eq_if_modifyHead, if_neg (by simpa using hnewline)]
    generalize rest.splitOn '\n' = pieces at ih ⊢
    cases ih
    exact .cons (Or.inl rfl) rfl
  | case5 c rest hnewline hreturn line more hrest ih =>
    rw [hrest] at ih
    rw [List.splitOn_cons_eq_if_modifyHead, if_neg (by simpa using hnewline)]
    generalize rest.splitOn '\n' = pieces at ih ⊢
    cases ih with
    | cons hpiece hmore =>
      refine .cons ?_ hmore
      rcases hpiece with rfl | rfl
      · exact Or.inl rfl
      · exact Or.inr rfl

/-- The events of a source are those of its pieces. -/
lemma eventsOf_eq (source : String) : eventsOf source = eventsIn source.toList :=
  (splitOn_saysAs_lines source.toList).flatMap_eq

/-! ## Joining and surrounding -/

lemma eventsIn_append_newline (s t : List Char) :
    eventsIn (s ++ '\n' :: t) = eventsIn s ++ eventsIn t := by
  rw [eventsIn, List.splitOn_append_cons_self, List.flatMap_append, eventsIn, eventsIn]

lemma eventsIn_of_newline_notMem {s : List Char} (hs : '\n' ∉ s) :
    eventsIn s = Event.ofLine s := by
  simp [eventsIn, List.splitOn_eq_singleton hs]

lemma eventsIn_intercalate (parts : List (List Char)) :
    eventsIn (['\n'].intercalate parts) = parts.flatMap eventsIn := by
  induction parts with
  | nil => simpa [ofLine_nil] using eventsIn_of_newline_notMem (s := []) (by simp)
  | cons part parts ih =>
    cases parts with
    | nil => simp
    | cons next parts =>
      rw [List.intercalate_cons_cons, List.append_assoc, List.singleton_append,
        eventsIn_append_newline, ih]
      rfl

/-- A character that adds nothing to any line adds nothing to a text. -/
lemma eventsIn_cons {c : Char} (hc : ∀ line, Event.ofLine (c :: line) = Event.ofLine line)
    (s : List Char) : eventsIn (c :: s) = eventsIn s := by
  rw [eventsIn, eventsIn, List.splitOn_cons_eq_if_modifyHead]
  split
  · simp [ofLine_nil]
  · obtain ⟨piece, pieces, hpieces⟩ := List.exists_cons_of_ne_nil (List.splitOn_ne_nil '\n' s)
    rw [hpieces, List.modifyHead_cons, List.flatMap_cons, List.flatMap_cons, hc]

lemma eventsIn_gap_append {gap : List Char} (hgap : AllBlank gap) (s : List Char) :
    eventsIn (gap ++ s) = eventsIn s := by
  induction gap with
  | nil => rfl
  | cons c gap ih =>
    have hc : AllBlank [c] := by simpa [AllBlank] using hgap c List.mem_cons_self
    rw [List.cons_append, eventsIn_cons (ofLine_gap_append hc),
      ih fun d hd => hgap d (List.mem_cons_of_mem c hd)]

lemma eventsIn_of_allBlank {gap : List Char} (hgap : AllBlank gap) : eventsIn gap = [] := by
  have hnil : eventsIn [] = [] := by simp [eventsIn, ofLine_nil]
  simpa [hnil] using eventsIn_gap_append hgap []

/-- A line says what it says with any blank characters around it, line feeds included. -/
lemma eventsIn_surrounded {line : List Char} (hline : '\n' ∉ line) {gap gap' : List Char}
    (hgap : AllBlank gap) (hgap' : AllBlank gap') :
    eventsIn (gap ++ line ++ gap') = Event.ofLine line := by
  rw [List.append_assoc, eventsIn_gap_append hgap]
  by_cases hnewline : '\n' ∈ gap'
  · obtain ⟨left, right, rfl, hleft⟩ := List.eq_append_cons_of_mem hnewline
    have hblank : AllBlank left ∧ AllBlank right :=
      ⟨fun c hc => hgap' c (by simp [hc]), fun c hc => hgap' c (by simp [hc])⟩
    rw [← List.append_assoc, eventsIn_append_newline, eventsIn_of_allBlank hblank.2,
      eventsIn_of_newline_notMem (by simp [hline, hleft]), ofLine_append_gap line hblank.1,
      List.append_nil]
  · rw [eventsIn_of_newline_notMem (by simp [hline, hnewline]), ofLine_append_gap line hgap']

end FieldList.Source
