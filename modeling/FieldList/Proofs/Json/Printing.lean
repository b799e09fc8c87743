import FieldList.Json.Printer
import FieldList.Proofs.Json.Grammar

/-!
# Printing JSON texts

What is printed is of the grammar: strings whatever their text (`quotes_writeText`), and arrays and
objects of printed values, in every layout that puts only blanks between their parts
(`Layout.IsBlank`). Of the characters below the space only line feeds are printed as they are, and
none inside a string.
-/

namespace FieldList.Json

/-! ## Strings -/

lemma exists_isHexDigit {n : ℕ} (h : n < 16) : IsHexDigit (Nat.digitChar n) n := by
  have hall : ∀ n < 16, "0123456789abcdef".toList[n]? = some (Nat.digitChar n) := by decide +kernel
  exact .inl (hall n h)

/-- A control character is spelled with its code, as four digits of which the first two are zero. -/
lemma spelling_control {c : Char} (h : c.toNat < 0x20) : Spelling c
    ['\\', 'u', '0', '0', Nat.digitChar (c.toNat / 16), Nat.digitChar (c.toNat % 16)] := by
  have hzero : IsHexDigit '0' 0 := .inl rfl
  have hnumber := IsHexNumber.digits hzero hzero (exists_isHexDigit (n := c.toNat / 16) (by omega))
    (exists_isHexDigit (n := c.toNat % 16) (by omega))
  have hcode : 0x1000 * 0 + 0x100 * 0 + 0x10 * (c.toNat / 16) + c.toNat % 16 = c.toNat := by omega
  rw [hcode] at hnumber
  exact .unit hnumber

lemma spelling_escapeChar (c : Char) : Spelling c (escapeChar c) := by
  unfold escapeChar
  split
  case h_8 hquote hbackslash _ _ _ _ _ =>
    split
    · next hcontrol => exact spelling_control hcontrol
    · next hplain => exact .itself hquote hbackslash (by omega)
  all_goals exact .escape (by simp [escapes])

lemma quotes_writeText (s : String) : Quotes s (writeText s) := by
  have hspells : ∀ text : List Char, Spells text (text.flatMap escapeChar) := by
    intro text
    induction text with
    | nil => exact .nil
    | cons c text ih => exact .cons (spelling_escapeChar c) ih
  have hquoted := Quotes.quoted (hspells s.toList)
  rwa [String.ofList_toList] at hquoted

lemma IsHexDigit.le_toNat {c : Char} {n : ℕ} (h : IsHexDigit c n) : 0x20 ≤ c.toNat := by
  have hall : ("0123456789abcdef".toList ++ "0123456789ABCDEF".toList).all
      (fun c => 0x20 ≤ c.toNat) = true := by decide +kernel
  have hmem : c ∈ "0123456789abcdef".toList ++ "0123456789ABCDEF".toList := by
    rcases h with h | h
    · exact List.mem_append_left _ (List.mem_of_getElem? h)
    · exact List.mem_append_right _ (List.mem_of_getElem? h)
  exact of_decide_eq_true (List.all_eq_true.mp hall c hmem)

lemma IsHexNumber.le_toNat {digits : List Char} {n : ℕ} (h : IsHexNumber digits n) :
    ∀ c ∈ '\\' :: 'u' :: digits, 0x20 ≤ c.toNat := by
  cases h with
  | digits ha hb hc hd => simp [ha.le_toNat, hb.le_toNat, hc.le_toNat, hd.le_toNat]

/-- No spelling has a control character as it is. -/
lemma Spelling.le_toNat {c : Char} {w : List Char} (h : Spelling c w) :
    ∀ d ∈ w, 0x20 ≤ d.toNat := by
  cases h with
  | itself _ _ hplain => simpa using hplain
  | @escape letter c hmem =>
    have hall : ∀ e ∈ escapes, 0x20 ≤ e.1.toNat := by decide
    simp [hall (letter, c) hmem]
  | unit hnumber => exact hnumber.le_toNat
  | surrogates hhigh hlow _ _ _ =>
    intro d hd
    rcases List.mem_append.mp hd with hd | hd
    · exact hhigh.le_toNat d hd
    · exact hlow.le_toNat d hd

lemma Quotes.le_toNat {text : String} {s : List Char} (h : Quotes text s) :
    ∀ c ∈ s, 0x20 ≤ c.toNat := by
  cases h with
  | @quoted text s hspells =>
    have hinner : ∀ c ∈ s, 0x20 ≤ c.toNat := by
      induction hspells with
      | nil => simp
      | cons hc _ ih =>
        intro d hd
        rcases List.mem_append.mp hd with hd | hd
        · exact hc.le_toNat d hd
        · exact ih d hd
    simpa [or_imp, forall_and] using hinner

/-! ## Values -/

/-- No character stands below the space but line feeds. -/
def Lined (s : List Char) : Prop := ∀ c ∈ s, c.toNat < 0x20 → c = '\n'

lemma lined_nil : Lined [] := nofun

lemma lined_cons {c : Char} {s : List Char} :
    Lined (c :: s) ↔ (c.toNat < 0x20 → c = '\n') ∧ Lined s := List.forall_mem_cons

lemma lined_append {s t : List Char} : Lined (s ++ t) ↔ Lined s ∧ Lined t :=
  List.forall_mem_append

lemma lined_of_blank {s : List Char} (h : ∀ c ∈ s, c ∈ [' ', '\n']) : Lined s := by
  intro c hc hlt
  have hc := h c hc
  simp only [List.mem_cons, List.not_mem_nil, or_false] at hc
  rcases hc with rfl | rfl
  · exact absurd hlt (by decide)
  · rfl

lemma isGap_nil : IsGap [] := nofun

lemma isGap_of_blank {s : List Char} (h : ∀ c ∈ s, c ∈ [' ', '\n']) : IsGap s := by
  have hsub : [' ', '\n'] ⊆ [' ', '\t', '\n', '\r'] := by simp
  exact fun c hc => hsub (h c hc)

/-- The layout puts only spaces and line feeds between the parts of a value. -/
structure Layout.IsBlank (layout : Layout) : Prop where
  lineBreak : ∀ level, ∀ c ∈ layout.lineBreak level, c ∈ [' ', '\n']
  afterKey : ∃ gap, layout.afterKey = ':' :: gap ∧ ∀ c ∈ gap, c ∈ [' ', '\n']

lemma Layout.IsBlank.isGap {layout : Layout} (h : layout.IsBlank) (level : ℕ) :
    IsGap (layout.lineBreak level) := isGap_of_blank (h.lineBreak level)

lemma Layout.IsBlank.lined {layout : Layout} (h : layout.IsBlank) (level : ℕ) :
    Lined (layout.lineBreak level) := lined_of_blank (h.lineBreak level)

lemma Layout.isBlank_compact : Layout.compact.IsBlank where
  lineBreak _ := nofun
  afterKey := ⟨[], rfl, nofun⟩

lemma Layout.isBlank_indented : Layout.indented.IsBlank where
  lineBreak level := by simp [Layout.indented]
  afterKey := ⟨[' '], rfl, by simp⟩

/-- At every level the value is printed as the grammar has it, with line feeds only. -/
structure Written (layout : Layout) (v : Value) : Prop where
  denotes : ∀ level, Denotes v (v.write layout level)
  lined : ∀ level, Lined (v.write layout level)

section

variable {layout : Layout} (hlayout : layout.IsBlank)

lemma writeString_some (s : String) : writeString (some s) = writeText s := rfl

lemma lined_writeText (s : String) : Lined (writeText s) := by
  intro c hc hlt
  have hle := (quotes_writeText s).le_toNat c hc
  omega

lemma written_ofText (s : String) : Written layout (.ofText s) where
  denotes _ := .string (quotes_writeText s)
  lined _ := lined_writeText s

include hlayout

/-- Printed items stand one after another, between any two gaps. -/
lemma denoteItems_write {v : Value} {vs : List Value} (h : ∀ w ∈ v :: vs, Written layout w)
    {before after : List Char} (hbefore : IsGap before) (hafter : IsGap after) (level : ℕ) :
    DenoteItems (v :: vs)
      (before ++ (v.write layout level ++ (writeItems layout level vs ++ after))) := by
  induction vs generalizing v before with
  | nil =>
    have hv := (h v List.mem_cons_self).denotes level
    simpa [writeItems] using DenoteItems.last hbefore hv hafter
  | cons w ws ih =>
    have hv := (h v List.mem_cons_self).denotes level
    have hrest := ih (fun u hu => h u (List.mem_cons_of_mem v hu)) (hlayout.isGap level)
    simpa [writeItems] using DenoteItems.more hbefore hv isGap_nil hrest

lemma lined_writeItems {vs : List Value} (h : ∀ v ∈ vs, Written layout v) (level : ℕ) :
    Lined (writeItems layout level vs) := by
  induction vs with
  | nil => exact lined_nil
  | cons v vs ih =>
    obtain ⟨hv, hvs⟩ := List.forall_mem_cons.mp h
    simp [writeItems, lined_append, lined_cons, hlayout.lined level,
      hv.lined level, ih hvs]

lemma written_array {vs : List Value} (h : ∀ v ∈ vs, Written layout v) :
    Written layout (.array vs) := by
  cases vs with
  | nil =>
    exact ⟨fun _ => .emptyArray isGap_nil, fun _ => by simp [Value.write, lined_cons, lined_nil]⟩
  | cons v vs =>
    refine ⟨fun level => ?_, fun level => ?_⟩
    · have hitems := denoteItems_write hlayout h (hlayout.isGap (level + 1)) (hlayout.isGap level)
        (level + 1)
      simpa [Value.write] using Denotes.array hitems
    · obtain ⟨hv, hvs⟩ := List.forall_mem_cons.mp h
      simp [Value.write, lined_append, lined_cons, lined_nil, hlayout.lined, hv.lined,
        lined_writeItems hlayout hvs]

/-- A printed member stands between any two gaps. -/
lemma denoteMember_write (key : String) {v : Value} (hv : Written layout v)
    {before after : List Char} (hbefore : IsGap before) (hafter : IsGap after) (level : ℕ) :
    DenoteMember (some key, v)
      (before ++ (writeString (some key) ++ (layout.afterKey ++
        (v.write layout level ++ after)))) := by
  obtain ⟨gap, hkey, hgap⟩ := hlayout.afterKey
  have hmember := DenoteMember.member hbefore (quotes_writeText key) isGap_nil
    (isGap_of_blank hgap) (hv.denotes level) hafter
  simpa [hkey, writeString_some] using hmember

/-- Printed members stand one after another, between any two gaps. -/
lemma denoteMembers_write {key : String} {v : Value} {members : List (String × Value)}
    (h : ∀ m ∈ (key, v) :: members, Written layout m.2) {before after : List Char}
    (hbefore : IsGap before) (hafter : IsGap after) (level : ℕ) :
    DenoteMembers (((key, v) :: members).map fun m => (some m.1, m.2))
      (before ++ (writeString (some key) ++ (layout.afterKey ++ (v.write layout level ++
        (writeMembers layout level (members.map fun m => (some m.1, m.2)) ++ after))))) := by
  induction members generalizing key v before with
  | nil =>
    have hv := h (key, v) List.mem_cons_self
    simpa [writeMembers] using
      DenoteMembers.last (denoteMember_write hlayout key hv hbefore hafter level)
  | cons m members ih =>
    have hv := h (key, v) List.mem_cons_self
    have hmember := denoteMember_write hlayout key hv hbefore isGap_nil level
    have hrest := ih (fun m' hm' => h m' (List.mem_cons_of_mem (key, v) hm')) (hlayout.isGap level)
    simpa [writeMembers] using DenoteMembers.more hmember hrest

lemma lined_afterKey : Lined layout.afterKey := by
  obtain ⟨gap, hkey, hgap⟩ := hlayout.afterKey
  simp [hkey, lined_cons, lined_of_blank hgap]

lemma lined_writeMembers {members : List (String × Value)}
    (h : ∀ m ∈ members, Written layout m.2) (level : ℕ) :
    Lined (writeMembers layout level (members.map fun m => (some m.1, m.2))) := by
  induction members with
  | nil => exact lined_nil
  | cons m members ih =>
    obtain ⟨hm, hmembers⟩ := List.forall_mem_cons.mp h
    simp [writeMembers, writeString_some, lined_append, lined_cons, lined_writeText, hm.lined level,
      hlayout.lined level, lined_afterKey hlayout, ih hmembers]

lemma written_ofMembers {members : List (String × Value)}
    (h : ∀ m ∈ members, Written layout m.2) : Written layout (.ofMembers members) := by
  cases members with
  | nil =>
    exact ⟨fun _ => .emptyObject isGap_nil,
      fun _ => by simp [Value.ofMembers, Value.write, lined_cons, lined_nil]⟩
  | cons m members =>
    refine ⟨fun level => ?_, fun level => ?_⟩
    · have hmembers := denoteMembers_write hlayout h (hlayout.isGap (level + 1))
        (hlayout.isGap level) (level + 1)
      simpa [Value.ofMembers, Value.write] using Denotes.object hmembers
    · obtain ⟨hm, hmembers⟩ := List.forall_mem_cons.mp h
      simp [Value.ofMembers, Value.write, writeString_some, lined_append, lined_cons, lined_nil,
        hlayout.lined, hm.lined, lined_writeText, lined_afterKey hlayout,
        lined_writeMembers hlayout hmembers]

end

/-! ## Texts -/

lemma Written.isText {layout : Layout} {v : Value} (h : Written layout v) :
    IsText v (String.ofList (v.write layout 0)) :=
  ⟨[], _, [], nofun, h.denotes 0, nofun, by simp⟩

end FieldList.Json
