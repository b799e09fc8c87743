import FieldList.Json.Field
import FieldList.Proofs.Json.Printing
import FieldList.Proofs.Json.Reading

/-!
# Fields in JSON texts

A field is read back from its JSON text, and from every text of an object that holds it
(`HoldsField`): which members an object has and how often decides, not their order, what stands
between them or what else there is.
-/

namespace FieldList.Json

/-! ## What an object holds -/

/-- The ways to write a requirement: its keyword, alone or as the only key of an object. -/
def requirementValues (r : Requirement) : List Value :=
  [.ofText r.keyword, .object [(some r.keyword, .null)]]

/-- The keys of a field. -/
def fieldKeys : List String := ["name", "type", "description", "requirement"]

/-- How often a key occurs. -/
def occurrences (members : List (Option String × Value)) (key : String) : ℕ :=
  (members.map Prod.fst).count (some key)

/-- The members have each key of a field once, with the values of this one. -/
structure HoldsField (members : List (Option String × Value)) (f : Field) : Prop where
  once : ∀ key ∈ fieldKeys, occurrences members key = 1
  name : (some "name", .ofText f.name) ∈ members
  dataType : (some "type", .ofText f.dataType) ∈ members
  description : (some "description", .ofText f.description) ∈ members
  requirement : ∃ v ∈ requirementValues f.requirement, (some "requirement", v) ∈ members

/-! ## What is read -/

lemma ofKeyword?_eq_some_iff {s : String} {r : Requirement} :
    Requirement.ofKeyword? s = some r ↔ s = r.keyword := by
  constructor
  · intro h
    unfold Requirement.ofKeyword? at h
    split at h
    · next hs =>
      obtain rfl := Option.some.inj h
      exact hs
    · split at h
      · next hs =>
        obtain rfl := Option.some.inj h
        exact hs
      · cases h
  · rintro rfl
    exact Requirement.ofKeyword?_keyword r

lemma ofJson?_requirement_iff {v : Value} {r : Requirement} :
    Requirement.ofJson? v = some r ↔ v ∈ requirementValues r := by
  constructor
  · intro h
    unfold Requirement.ofJson? at h
    split at h
    · rw [ofKeyword?_eq_some_iff] at h
      simp [requirementValues, Value.ofText, h]
    · rw [ofKeyword?_eq_some_iff] at h
      simp [requirementValues, h]
    · cases h
  · intro h
    simp only [requirementValues, List.mem_cons, List.not_mem_nil, or_false] at h
    rcases h with rfl | rfl
    · exact Requirement.ofKeyword?_keyword r
    · exact Requirement.ofKeyword?_keyword r

lemma text?_eq_some_iff {v : Value} {s : String} : v.text? = some s ↔ v = .ofText s := by
  cases v <;> simp [Value.text?, Value.ofText]

lemma ofValues?_eq_some_iff {name dataType description requirement : Value} {f : Field} :
    Field.ofValues? name dataType description requirement = some f ↔
      name = .ofText f.name ∧ dataType = .ofText f.dataType ∧
        description = .ofText f.description ∧ requirement ∈ requirementValues f.requirement := by
  cases f
  simp [Field.ofValues?, Option.bind_eq_some_iff, text?_eq_some_iff, ofJson?_requirement_iff]

lemma member?_eq_some_iff {members : List (Option String × Value)} {key : String} {v : Value} :
    Field.member? members key = some v ↔
      occurrences members key = 1 ∧ (some key, v) ∈ members := by
  have hlength : (members.filter fun m => m.1 = some key).length = occurrences members key := by
    rw [occurrences, List.count, List.countP_map, List.countP_eq_length_filter]
    congr 1
    exact List.filter_congr fun m _ => (beq_eq_decide m.1 (some key)).symm
  constructor
  · intro h
    unfold Field.member? at h
    split at h
    · next k w hfilter =>
      obtain rfl := Option.some.inj h
      have hmem : (k, w) ∈ members.filter fun m => m.1 = some key := by simp [hfilter]
      obtain ⟨hmem, hk⟩ := List.mem_filter.mp hmem
      obtain rfl : k = some key := by simpa using hk
      exact ⟨by rw [← hlength, hfilter, List.length_singleton], hmem⟩
    · cases h
  · rintro ⟨honce, hmem⟩
    obtain ⟨m, hm⟩ := List.length_eq_one_iff.mp (hlength.trans honce)
    have hv : (some key, v) ∈ members.filter fun m => m.1 = some key :=
      List.mem_filter.mpr ⟨hmem, by simp⟩
    rw [hm, List.mem_singleton] at hv
    rw [Field.member?, hm, ← hv]

/-- Of an object whose keys are texts, the field that it holds is read. -/
lemma ofJson?_eq_some_iff {members : List (Option String × Value)} {f : Field}
    (hkeys : ∀ m ∈ members, m.1.isSome) :
    Field.ofJson? (.object members) = some f ↔ HoldsField members f := by
  have hany : members.any (fun m => m.1.isNone) = false := by
    rw [List.any_eq_false]
    intro m hm
    simp [Option.isSome_iff_ne_none.mp (hkeys m hm)]
  simp only [Field.ofJson?, hany, Bool.false_eq_true, if_false, Option.bind_eq_bind,
    Option.bind_eq_some_iff, member?_eq_some_iff, ofValues?_eq_some_iff]
  constructor
  · rintro ⟨_, ⟨hname, hname'⟩, _, ⟨htype, htype'⟩, _, ⟨hdescription, hdescription'⟩, v,
      ⟨hrequirement, hrequirement'⟩, rfl, rfl, rfl, hv⟩
    have honce : ∀ key ∈ fieldKeys, occurrences members key = 1 := by
      simp [fieldKeys, hname, htype, hdescription, hrequirement]
    exact ⟨honce, hname', htype', hdescription', v, hv, hrequirement'⟩
  · rintro ⟨honce, hname, htype, hdescription, v, hv, hrequirement⟩
    simp only [fieldKeys, List.forall_mem_cons] at honce
    obtain ⟨hone, htwo, hthree, hfour, -⟩ := honce
    exact ⟨_, ⟨hone, hname⟩, _, ⟨htwo, htype⟩, _, ⟨hthree, hdescription⟩, v, ⟨hfour, hrequirement⟩,
      rfl, rfl, rfl, hv⟩

/-! ## Texts of objects -/

lemma DenoteMember.isSome_key {m : Option String × Value} {s : List Char} (h : DenoteMember m s) :
    m.1.isSome := by
  cases h
  rfl

lemma DenoteMembers.isSome_key {members : List (Option String × Value)} {s : List Char}
    (h : DenoteMembers members s) : ∀ m ∈ members, m.1.isSome := by
  induction members generalizing s with
  | nil => simp
  | cons m members ih =>
    cases h with
    | last hm => simpa using hm.isSome_key
    | more hm hmembers => exact List.forall_mem_cons.mpr ⟨hm.isSome_key, ih hmembers⟩

lemma IsText.isSome_key {members : List (Option String × Value)} {text : String}
    (h : IsText (.object members) text) : ∀ m ∈ members, m.1.isSome := by
  obtain ⟨_, s, _, -, hs, -, -⟩ := h
  cases hs with
  | emptyObject => simp
  | object hmembers => exact hmembers.isSome_key

lemma readJson?_eq_some_iff {members : List (Option String × Value)} {text : String}
    (h : IsText (.object members) text) {f : Field} :
    Field.readJson? text = some f ↔ HoldsField members f := by
  have hread : Field.readJson? text = Field.ofJson? (.object members) := by
    rw [Field.readJson?, read_of_isText h]
    rfl
  rw [hread, ofJson?_eq_some_iff h.isSome_key]

lemma isText_compact (f : Field) : IsText f.toJson f.toJson.compact := by
  have hwritten : Written .compact f.toJson := by
    apply written_ofMembers Layout.isBlank_compact
    simp [written_ofText]
  exact hwritten.isText

lemma holdsField_toJson (f : Field) :
    ∃ members, f.toJson = .object members ∧ HoldsField members f := by
  refine ⟨_, rfl, ?_, ?_, ?_, ?_, ?_⟩
  · simp [fieldKeys, occurrences]
  all_goals simp [requirementValues, Value.ofText]

/-- A field is read back from its text. In every text of an object just the field that the object
holds is read, and none where one of the keys is missing or occurs again. -/
theorem read_field_iff_holds :
    (∀ f : Field, Field.readJson? f.toJson.compact = some f) ∧
      ∀ members text, IsText (.object members) text →
        (∀ f, Field.readJson? text = some f ↔ HoldsField members f) ∧
          ((∃ key ∈ fieldKeys, occurrences members key ≠ 1) → Field.readJson? text = none) := by
  refine ⟨fun f => ?_, fun members text h => ⟨fun f => readJson?_eq_some_iff h, ?_⟩⟩
  · obtain ⟨members, hobject, hholds⟩ := holdsField_toJson f
    have htext := isText_compact f
    rw [hobject] at htext ⊢
    exact (readJson?_eq_some_iff htext).mpr hholds
  · rintro ⟨key, hkey, hne⟩
    rw [Option.eq_none_iff_forall_ne_some]
    intro f hf
    exact hne (((readJson?_eq_some_iff h).mp hf).once key hkey)

/-- The members stand in another order, one key has an escape, and there is a member of no use. An
object without members is no field. -/
theorem read_field_escaped_key :
    Field.readJson? ("\x7b\"requirement\": \x7b\"optional\":null\x7d,\"x\":[1e9]," ++
        "\"\\u0074ype\":\"T\",\"name\":\"n\",\"description\":\"\"\x7d") =
          some ⟨"n", "T", "", .optional⟩ ∧
      Field.readJson? "\x7b\x7d" = none := by
  have hspace : IsGap [' '] := by simp [IsGap]
  have hnumber : IsNumber ([] ++ (['1'] ++ [] ++ ['e', '9'])) := by
    have hone : IsWhole ['1'] := .inr ⟨⟨by simp, by simp⟩, by simp⟩
    have hnine : IsExponent ['e', '9'] :=
      .inr ⟨'e', [], ['9'], by simp, by simp, ⟨by simp, by simp⟩, rfl⟩
    exact .parts (by simp) hone (.inl rfl) hnine
  have hkey : Quotes "type" ('"' :: "\\u0074".toList ++ "ype".toList ++ ['"']) := by
    have hcode : IsHexNumber ['0', '0', '7', '4'] 't'.toNat :=
      IsHexNumber.digits (k := 0) (l := 0) (m := 7) (n := 4) (.inl rfl) (.inl rfl) (.inl rfl)
        (.inl rfl)
    have hspells : Spells "type".toList ("\\u0074".toList ++ "ype".toList) :=
      .cons (.unit hcode) (.cons (spelling_escapeChar 'y') (.cons (spelling_escapeChar 'p')
        (.cons (spelling_escapeChar 'e') .nil)))
    exact .quoted hspells
  have hoptional := DenoteMember.member isGap_nil (quotes_writeText "optional") isGap_nil isGap_nil
    .null isGap_nil
  have hrequirement := DenoteMember.member isGap_nil (quotes_writeText "requirement") isGap_nil
    hspace (.object (.last hoptional)) isGap_nil
  have hother := DenoteMember.member isGap_nil (quotes_writeText "x") isGap_nil isGap_nil
    (.array (.last isGap_nil (.number hnumber) isGap_nil)) isGap_nil
  have hstring : ∀ {key k} text, Quotes key k → DenoteMember (some key, .ofText text)
      ([] ++ k ++ [] ++ ':' :: [] ++ writeText text ++ []) := fun text hk =>
    .member isGap_nil hk isGap_nil isGap_nil (.string (quotes_writeText text)) isGap_nil
  have hmembers := DenoteMembers.more hrequirement (.more hother (.more (hstring "T" hkey)
    (.more (hstring "n" (quotes_writeText "name"))
      (.last (hstring "" (quotes_writeText "description"))))))
  constructor
  · refine ((read_field_iff_holds.2 _ _ ⟨[], _, [], isGap_nil, .object hmembers, isGap_nil, ?_⟩).1
      _).mpr ?_
    · decide
    · exact {
        once := by decide
        name := by simp
        dataType := by simp
        description := by simp
        requirement := by simp [requirementValues, Requirement.keyword] }
  · refine (read_field_iff_holds.2 [] _
      ⟨[], _, [], isGap_nil, .emptyObject isGap_nil, isGap_nil, ?_⟩).2 ⟨"name", ?_, ?_⟩
    all_goals decide

end FieldList.Json
