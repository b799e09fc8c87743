import FieldList.Proofs.Publication.Outcome
import FieldList.Proofs.Text.ByteOrder

/-!
# Histories of a registry

A registry starts with some formats, and formats are registered in it one after the other.
`LastWins` says what it answers afterwards, in terms of the start and of the sequence of formats
alone: the names are the old and the new ones in the order of their bytes, and each stands for the
format that was registered last under it.

Everything is drawn from the look-up of names. A registration changes it for one name
(`get?_register`), so the formats after the last one of a name do not count, and registries that
look up all names alike are the same (`eq_of_get?_eq`).
-/

namespace FieldList.Registry

/-! ## Histories -/

/-- The registry after some formats were registered, one after the other. -/
def registerAll (r : Registry) (fs : List Format) : Registry := fs.foldl register r

/-- The name stands for a format from the start or from some registration on. -/
def Present (start : Registry) (fs : List Format) (name : String) : Prop :=
  name ∈ start.names ∨ ∃ f ∈ fs, f.name = name

/-- Two registries answer alike to all that can be asked about a name. -/
structure SameAnswers (r r' : Registry) (name : String) : Prop where
  mem_names : name ∈ r.names ↔ name ∈ r'.names
  has : r.has name = r'.has name
  get : r.get name = r'.get name
  serialize : ∀ t, r.serialize name t = r'.serialize name t

/-- What a registry answers after its history. -/
structure LastWins (start : Registry) (fs : List Format) : Prop where
  increasing : (start.registerAll fs).names.Pairwise fun a b => Text.utf8 a < Text.utf8 b
  mem_names : ∀ name, name ∈ (start.registerAll fs).names ↔ Present start fs name
  has : ∀ name, (start.registerAll fs).has name = true ↔ name ∈ (start.registerAll fs).names
  get_ok : ∀ name, (∃ f, (start.registerAll fs).get name = .ok f) ↔
    name ∈ (start.registerAll fs).names
  get_notFound : ∀ name, (start.registerAll fs).get name = .error (.notFound name) ↔
    ¬ Present start fs name
  /-- A format that is there may give that error, too. -/
  serialize_notFound : ∀ name t,
    (start.registerAll fs).serialize name t = .error (.reported (.notFound name)) ↔
      ¬ Present start fs name ∨ ∃ f, (start.registerAll fs).get name = .ok f ∧
        f.serialize t = .error (.reported (.notFound name))
  latest : ∀ pre f post, fs = pre ++ f :: post → (∀ g ∈ post, g.name ≠ f.name) →
    (start.registerAll fs).get f.name = .ok f ∧
      ∀ t, (start.registerAll fs).serialize f.name t = f.serialize t
  untouched : ∀ name, (∀ f ∈ fs, f.name ≠ name) → SameAnswers (start.registerAll fs) start name
  others : ∀ f name, f.name ≠ name →
    SameAnswers (start.registerAll (fs ++ [f])) (start.registerAll fs) name
  swapped : ∀ pre f g post, fs = pre ++ f :: g :: post → f.name ≠ g.name →
    start.registerAll (pre ++ g :: f :: post) = start.registerAll fs

variable {r r' start : Registry} {f g : Format} {fs : List Format} {name : String}

/-! ## Looking up names -/

lemma get?_eq_some_iff : r.get? name = some f ↔ f ∈ r.formats ∧ f.name = name := by
  constructor
  · intro h
    exact ⟨List.mem_of_find?_eq_some h, by simpa using List.find?_some h⟩
  · rintro ⟨hf, hname⟩
    have hget := get_eq_of_mem hf hname
    unfold get at hget
    split at hget
    · next g hg => rw [hg, Except.ok.inj hget]
    · cases hget

lemma mem_names_iff : name ∈ r.names ↔ ∃ f, r.get? name = some f := by
  simp only [get?_eq_some_iff, names, List.mem_map]

lemma has_iff : r.has name = true ↔ name ∈ r.names := by
  rw [has, Option.isSome_iff_exists, mem_names_iff]

lemma get_eq_ok_iff : r.get name = .ok f ↔ r.get? name = some f := by
  unfold get
  split <;> simp_all

lemma get_eq_notFound_iff : r.get name = .error (.notFound name) ↔ name ∉ r.names := by
  rw [mem_names_iff]
  unfold get
  split <;> simp_all

lemma serialize_of_get (h : r.get name = .ok f) (t : Table) :
    r.serialize name t = f.serialize t := by
  rw [serialize, h]
  rfl

lemma sameAnswers_of_get? (h : r.get? name = r'.get? name) : SameAnswers r r' name := by
  have hget : r.get name = r'.get name := by rw [get, get, h]
  exact ⟨by rw [mem_names_iff, mem_names_iff, h], by rw [has, has, h], hget,
    fun t => by rw [serialize, serialize, hget]⟩

/-- The formats are in order and each is found under its name, so the look-up determines them. -/
lemma eq_of_get?_eq (h : ∀ name, r.get? name = r'.get? name) : r = r' := by
  have hmem : ∀ f, f ∈ r.formats ↔ f ∈ r'.formats := by
    intro f
    have hname : ∀ r : Registry, f ∈ r.formats ↔ r.get? f.name = some f := fun r => by
      simp [get?_eq_some_iff]
    rw [hname r, hname r', h]
  have hasymm : Std.Antisymm fun f g : Format => f.name < g.name :=
    ⟨fun f g hfg hgf => absurd (String.lt_trans hfg hgf) (String.lt_irrefl _)⟩
  have hirrefl : Std.Irrefl fun f g : Format => f.name < g.name :=
    ⟨fun f => String.lt_irrefl f.name⟩
  have hformats : r.formats = r'.formats :=
    List.Pairwise.eq_of_mem_iff r.increasing r'.increasing hmem
  obtain ⟨formats, hincreasing⟩ := r
  obtain ⟨formats', hincreasing'⟩ := r'
  obtain rfl : formats = formats' := hformats
  rfl

/-! ## Many registrations -/

lemma registerAll_append (start : Registry) (fs gs : List Format) :
    start.registerAll (fs ++ gs) = (start.registerAll fs).registerAll gs := List.foldl_append

/-- Formats of other names do not change what a name stands for. -/
lemma get?_registerAll_of_forall_ne (h : ∀ f ∈ fs, f.name ≠ name) :
    (start.registerAll fs).get? name = start.get? name := by
  induction fs generalizing start with
  | nil => rfl
  | cons f rest ih =>
    have hrest : ∀ g ∈ rest, g.name ≠ name := fun g hg => h g (List.mem_cons_of_mem f hg)
    have hstep : (start.register f).get? name = start.get? name := by
      rw [get?_register, if_neg (h f List.mem_cons_self)]
    exact (ih hrest).trans hstep

/-- The last format of a name is the one that the name stands for. -/
lemma get?_registerAll_last {pre post : List Format} (h : ∀ g ∈ post, g.name ≠ f.name) :
    (start.registerAll (pre ++ f :: post)).get? f.name = some f := by
  have hlast : start.registerAll (pre ++ f :: post) =
      ((start.registerAll pre).register f).registerAll post := registerAll_append start pre _
  rw [hlast, get?_registerAll_of_forall_ne h, get?_register, if_pos rfl]

lemma mem_names_registerAll : name ∈ (start.registerAll fs).names ↔ Present start fs name := by
  induction fs using List.reverseRecOn with
  | nil => simp [Present, registerAll]
  | append_singleton fs f ih =>
    have hstep : start.registerAll (fs ++ [f]) = (start.registerAll fs).register f :=
      registerAll_append start fs [f]
    rw [hstep, mem_names_iff, get?_register]
    by_cases hname : f.name = name
    · simp [hname, Present]
    · rw [if_neg hname, ← mem_names_iff, ih]
      simp [Present, hname]

/-- Neighbours of different names can change places. -/
lemma register_comm (h : f.name ≠ g.name) :
    (r.register g).register f = (r.register f).register g := by
  refine eq_of_get?_eq fun name => ?_
  simp only [get?_register]
  by_cases hf : f.name = name
  · have hg : g.name ≠ name := fun hg => h (hf.trans hg.symm)
    rw [if_pos hf, if_neg hg, if_pos hf]
  · rw [if_neg hf, if_neg hf]

/-- **The last registration wins.** After any history, from any start, the names are those of the
start and those of the registrations, in the order of their bytes. Each stands for the format that
was registered last under it, or else for that of the start, and only a name that was never there
is not found. Registrations under other names change nothing about a name, and two neighbouring
ones under different names can change places. -/
theorem lastWins_registerAll (start : Registry) (fs : List Format) : LastWins start fs where
  increasing := by
    rw [names, List.pairwise_map]
    exact (start.registerAll fs).increasing.imp Text.utf8_lt_utf8.mpr
  mem_names _ := mem_names_registerAll
  has _ := has_iff
  get_ok _ := by simp only [get_eq_ok_iff, mem_names_iff]
  get_notFound _ := by rw [get_eq_notFound_iff, mem_names_registerAll]
  serialize_notFound name t := by
    by_cases hname : name ∈ (start.registerAll fs).names
    · have hpresent : Present start fs name := mem_names_registerAll.mp hname
      obtain ⟨f, hf⟩ := mem_names_iff.mp hname
      have hget : (start.registerAll fs).get name = .ok f := get_eq_ok_iff.mpr hf
      simp [serialize_of_get hget, hget, hpresent]
    · have hpresent : ¬ Present start fs name := fun h => hname (mem_names_registerAll.mpr h)
      simp [serialize_eq_of_notMem hname, hpresent]
  latest pre f post hfs hpost := by
    subst hfs
    have hget : (start.registerAll (pre ++ f :: post)).get f.name = .ok f :=
      get_eq_ok_iff.mpr (get?_registerAll_last hpost)
    exact ⟨hget, serialize_of_get hget⟩
  untouched _ hname := sameAnswers_of_get? (get?_registerAll_of_forall_ne hname)
  others f name hname := by
    have hsingle : ∀ g ∈ [f], g.name ≠ name := by simpa using hname
    rw [registerAll_append]
    exact sameAnswers_of_get? (get?_registerAll_of_forall_ne hsingle)
  swapped pre f g post hfs hname := by
    subst hfs
    rw [registerAll_append, registerAll_append]
    exact congrArg (registerAll · post) (register_comm hname)

/-- Names are compared as a whole, and the format registered again is the one that is found. -/
example : (standard.registerAll [.docx .landscape, .json]).names =
    ["docx", "json", "markdown"] := by
  decide

end FieldList.Registry
