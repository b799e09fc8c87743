import FieldList.Format

/-!
# Registries

The formats that can be asked for by name. Names are in increasing order, so each has one format:
a format registered under a name takes the place of an earlier one.
-/

namespace FieldList

/-- The formats with one put in the place for its name. -/
def insertFormat (f : Format) : List Format → List Format
  | [] => [f]
  | g :: rest =>
    if f.name < g.name then f :: g :: rest
    else if f.name = g.name then f :: rest
    else g :: insertFormat f rest

theorem mem_insertFormat {f g : Format} {formats : List Format} (h : g ∈ insertFormat f formats) :
    g = f ∨ g ∈ formats := by
  induction formats with
  | nil => simpa [insertFormat] using h
  | cons head rest ih =>
    rw [insertFormat] at h
    split at h
    · simpa using h
    · split at h
      · rcases List.mem_cons.mp h with rfl | h
        · exact .inl rfl
        · exact .inr (List.mem_cons_of_mem _ h)
      · rcases List.mem_cons.mp h with rfl | h
        · exact .inr List.mem_cons_self
        · exact (ih h).imp_right (List.mem_cons_of_mem _)

theorem pairwise_insertFormat {f : Format} {formats : List Format}
    (h : formats.Pairwise (·.name < ·.name)) :
    (insertFormat f formats).Pairwise (·.name < ·.name) := by
  induction formats with
  | nil => simp [insertFormat]
  | cons head rest ih =>
    obtain ⟨hhead, hrest⟩ := List.pairwise_cons.mp h
    rw [insertFormat]
    split
    · next hlt =>
      refine List.pairwise_cons.mpr ⟨fun g hg => ?_, h⟩
      rcases List.mem_cons.mp hg with rfl | hg
      · exact hlt
      · exact String.lt_trans hlt (hhead g hg)
    · split
      · next heq => exact List.pairwise_cons.mpr ⟨fun g hg => heq ▸ hhead g hg, hrest⟩
      · next hlt hne =>
        refine List.pairwise_cons.mpr ⟨fun g hg => ?_, ih hrest⟩
        rcases mem_insertFormat hg with rfl | hg
        · exact Std.lt_of_le_of_ne (String.not_lt.mp hlt) (Ne.symm hne)
        · exact hhead g hg

/-- Only the answer for the format's own name changes. -/
theorem find?_insertFormat {f : Format} {formats : List Format} (name : String)
    (h : formats.Pairwise (·.name < ·.name)) :
    (insertFormat f formats).find? (·.name = name) =
      if f.name = name then some f else formats.find? (·.name = name) := by
  induction formats with
  | nil => by_cases hf : f.name = name <;> simp [insertFormat, hf]
  | cons head rest ih =>
    obtain ⟨hhead, hrest⟩ := List.pairwise_cons.mp h
    rw [insertFormat]
    split
    · next hlt =>
      by_cases hf : f.name = name <;> simp [hf]
    · split
      · next heq =>
        by_cases hf : f.name = name
        · simp [hf]
        · simp [hf, show head.name ≠ name from heq ▸ hf]
      · next hlt hne =>
        by_cases hh : head.name = name
        · simp [hh, show f.name ≠ name from fun hf => hne (hf.trans hh.symm)]
        · simp [hh, ih hrest]

structure Registry where
  formats : List Format
  increasing : formats.Pairwise (·.name < ·.name)

namespace Registry

def empty : Registry := ⟨[], .nil⟩

def register (r : Registry) (f : Format) : Registry :=
  ⟨insertFormat f r.formats, pairwise_insertFormat r.increasing⟩

/-- The three formats that are always there, with pages in portrait. -/
def standard : Registry :=
  ((empty.register (.docx .portrait)).register .markdown).register .json

def get? (r : Registry) (name : String) : Option Format := r.formats.find? (·.name = name)

/-- The last format registered under a name is the one that has it. -/
theorem get?_register (r : Registry) (f : Format) (name : String) :
    (r.register f).get? name = if f.name = name then some f else r.get? name :=
  find?_insertFormat name r.increasing

def get (r : Registry) (name : String) : Except FormatError Format :=
  match r.get? name with
  | some f => .ok f
  | none => .error (.notFound name)

def has (r : Registry) (name : String) : Bool := (r.get? name).isSome

/-- The names in increasing order. -/
def names (r : Registry) : List String := r.formats.map Format.name

/-- The document of a table in a format. -/
def serialize (r : Registry) (name : String) (t : Table) : Except Fault Document := do
  (← r.get name).serialize t

end Registry

end FieldList
