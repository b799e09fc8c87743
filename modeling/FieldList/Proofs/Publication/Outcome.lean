import FieldList.Proofs.Files.Writing
import FieldList.Publish
import Mathlib.Data.List.Induction

/-!
# What publishing comes to

`Publishes` lists the outcomes of a publication, each with the condition under which it is the one:
a missing format, a format that fails, a document that needs a path and has none, a text handed
back, a file that cannot be opened, a file written. Only the last changes any file, and it changes
one. `publishes_publish` says that publishing with any registry comes to just that outcome.

Nothing is assumed about the formats: they may give any text, any bytes, or any error, or panic.
-/

namespace FieldList

/-! ## The formats of a registry -/

namespace Registry

variable {r : Registry} {f : Format} {name : String}

lemma get_eq_of_mem (hf : f ∈ r.formats) (hname : f.name = name) : r.get name = .ok f := by
  have hfind : r.get? name = some f := by
    rw [get?, List.find?_eq_some_iff_append]
    obtain ⟨before, after, hformats⟩ := List.append_of_mem hf
    refine ⟨by simpa using hname, before, after, hformats, fun g hg => ?_⟩
    -- Names increase, so no format before `f` has its name.
    have hincreasing := r.increasing
    rw [hformats, List.pairwise_append] at hincreasing
    have hlt := hincreasing.2.2 g hg f List.mem_cons_self
    have hne : g.name ≠ name := fun heq => String.lt_irrefl _ (by rwa [heq, hname] at hlt)
    simpa using hne
  rw [get, hfind]

lemma get_eq_of_notMem (hname : name ∉ r.names) : r.get name = .error (.notFound name) := by
  have hfind : r.get? name = none := by
    rw [get?, List.find?_eq_none]
    intro f hf heq
    exact hname (List.mem_map.mpr ⟨f, hf, by simpa using heq⟩)
  rw [get, hfind]

lemma serialize_eq_of_mem (hf : f ∈ r.formats) (hname : f.name = name) {t : Table}
    {document : Except Fault Document} (h : f.serialize t = document) :
    r.serialize name t = document := by
  rw [serialize, get_eq_of_mem hf hname, ← h]
  rfl

lemma serialize_eq_of_notMem (hname : name ∉ r.names) (t : Table) :
    r.serialize name t = .error (.reported (.notFound name)) := by
  rw [serialize, get_eq_of_notMem hname]
  rfl

end Registry

/-! ## Requests -/

namespace Publication

/-- A publication for which paths were set one after the other. -/
def requested (t : Table) (format : String) (paths : List String) : Publication :=
  paths.foldl withOutput ⟨t, format, none⟩

/-- The last path counts. -/
lemma requested_eq (t : Table) (format : String) (paths : List String) :
    requested t format paths = ⟨t, format, paths.getLast?⟩ := by
  induction paths using List.reverseRecOn with
  | nil => rfl
  | append_singleton paths path ih =>
    unfold requested at ih ⊢
    rw [List.foldl_append, ih, List.getLast?_concat]
    rfl

/-! ## Outcomes -/

/-- The outcomes of a publication: what it gives, and the files afterwards. -/
inductive Publishes (r : Registry) (t : Table) (format : String) (paths : List String)
    (before : Files.Tree) : Except Fault Artifact → Files.Tree → Prop where
  | notFound : format ∉ r.names →
      Publishes r t format paths before (.error (.reported (.notFound format))) before
  | failed {f : Format} {e : Fault} : f ∈ r.formats → f.name = format →
      f.serialize t = .error e → Publishes r t format paths before (.error e) before
  | needsPath {f : Format} {content : Content} : f ∈ r.formats → f.name = format →
      f.serialize t = .ok (.binary content) → paths = [] →
      Publishes r t format paths before
        (.error (.reported (.serialization "binary formats require an explicit output path"))) before
  | handedBack {f : Format} {text : String} : f ∈ r.formats → f.name = format →
      f.serialize t = .ok (.text text) → paths = [] →
      Publishes r t format paths before (.ok (.inMemory text)) before
  | notOpened {f : Format} {document : Document} {path : String} {cause : Files.OpenError} :
      f ∈ r.formats → f.name = format → f.serialize t = .ok document →
      paths.getLast? = some path → before.writable path = .error cause →
      Publishes r t format paths before (.error (.reported (.write path cause))) before
  | wroteText {f : Format} {text path : String} {after : Files.Tree} :
      f ∈ r.formats → f.name = format → f.serialize t = .ok (.text text) →
      paths.getLast? = some path → before.Wrote path (.bytes text.toUTF8) after →
      Publishes r t format paths before (.ok (.file path)) after
  | wroteBinary {f : Format} {content : Content} {path : String} {after : Files.Tree} :
      f ∈ r.formats → f.name = format → f.serialize t = .ok (.binary content) →
      paths.getLast? = some path → before.Wrote path content after →
      Publishes r t format paths before (.ok (.file path)) after

variable {r : Registry} {t : Table} {format path : String} {paths : List String}
  {before after : Files.Tree} {document : Document} {e : Fault}

/-! ## Publishing with a document at hand -/

lemma prepare_of_error (h : r.serialize format t = .error e) (output : Option String) :
    prepare ⟨t, format, output⟩ r = .error e := by
  rw [prepare, h]
  rfl

lemma prepare_to_path (h : r.serialize format t = .ok document) :
    prepare ⟨t, format, some path⟩ r = .ok (.write path document.content) := by
  rw [prepare, h]
  rfl

lemma prepare_of_text {text : String} (h : r.serialize format t = .ok (.text text)) :
    prepare ⟨t, format, none⟩ r = .ok (.handBack text) := by
  rw [prepare, h]
  rfl

lemma publish_of_error (h : r.serialize format t = .error e) (output : Option String) :
    publish ⟨t, format, output⟩ r before = (.error e, before) := by
  rw [publish, prepare_of_error h]

lemma publish_of_text {text : String} (h : r.serialize format t = .ok (.text text)) :
    publish ⟨t, format, none⟩ r before = (.ok (.inMemory text), before) := by
  rw [publish, prepare_of_text h]
  rfl

lemma publish_of_binary {content : Content} (h : r.serialize format t = .ok (.binary content)) :
    publish ⟨t, format, none⟩ r before =
      (.error (.reported (.serialization "binary formats require an explicit output path")),
        before) := by
  have hprepare : prepare ⟨t, format, none⟩ r =
      .error (.reported (.serialization "binary formats require an explicit output path")) := by
    rw [prepare, h]
    rfl
  rw [publish, hprepare]

lemma publish_of_writable {place : List String} (h : r.serialize format t = .ok document)
    (hplace : before.writable path = .ok place) :
    publish ⟨t, format, some path⟩ r before =
      (.ok (.file path), before.insert place (.file document.content)) := by
  rw [publish, prepare_to_path h]
  simp only [Delivery.perform, Files.Tree.write_eq_of_writable hplace]

lemma publish_of_not_writable {cause : Files.OpenError} (h : r.serialize format t = .ok document)
    (hcause : before.writable path = .error cause) :
    publish ⟨t, format, some path⟩ r before = (.error (.reported (.write path cause)), before) := by
  rw [publish, prepare_to_path h]
  simp only [Delivery.perform, Files.Tree.write_eq_of_not_writable hcause]

/-! ## All or nothing -/

/-- Some outcome applies, and it is what publishing comes to. -/
lemma publishes_publish (r : Registry) (t : Table) (format : String) (paths : List String)
    (before : Files.Tree) :
    Publishes r t format paths before ((requested t format paths).publish r before).1
      ((requested t format paths).publish r before).2 := by
  rw [requested_eq]
  by_cases hname : format ∈ r.names
  · obtain ⟨f, hf, hname⟩ := List.mem_map.mp hname
    cases hdocument : f.serialize t with
    | error e =>
      rw [publish_of_error (r.serialize_eq_of_mem hf hname hdocument)]
      exact .failed hf hname hdocument
    | ok document =>
      have hserialize := r.serialize_eq_of_mem hf hname hdocument
      cases hpath : paths.getLast? with
      | none =>
        have hpaths : paths = [] := List.getLast?_eq_none_iff.mp hpath
        cases document with
        | text s =>
          rw [publish_of_text hserialize]
          exact .handedBack hf hname hdocument hpaths
        | binary content =>
          rw [publish_of_binary hserialize]
          exact .needsPath hf hname hdocument hpaths
      | some path =>
        cases hplace : before.writable path with
        | error cause =>
          rw [publish_of_not_writable hserialize hplace]
          exact .notOpened hf hname hdocument hpath hplace
        | ok place =>
          rw [publish_of_writable hserialize hplace]
          cases document with
          | text s => exact .wroteText hf hname hdocument hpath (Files.Tree.wrote_insert hplace)
          | binary content =>
            exact .wroteBinary hf hname hdocument hpath (Files.Tree.wrote_insert hplace)
  · rw [publish_of_error (r.serialize_eq_of_notMem hname t)]
    exact .notFound hname

/-- A written document: what publishing comes to when the file can be opened. -/
lemma publish_of_wrote (h : r.serialize format t = .ok document)
    (hwrote : before.Wrote path document.content after) :
    (publish ⟨t, format, some path⟩ r before).1 = .ok (.file path) ∧
      ∀ place, after.node? place =
        (publish ⟨t, format, some path⟩ r before).2.node? place := by
  obtain ⟨place, hplace, -⟩ := hwrote.node?_eq
  rw [publish_of_writable h hplace]
  exact ⟨rfl, hwrote.node?_unique (Files.Tree.wrote_insert hplace)⟩

/-- The outcomes exclude each other: one that applies is what publishing comes to. -/
lemma Publishes.eq_publish {outcome : Except Fault Artifact}
    (h : Publishes r t format paths before outcome after) :
    outcome = ((requested t format paths).publish r before).1 ∧
      ∀ place, after.node? place =
        ((requested t format paths).publish r before).2.node? place := by
  rw [requested_eq]
  cases h with
  | notFound hname =>
    rw [publish_of_error (r.serialize_eq_of_notMem hname t)]
    exact ⟨rfl, fun _ => rfl⟩
  | failed hf hname hdocument =>
    rw [publish_of_error (r.serialize_eq_of_mem hf hname hdocument)]
    exact ⟨rfl, fun _ => rfl⟩
  | needsPath hf hname hdocument hpaths =>
    subst hpaths
    rw [List.getLast?_nil, publish_of_binary (r.serialize_eq_of_mem hf hname hdocument)]
    exact ⟨rfl, fun _ => rfl⟩
  | handedBack hf hname hdocument hpaths =>
    subst hpaths
    rw [List.getLast?_nil, publish_of_text (r.serialize_eq_of_mem hf hname hdocument)]
    exact ⟨rfl, fun _ => rfl⟩
  | notOpened hf hname hdocument hpath hcause =>
    rw [hpath, publish_of_not_writable (r.serialize_eq_of_mem hf hname hdocument) hcause]
    exact ⟨rfl, fun _ => rfl⟩
  | wroteText hf hname hdocument hpath hwrote =>
    rw [hpath]
    obtain ⟨hresult, hnodes⟩ :=
      publish_of_wrote (r.serialize_eq_of_mem hf hname hdocument) hwrote
    exact ⟨hresult.symm, hnodes⟩
  | wroteBinary hf hname hdocument hpath hwrote =>
    rw [hpath]
    obtain ⟨hresult, hnodes⟩ :=
      publish_of_wrote (r.serialize_eq_of_mem hf hname hdocument) hwrote
    exact ⟨hresult.symm, hnodes⟩

/-- **Publishing is all or nothing.** What is published is one of the listed outcomes, and the
only one that applies: every error leaves all files as they were, a text handed back too, and a
success with a path puts the whole document into that one file. -/
theorem publish_all_or_nothing (r : Registry) (t : Table) (format : String) (paths : List String)
    (before : Files.Tree) :
    let result := (requested t format paths).publish r before
    Publishes r t format paths before result.1 result.2 ∧
      ∀ outcome after, Publishes r t format paths before outcome after →
        outcome = result.1 ∧ ∀ place, after.node? place = result.2.node? place :=
  ⟨publishes_publish r t format paths before, fun _ _ h => h.eq_publish⟩

end Publication

end FieldList
