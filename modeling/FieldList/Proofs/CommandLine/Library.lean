import FieldList.Proofs.CommandLine.Export
import FieldList.Proofs.Settings.Precedence

/-!
# Exports and the library

An export takes its title, its orientation and its label from settings, and registers a format for
Word files of its own. The library has a title, an orientation and formats that know nothing of
settings. Where no file and no option says otherwise, both come to the same document
(`export_agrees`).

The settings of an export are those to which its options resolve as calls (`ExportOptions.calls`).
Plain options resolve to the defaults, but for a label and a format (`Plain.resolved_eq`); with
these, the formats answer to each name as those of the library do (`get_registry_plainSettings`).
-/

namespace FieldList

/-! ## Formats registered again -/

namespace Registry

/-- A format that is found under its name can be registered again: all names stand for the same. -/
lemma get?_register_of_get? {r : Registry} {f : Format} (h : r.get? f.name = some f)
    (name : String) : (r.register f).get? name = r.get? name := by
  rw [get?_register]
  split
  · next hname => rw [← hname, h]
  · rfl

lemma get?_standard (name : String) : standard.get? name =
    if "json" = name then some .json
    else if "markdown" = name then some .markdown
    else if "docx" = name then some (.docx .portrait) else none := by
  rw [standard, get?_register, get?_register, get?_register]
  rfl

lemma get?_standard_docx : standard.get? "docx" = some (.docx .portrait) := by
  rw [get?_standard, if_neg (by decide), if_neg (by decide), if_pos rfl]

lemma get_standard_markdown : standard.get "markdown" = .ok .markdown := by
  rw [get, get?_standard, if_neg (by decide), if_pos rfl]

lemma get_standard_json : standard.get "json" = .ok .json := by
  rw [get, get?_standard, if_pos rfl]

end Registry

namespace CommandLine

variable {tree : Files.Tree} {stdin : Content} {o : ExportOptions} {source : String}

/-! ## Settings of an export -/

namespace ExportOptions

/-- The layers of the settings, in the order in which an export names them. -/
def calls (o : ExportOptions) : List Settings.Call :=
  .optionalFile localSettings :: o.config.toList.map .file ++
    o.label.toList.map (.override .label) ++ o.format.toList.map (.override .format) ++
    o.orientation.toList.map (.override .orientation)

lemma load_calls (o : ExportOptions) (view : Files.View) :
    Settings.load view o.calls = o.loader.build view := by
  have hloader : Settings.Loader.mk (o.calls.filterMap Settings.Call.layer?)
      (o.calls.filterMap Settings.Call.value?) = o.loader := by
    obtain ⟨config, -, label, -, format, orientation⟩ := o
    cases config <;> cases label <;> cases format <;> cases orientation <;> rfl
  rw [Settings.load, Settings.foldlM_apply, ← hloader]
  rfl

end ExportOptions

/-- No file of settings is found, and no option names one or an orientation. -/
structure Plain (tree : Files.Tree) (o : ExportOptions) : Prop where
  localFile : Settings.find? tree.look localSettings = none
  config : o.config = none
  orientation : o.orientation = none

/-- The defaults with the label and the format of some options. -/
def plainSettings (o : ExportOptions) : Settings where
  title := Table.defaultTitle
  fileName := "FieldList.docx"
  orientation := .portrait
  label := o.label.getD ""
  format := o.format.getD "docx"

lemma Plain.acceptable (h : Plain tree o) : ∀ c ∈ o.calls, c.Acceptable tree.look := by
  simp only [ExportOptions.calls, h.config, h.orientation, Option.toList_none, List.map_nil,
    List.append_nil, List.cons_append, List.nil_append, List.forall_mem_cons,
    List.forall_mem_append, List.forall_mem_map]
  exact ⟨.inr ⟨rfl, h.localFile⟩, fun _ _ => nofun, fun _ _ => nofun⟩

lemma filterMap_overrideText? (k k' : Settings.Key) (given : Option String) :
    (given.toList.map (Settings.Call.override k')).filterMap (Settings.Call.overrideText? k) =
      if k = k' then given.toList else [] := by
  cases given with
  | none => simp
  | some text => by_cases h : k = k' <;> simp [Settings.Call.overrideText?, h]

lemma Plain.resolved_eq (h : Plain tree o) (k : Settings.Key) :
    Settings.resolved tree.look o.calls k = (plainSettings o).text k := by
  have hfile : o.calls.filterMap (Settings.Call.fileText? tree.look k) = [] := by
    have hmissing : Settings.document? tree.look localSettings = none := by
      simp [Settings.document?, h.localFile]
    simp [ExportOptions.calls, h.config, h.orientation, Settings.Call.fileText?,
      Settings.Call.layer?, hmissing]
  have hoverride : o.calls.filterMap (Settings.Call.overrideText? k) =
      (if k = .label then o.label.toList else []) ++
        if k = .format then o.format.toList else [] := by
    have hlocal : Settings.Call.overrideText? k (.optionalFile localSettings) = none := rfl
    simp only [ExportOptions.calls, h.config, h.orientation, Option.toList_none, List.map_nil,
      List.append_nil, List.cons_append, List.nil_append, List.filterMap_cons, hlocal,
      List.filterMap_append, filterMap_overrideText?]
  rw [Settings.resolved, hfile, hoverride]
  cases k with
  | title => rfl
  | fileName => rfl
  | orientation => rfl
  | label =>
    rw [Settings.text, plainSettings]
    cases o.label <;> rfl
  | format =>
    rw [Settings.text, plainSettings]
    cases o.format <;> rfl

/-- A plain export has the defaults for its settings. -/
lemma Plain.build_loader (h : Plain tree o) :
    o.loader.build tree.look = .ok (plainSettings o) := by
  obtain ⟨s, hload, htext⟩ := Settings.exists_load h.acceptable
  have hs : s = plainSettings o := Settings.eq_of_text fun k => (htext k).trans (h.resolved_eq k)
  rw [← o.load_calls, hload, hs]

/-! ## Formats and tables of a plain export -/

/-- The docx format that an export registers has the place of one that is the same. -/
lemma get_registry_plainSettings (o : ExportOptions) (name : String) :
    (plainSettings o).registry.get name = Registry.standard.get name := by
  rw [Settings.registry, plainSettings, Registry.get, Registry.get,
    Registry.get?_register_of_get? Registry.get?_standard_docx]

lemma serialize_registry_plainSettings (o : ExportOptions) (name : String) (t : Table) :
    (plainSettings o).registry.serialize name t = Registry.standard.serialize name t := by
  rw [Registry.serialize, Registry.serialize, get_registry_plainSettings]

lemma prepare_registry_plainSettings (o : ExportOptions) (p : Publication) :
    p.prepare (plainSettings o).registry = p.prepare .standard := by
  rw [Publication.prepare, Publication.prepare, serialize_registry_plainSettings]

/-- What a plain export asks to publish is what the library has. -/
lemma asked_plainSettings (o : ExportOptions) (fields : List Field) (output : Option String) :
    asked (plainSettings o) fields output =
      ⟨Table.ofFields fields (o.label.getD ""), o.format.getD "docx", output⟩ := rfl

/-! ## Plain exports -/

/-- An export comes to what the library comes to with the same fields and the same label. -/
structure AgreesWithLibrary (tree : Files.Tree) (o : ExportOptions) (fields : List Field)
    (report : Report) (after : Files.Tree) : Prop where
  /-- Without a format, the file that is written is the package of the fields, whose document part
  shows the table. -/
  document : o.format = none → ∀ place, tree.writable (o.output.getD "FieldList.docx") = .ok place →
    report.exit = 0 ∧ tree.Wrote (o.output.getD "FieldList.docx")
        (.package (.ofFields fields (o.label.getD ""))) after ∧
      (Docx.Package.ofFields fields (o.label.getD "")).part? "word/document.xml" =
        some (Docx.documentText .portrait (Table.ofFields fields (o.label.getD "")))
  /-- A text is printed as it is published in memory. -/
  text : ∀ format ∈ ["markdown", "json"], o.format = some format → o.output = none →
    (format = "markdown" → Markdown.Fits (Table.ofFields fields (o.label.getD ""))) → ∃ text,
      Publication.publish ⟨Table.ofFields fields (o.label.getD ""), format, none⟩ .standard tree =
          (.ok (.inMemory text), tree) ∧
        report.exit = 0 ∧ report.stdout = text ∧ after = tree
  /-- Over a preview with a cell that is too long, both panic. -/
  panic : o.format = some "markdown" → o.output = none →
    ¬ Markdown.Fits (Table.ofFields fields (o.label.getD "")) →
      Publication.publish ⟨Table.ofFields fields (o.label.getD ""), "markdown", none⟩ .standard
          tree = (.error (.panicked Text.outOfRange), tree) ∧
        report.exit = 101 ∧ report.stdout = "" ∧ after = tree
  /-- With a path, files are left as they are published, in any format. -/
  file : ∀ path, o.output = some path →
    let published := Publication.publish
      ⟨Table.ofFields fields (o.label.getD ""), o.format.getD "docx", some path⟩ .standard tree
    (report.exit = 0 ↔ ∃ artifact, published.1 = .ok artifact) ∧ after = published.2

variable {fields : List Field} {log : List LogLine} {f : Format}

/-- The document of a plain export is the one that the library's format gives. -/
lemma exported_plainSettings (hget : Registry.standard.get (plainSettings o).format = .ok f) :
    exported (plainSettings o) fields = f.serialize (Table.ofFields fields (o.label.getD "")) := by
  rw [exported, serialize_registry_plainSettings, Registry.serialize, hget]
  rfl

lemma publication_plainSettings (hget : Registry.standard.get (plainSettings o).format = .ok f)
    (houtput : o.output = none) (fields : List Field) :
    o.publication (plainSettings o) fields = .ok (asked (plainSettings o) fields
      (if f.extension = "docx" then some "FieldList.docx" else none)) :=
  publication_of_format fields houtput ((get_registry_plainSettings o _).trans hget)

lemma agrees_document (hformat : o.format = none) {place : List String}
    (hplace : tree.writable (o.output.getD "FieldList.docx") = .ok place) :
    let result := (exportFields o (plainSettings o) fields log).perform tree
    result.1.exit = 0 ∧ tree.Wrote (o.output.getD "FieldList.docx")
      (.package (.ofFields fields (o.label.getD ""))) result.2 := by
  have hget : Registry.standard.get (plainSettings o).format = .ok (.docx .portrait) := by
    rw [plainSettings, hformat, Registry.get, Option.getD_none, Registry.get?_standard_docx]
  have hpublication : o.publication (plainSettings o) fields =
      .ok (asked (plainSettings o) fields (some (o.output.getD "FieldList.docx"))) := by
    cases houtput : o.output with
    | some path => exact publication_to_path houtput
    | none => exact publication_plainSettings hget houtput fields
  intro result
  simp only [result, exportFields_to_path hpublication (exported_plainSettings hget),
    Ending.perform, Files.Tree.write_eq_of_writable hplace]
  exact ⟨rfl, Files.Tree.wrote_insert hplace⟩

section InMemory

variable {format : String} (hget : Registry.standard.get format = .ok f)
  (hformat : o.format = some format) (houtput : o.output = none) (hextension : f.extension ≠ "docx")

include hget

lemma serialize_standard (t : Table) : Registry.standard.serialize format t = f.serialize t := by
  rw [Registry.serialize, hget]
  rfl

include hformat

lemma get_plainSettings_format :
    Registry.standard.get (plainSettings o).format = .ok f := by
  rw [plainSettings, hformat]
  exact hget

include houtput hextension

/-- Without a path, an export in a format other than that of Word files asks for no file. -/
lemma publication_inMemory (fields : List Field) :
    o.publication (plainSettings o) fields = .ok (asked (plainSettings o) fields none) := by
  rw [publication_plainSettings (get_plainSettings_format hget hformat) houtput,
    if_neg hextension]

lemma agrees_text {text : String}
    (htext : f.serialize (Table.ofFields fields (o.label.getD "")) = .ok (.text text)) :
    let result := (exportFields o (plainSettings o) fields log).perform tree
    Publication.publish ⟨Table.ofFields fields (o.label.getD ""), format, none⟩ .standard tree =
        (.ok (.inMemory text), tree) ∧
      result.1.exit = 0 ∧ result.1.stdout = text ∧ result.2 = tree := by
  have hexported : exported (plainSettings o) fields = .ok (.text text) :=
    (exported_plainSettings (get_plainSettings_format hget hformat)).trans htext
  intro result
  refine ⟨Publication.publish_of_text ((serialize_standard hget _).trans htext), ?_⟩
  simp only [result, exportFields_of_text
    (publication_inMemory hget hformat houtput hextension fields) hexported]
  exact ⟨rfl, rfl, rfl⟩

lemma agrees_panic {p : Panic}
    (hpanic : f.serialize (Table.ofFields fields (o.label.getD "")) = .error (.panicked p)) :
    let result := (exportFields o (plainSettings o) fields log).perform tree
    Publication.publish ⟨Table.ofFields fields (o.label.getD ""), format, none⟩ .standard tree =
        (.error (.panicked p), tree) ∧
      result.1.exit = 101 ∧ result.1.stdout = "" ∧ result.2 = tree := by
  have hexported : exported (plainSettings o) fields = .error (.panicked p) :=
    (exported_plainSettings (get_plainSettings_format hget hformat)).trans hpanic
  intro result
  refine ⟨Publication.publish_of_error ((serialize_standard hget _).trans hpanic) none, ?_⟩
  simp only [result, exportFields_of_panic
    (publication_inMemory hget hformat houtput hextension fields) hexported]
  exact ⟨rfl, rfl, rfl⟩

end InMemory

/-- With a path, an export and a publication have the same document to write, or the same cause to
write none. -/
lemma agrees_file {path : String} (houtput : o.output = some path) :
    let result := (exportFields o (plainSettings o) fields log).perform tree
    let published := Publication.publish
      ⟨Table.ofFields fields (o.label.getD ""), o.format.getD "docx", some path⟩ .standard tree
    (result.1.exit = 0 ↔ ∃ artifact, published.1 = .ok artifact) ∧ result.2 = published.2 := by
  intro result published
  simp only [result, published, exportFields, publication_to_path houtput, asked_plainSettings,
    prepare_registry_plainSettings, Publication.publish]
  cases Publication.prepare ⟨Table.ofFields fields (o.label.getD ""), o.format.getD "docx",
      some path⟩ .standard with
  | error fault =>
    cases fault with
    | reported e => simp [Ending.failing, Ending.perform, Report.failing]
    | panicked p => simp [Ending.panicking, Ending.perform, Report.panicking]
  | ok delivery =>
    cases delivery with
    | handBack text =>
      simp [Ending.printing, Ending.perform, Report.printing, Publication.Delivery.perform]
    | write path content =>
      simp only [Ending.perform, Publication.Delivery.perform]
      cases tree.write path content with
      | error cause => simp [reportOnFile, Report.failing]
      | ok after => simp [reportOnFile]

/-- **Exports agree with the library.** Where no file and no option gives other settings, an export
writes the package that the library renders from the same source and label, and prints the text that
the library publishes in memory, or panics as the library does. With a path, it succeeds when the
library publishes, and all files are the same afterwards. -/
theorem export_agrees (hplain : Plain tree o)
    (hsource : (Surroundings.mk tree.look stdin).source o.input = .ok source) (t : Threshold) :
    let result := ((exportEnding ⟨tree.look, stdin⟩ o).above t).perform tree
    AgreesWithLibrary tree o (Source.parseFields source) result.1 result.2 := by
  intro result
  simp only [result, perform_above, exportEnding, hplain.build_loader, hsource]
  exact {
    document := fun hformat _ hplace =>
      ⟨(agrees_document hformat hplace).1, (agrees_document hformat hplace).2, rfl⟩
    text := by
      intro format hmem hformat houtput hfits
      have hname : format = "markdown" ∨ format = "json" := by simpa using hmem
      rcases hname with rfl | rfl
      · exact ⟨_, agrees_text Registry.get_standard_markdown hformat houtput (by decide)
          (Format.serialize_markdown_of_fits (hfits rfl))⟩
      · exact ⟨_, agrees_text Registry.get_standard_json hformat houtput (by decide) rfl⟩
    panic := fun hformat houtput hfits =>
      agrees_panic Registry.get_standard_markdown hformat houtput (by decide)
        (Format.serialize_markdown_of_not_fits hfits)
    file := fun _ houtput => agrees_file houtput }

/-- A labelled export in an empty directory, from the standard input. -/
theorem export_agrees_labelled :
    let source := "@NotNull\nprivate Long id;"
    let tree : Files.Tree := ⟨[], []⟩
    let o : ExportOptions := { label := some "F" }
    let result := ((exportEnding ⟨tree.look, .ofText source⟩ o).above (some .warn)).perform tree
    Plain tree o ∧ (Surroundings.mk tree.look (.ofText source)).source o.input = .ok source ∧
      tree.writable "FieldList.docx" = .ok ["FieldList.docx"] ∧
      AgreesWithLibrary tree o (Source.parseFields source) result.1 result.2 := by
  intro source tree o result
  have hlocal : Settings.find? tree.look localSettings = none :=
    Option.isNone_iff_eq_none.mp (by decide +kernel)
  have hplain : Plain tree o := ⟨hlocal, rfl, rfl⟩
  have hsource : (Surroundings.mk tree.look (.ofText source)).source o.input = .ok source := by
    simp only [o, Surroundings.source, Surroundings.stdinText, Content.text?_ofText]
  exact ⟨hplain, hsource, by decide, export_agrees hplain hsource (some .warn)⟩

end CommandLine

end FieldList
