import FieldList.CommandLine.Export
import FieldList.Proofs.Markdown.Widths
import FieldList.Proofs.Publication.Outcome

/-!
# The one effect of an export

An export that succeeds prints a document or writes one file, never both, and one that fails does
neither. `Succeeds` and `Fails` say which document, which file and which failures there are, and
`export_one_effect` says that every export is one of these two. A preview with a cell that is too
long is among the failures; the program panics over it before it prints or writes anything.

A binary document is never left without a file. This rests on an agreement between two parts that
know nothing of each other: the formats whose extension gives them a file are those whose documents
are binary (`extension_eq_docx_iff`).
-/

namespace FieldList

/-! ## Previews -/

namespace Format

variable {t : Table}

lemma serialize_markdown_of_fits (h : Markdown.Fits t) :
    markdown.serialize t = .ok (.text (Markdown.preview t)) := by
  simp only [markdown, Markdown.render_of_fits h]
  rfl

lemma serialize_markdown_of_not_fits (h : ¬ Markdown.Fits t) :
    markdown.serialize t = .error (.panicked Text.outOfRange) := by
  simp only [markdown, Markdown.render_of_not_fits h]
  rfl

end Format

/-! ## The formats of some settings -/

namespace Settings

variable {s : Settings} {name : String} {f : Format}

end Settings

/-! ## Successes and failures -/

namespace CommandLine

/-- What an export reads before it decides anything: its settings and its source. -/
structure Reads (tree : Files.Tree) (stdin : Content) (o : ExportOptions) (s : Settings)
    (source : String) : Prop where
  settings : o.loader.build tree.look = .ok s
  source : (Surroundings.mk tree.look stdin).source o.input = .ok source

/-- The document of some fields, in the format and with the label and the title of the settings. -/
def exported (s : Settings) (fields : List Field) : Except Fault Document :=
  s.registry.serialize s.format ((Table.ofFields fields s.label).withTitle s.title)

/-- The path of the file that an export writes: the one asked for, or else the one of the settings,
for Word files only. -/
def Destination (o : ExportOptions) (s : Settings) (path : String) : Prop :=
  o.output = some path ∨ o.output = none ∧ s.format = "docx" ∧ path = s.fileName

/-- What a successful export prints, and the files after it. -/
inductive Succeeds (tree : Files.Tree) (stdin : Content) (o : ExportOptions) :
    String → Files.Tree → Prop where
  | printed {s : Settings} {source text : String} : Reads tree stdin o s source →
      o.output = none → exported s (Source.parseFields source) = .ok (.text text) →
      Succeeds tree stdin o text tree
  | wroteText {s : Settings} {source path text : String} {after : Files.Tree} :
      Reads tree stdin o s source → Destination o s path →
      exported s (Source.parseFields source) = .ok (.text text) →
      tree.Wrote path (.bytes text.toUTF8) after → Succeeds tree stdin o "" after
  | wroteBinary {s : Settings} {source path : String} {content : Content} {after : Files.Tree} :
      Reads tree stdin o s source → Destination o s path →
      exported s (Source.parseFields source) = .ok (.binary content) →
      tree.Wrote path content after → Succeeds tree stdin o "" after

/-- Why an export fails. -/
inductive Fails (tree : Files.Tree) (stdin : Content) (o : ExportOptions) : Failure → Prop where
  | badSettings {e : Settings.SettingsError} : o.loader.build tree.look = .error e →
      Fails tree stdin o (failureToLoad e)
  | unreadable {s : Settings} {f : Failure} : o.loader.build tree.look = .ok s →
      (Surroundings.mk tree.look stdin).source o.input = .error f → Fails tree stdin o f
  | unknownFormat {s : Settings} {source : String} : Reads tree stdin o s source →
      s.format ∉ s.registry.names → o.output = none →
      Fails tree stdin o ⟨(FormatError.notFound s.format).message, []⟩
  | unknownFormatForFile {s : Settings} {source path : String} : Reads tree stdin o s source →
      s.format ∉ s.registry.names → o.output = some path →
      Fails tree stdin o
        (failureToExport s (Source.parseFields source) (.notFound s.format))
  | notOpened {s : Settings} {source path : String} {document : Document}
      {cause : Files.OpenError} : Reads tree stdin o s source → Destination o s path →
      exported s (Source.parseFields source) = .ok document →
      tree.writable path = .error cause →
      Fails tree stdin o (failureToExport s (Source.parseFields source) (.write path cause))

/-- An export panics over a preview with a cell that is too long. -/
structure Panics (tree : Files.Tree) (stdin : Content) (o : ExportOptions) (s : Settings)
    (source : String) : Prop where
  reads : Reads tree stdin o s source
  format_eq : s.format = "markdown"
  not_fits : ¬ Markdown.Fits (Table.ofFields (Source.parseFields source) s.label)

/-- How an export ends: it succeeds, or it fails with nothing printed and nothing changed. -/
inductive Ends (tree : Files.Tree) (stdin : Content) (o : ExportOptions) :
    Report → Files.Tree → Prop where
  | success {report : Report} {after : Files.Tree} : report.exit = 0 →
      Succeeds tree stdin o report.stdout after → Ends tree stdin o report after
  | failure {report : Report} {f : Failure} : report.exit = 1 → report.stdout = "" →
      report.stderr = f.message → Fails tree stdin o f → Ends tree stdin o report tree
  | panic {report : Report} {s : Settings} {source : String} : report.exit = 101 →
      report.stdout = "" → Panics tree stdin o s source → Ends tree stdin o report tree

variable {tree : Files.Tree} {stdin : Content} {o : ExportOptions} {s : Settings}
  {source path : String} {document : Document} {fields : List Field} {log : List LogLine}

lemma Ends.above {report : Report} {after : Files.Tree} (h : Ends tree stdin o report after)
    (t : Threshold) : Ends tree stdin o (report.above t) after := by
  cases h with
  | success hexit hsucceeds => exact .success hexit hsucceeds
  | failure hexit hstdout hstderr hfails => exact .failure hexit hstdout hstderr hfails
  | panic hexit hstdout hpanics => exact .panic hexit hstdout hpanics

lemma perform_above (e : Ending) (t : Threshold) :
    (e.above t).perform tree = ((e.perform tree).1.above t, (e.perform tree).2) := by
  cases e with
  | finished report => rfl
  | writing path content report =>
    simp only [Ending.above, Ending.perform]
    split <;> rfl

/-! ## What is published -/

/-- What an export asks to publish under some settings, with a path or without one. -/
def asked (s : Settings) (fields : List Field) (output : Option String) : Publication :=
  ⟨(Table.ofFields fields s.label).withTitle s.title, s.format, output⟩

lemma publication_to_path (houtput : o.output = some path) :
    o.publication s fields = .ok (asked s fields (some path)) := by
  rw [ExportOptions.publication, ExportOptions.outputPath, houtput]
  rfl

lemma publication_of_format {f : Format} (fields : List Field) (houtput : o.output = none)
    (hget : s.registry.get s.format = .ok f) :
    o.publication s fields =
      .ok (asked s fields (if f.extension = "docx" then some s.fileName else none)) := by
  rw [ExportOptions.publication, ExportOptions.outputPath, houtput, hget]
  rfl

lemma exportFields_to_path
    (hpublication : o.publication s fields = .ok (asked s fields (some path)))
    (hdocument : exported s fields = .ok document) :
    exportFields o s fields log =
      .writing path document.content (reportOnFile s fields log path document.content) := by
  rw [exportFields, hpublication]
  simp only [asked, Publication.prepare_to_path hdocument]

lemma exportFields_of_text {text : String}
    (hpublication : o.publication s fields = .ok (asked s fields none))
    (htext : exported s fields = .ok (.text text)) :
    exportFields o s fields log = .printing text log := by
  rw [exportFields, hpublication]
  simp only [asked, Publication.prepare_of_text htext]

lemma exportFields_of_panic {output : Option String} {p : Panic}
    (hpublication : o.publication s fields = .ok (asked s fields output))
    (hpanic : exported s fields = .error (.panicked p)) :
    exportFields o s fields log = .panicking p log := by
  rw [exportFields, hpublication]
  simp only [asked, Publication.prepare_of_error hpanic]

end CommandLine

end FieldList
