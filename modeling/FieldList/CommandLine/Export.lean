import FieldList.CommandLine.Arguments
import FieldList.CommandLine.Input
import FieldList.CommandLine.Report
import FieldList.CommandLine.SourceLog
import FieldList.Publish
import FieldList.Settings.Loader
import FieldList.Settings.Publication

/-!
# Export

The settings come from a local file, from a file that an option names and from single options. With
them the fields of the source become a table, which is published in the format of the settings. A
format whose files are Word files has an output path in the settings; any other is printed unless a
path is given.
-/

namespace FieldList.CommandLine

/-! ## Settings -/

/-- The file of settings that is read wherever it is found. -/
def localSettings : String := "fieldsheet.toml"

namespace ExportOptions

/-- The single values that the options put over all files. -/
def values (o : ExportOptions) : List (Settings.KeyPath × String) :=
  [(⟨"export", [.key "label_prefix"]⟩, o.label),
    (⟨"export", [.key "format"]⟩, o.format),
    (⟨"document", [.key "orientation"]⟩, o.orientation)].filterMap
      fun (path, value?) => value?.map (path, ·)

/-- The layers of the settings. -/
def loader (o : ExportOptions) : Settings.Loader :=
  let files := Settings.Loader.start.withOptionalFile localSettings
  let files := o.config.elim files files.withFile
  o.values.foldl (fun l (path, text) => l.withValue path (.ofText text)) files

/-! ## Publication -/

/-- The path of the file to write, if one is written. -/
def outputPath (o : ExportOptions) (s : Settings) : Except FormatError (Option String) :=
  match o.output with
  | some path => .ok (some path)
  | none => do
    let format ← s.registry.get s.format
    return if format.extension = "docx" then some s.fileName else none

def publication (o : ExportOptions) (s : Settings) (fields : List Field) :
    Except FormatError Publication := do
  return ⟨s.table fields, s.format, ← o.outputPath s⟩

end ExportOptions

/-! ## Failures -/

/-- An error with its own cause after it, if it has one. -/
def causesOf (e : FormatError) : List String :=
  match e with
  | .write _ cause => [e.message, cause.message]
  | .notFound _ | .serialization _ => [e.message]

def failureToLoad (e : Settings.SettingsError) : Failure :=
  ⟨"Failed to load configuration", [e.message]⟩

def failureToExport (s : Settings) (fields : List Field) (e : FormatError) : Failure :=
  ⟨"Failed to export " ++ fields.length.repr ++ " fields as " ++ s.format, causesOf e⟩

/-! ## Endings -/

def LogLine.noFields : LogLine := ⟨.warn, "no field declarations found in input"⟩

/-- The log of a file that was written. -/
def LogLine.ofFile (path : String) (content : Content) (fields : List Field) : List LogLine :=
  [⟨.info, "wrote field list path=" ++ path ++ " bytes=" ++ content.toBytes.size.repr⟩,
    ⟨.info, "export complete fields=" ++ fields.length.repr⟩]

/-- The report of an export that writes a file. -/
def reportOnFile (s : Settings) (fields : List Field) (log : List LogLine) (path : String)
    (content : Content) : Except Files.OpenError Unit → Report
  | .ok () => {
      exit := 0
      stdout := ""
      stderr := "Wrote " ++ fields.length.repr ++ " fields to " ++ path ++ "\n"
      log := log ++ LogLine.ofFile path content fields }
  | .error cause => .failing (failureToExport s fields (.write path cause)) log

/-- The export of some fields, after what was logged so far. -/
def exportFields (o : ExportOptions) (s : Settings) (fields : List Field) (log : List LogLine) :
    Ending :=
  match o.publication s fields with
  | .error e => .failing ⟨e.message, []⟩ log
  | .ok p =>
    match p.prepare s.registry with
    | .error (.reported e) => .failing (failureToExport s fields e) log
    | .error (.panicked p) => .panicking p log
    | .ok (.handBack text) => .printing text log
    | .ok (.write path content) => .writing path content (reportOnFile s fields log path content)

/-- What an export comes to. -/
def exportEnding (around : Surroundings) (o : ExportOptions) : Ending :=
  match o.loader.build around.view with
  | .error e => .failing (failureToLoad e) []
  | .ok s =>
    match around.source o.input with
    | .error f => .failing f []
    | .ok source =>
      let fields := Source.parseFields source
      let log := LogLine.ofSource source ++ if fields.isEmpty then [.noFields] else []
      exportFields o s fields log

end FieldList.CommandLine
