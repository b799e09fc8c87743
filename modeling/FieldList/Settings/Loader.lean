import FieldList.Files.Tree
import FieldList.Settings.Decode
import FieldList.Toml.Reader

/-!
# Loading settings

The settings start from defaults. Files are laid over them in the order in which they were named,
and single values over the files, whatever the order in which files and values were named. A file
may be named without the extension `.toml`; a required one that is missing is an error.
-/

namespace FieldList.Settings

/-! ## Layers -/

structure FileLayer where
  path : String
  required : Bool
  deriving DecidableEq, Repr

structure Loader where
  files : List FileLayer
  overrides : List (KeyPath × Value)

/-- The value under all layers. It repeats the title that a table has by itself. -/
def defaults : Value :=
  .table none [
    ("document", .table none [
      ("title", .ofText "Danh sách trường dữ liệu"),
      ("file_name", .ofText "FieldList.docx"),
      ("orientation", .ofText "portrait")]),
    ("export", .table none [
      ("label_prefix", .ofText ""),
      ("format", .ofText "docx")])]

/-! ## Finding files -/

/-- The names of a path as they are shown: those that stay where they are left out. -/
def shownPath (path : String) : String :=
  "/".intercalate ((Files.Path.namesOf path).filter (· ≠ "."))

/-- The path with the extension added to its last name, if that names a file. -/
def withExtension (path : String) : Option String :=
  let names := (Files.Path.namesOf path).filter (· ≠ ".")
  match names.getLast? with
  | none => none
  | some ".." => none
  | some _ =>
    let start := if path.toList.head? = some '/' then "/" else ""
    some (start ++ "/".intercalate names ++ ".toml")

/-- The content of the file at a path. -/
def fileAt? (view : Files.View) (path : String) : Option Content :=
  match view path with
  | .ok (.file content) => some content
  | _ => none

/-- The file that a layer names, and the path at which it was found. -/
def find? (view : Files.View) (path : String) : Option (String × Content) :=
  match fileAt? view path with
  | some content => some (path, content)
  | none => do
    let longer ← withExtension path
    some (longer, ← fileAt? view longer)

/-! ## Reading files -/

/-- The value with a file laid over it. An optional file that is missing or is no text is passed
over; one that is malformed is not. -/
def applyFile (view : Files.View) (root : Value) (layer : FileLayer) :
    Except SettingsError Value :=
  match find? view layer.path with
  | none => if layer.required then .error (.fileNotFound layer.path) else .ok root
  | some (path, content) =>
    match content.text? with
    | none => if layer.required then .error .notUtf8 else .ok root
    | some text =>
      match Toml.read text with
      | none => .error (.malformed (shownPath path))
      | some entries =>
        .ok (root.overlayFile (Value.ofTomlEntries (some (shownPath path)) entries))

namespace Loader

/-- No layer over the defaults. -/
def start : Loader := ⟨[], []⟩

def withFile (l : Loader) (path : String) : Loader :=
  { l with files := l.files ++ [⟨path, true⟩] }

def withOptionalFile (l : Loader) (path : String) : Loader :=
  { l with files := l.files ++ [⟨path, false⟩] }

/-- Adds a single value over all files. -/
def withValue (l : Loader) (path : KeyPath) (v : Value) : Loader :=
  { l with overrides := l.overrides ++ [(path, v)] }

/-- Adds a single value over all files, at the place that a key path names. -/
def withOverride (l : Loader) (key : String) (v : Value) : Except SettingsError Loader :=
  match KeyPath.parse key with
  | .ok path => .ok (l.withValue path v)
  | .error e => .error (.key e)

/-- All layers in one value. -/
def merged (l : Loader) (view : Files.View) : Except SettingsError Value := do
  let root ← l.files.foldlM (applyFile view) defaults
  return l.overrides.foldl (fun root (path, v) => root.overlayAt path v) root

/-- Every path at which the files are looked for. -/
def consulted (l : Loader) : List String :=
  l.files.flatMap fun layer => layer.path :: (withExtension layer.path).toList

/-- The settings that all layers give together. -/
def build (l : Loader) (view : Files.View) : Except SettingsError Settings := do
  decode (← l.merged view)

end Loader

end FieldList.Settings
