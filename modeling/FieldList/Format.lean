import FieldList.Files.Tree
import FieldList.Json.Table
import FieldList.Markdown

/-!
# Formats

A format turns a table into a document, which is a text or not, unless a fault keeps it from that.
It is known by its name; its description and the extension of its files are for show and for the
choice of an output file.
-/

namespace FieldList

/-! ## Documents -/

inductive Document where
  | text (s : String)
  | binary (content : Content)

namespace Document

def isBinary : Document → Bool
  | text _ => false
  | binary _ => true

/-- What a file with the document holds. -/
def content : Document → Content
  | text s => .ofText s
  | binary c => c

end Document

/-! ## Errors -/

/-- Why a table cannot be published. -/
inductive FormatError where
  | notFound (format : String)
  | serialization (reason : String)
  | write (path : String) (cause : Files.OpenError)
  deriving DecidableEq, Repr

namespace FormatError

def message : FormatError → String
  | notFound format => "Format '" ++ format ++ "' not found"
  | serialization reason => "Serialization error: " ++ reason
  | write path cause => "Failed to write " ++ path ++ ": " ++ cause.message

end FormatError

/-! ## Faults -/

/-- Why there is no document: an error is reported, or the program panics. -/
inductive Fault where
  | reported (e : FormatError)
  | panicked (p : Panic)
  deriving DecidableEq, Repr

instance : MonadLift (Except FormatError) (Except Fault) := ⟨Except.mapError .reported⟩

instance : MonadLift (Except Panic) (Except Fault) := ⟨Except.mapError .panicked⟩

/-! ## Formats -/

structure Format where
  name : String
  description : String
  extension : String
  serialize : Table → Except Fault Document

namespace Format

/-- A Word file with pages of the given orientation. -/
def docx (o : Docx.Orientation) : Format where
  name := "docx"
  description := "Word document with a field table"
  extension := "docx"
  serialize t := .ok (.binary (.package (.ofTable o t)))

def markdown : Format where
  name := "markdown"
  description := "Markdown pipe table preview"
  extension := "md"
  serialize t := return .text (← Markdown.render t)

def json : Format where
  name := "json"
  description := "Field table as JSON"
  extension := "json"
  serialize t := .ok (.text t.toJson.pretty)

end Format

end FieldList
