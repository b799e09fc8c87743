import FieldList.Registry

/-!
# Publishing

A table is turned into a document in the format asked for. With an output path the document becomes
the content of that file; without one it must be a text, and is handed back. A file is opened only
once its content is complete, so a failure leaves all files as they were.
-/

namespace FieldList

/-- What is to be published, and where to. -/
structure Publication where
  table : Table
  format : String
  output : Option String

namespace Publication

def withOutput (p : Publication) (path : String) : Publication := { p with output := some path }

/-- What is left to do with a finished document. -/
inductive Delivery where
  | handBack (text : String)
  | write (path : String) (content : Content)

/-- What to do with the document, or why there is none. -/
def prepare (p : Publication) (r : Registry) : Except Fault Delivery := do
  let document ← r.serialize p.format p.table
  match p.output, document with
  | some path, document => return .write path document.content
  | none, .text s => return .handBack s
  | none, .binary _ => throw (.reported (.serialization "binary formats require an explicit output path"))

/-- What was published. -/
inductive Artifact where
  | inMemory (text : String)
  | file (path : String)
  deriving DecidableEq, Repr

/-- Carries a delivery out. -/
def Delivery.perform (tree : Files.Tree) : Delivery → Except Fault Artifact × Files.Tree
  | .handBack text => (.ok (.inMemory text), tree)
  | .write path content =>
    match tree.write path content with
    | .ok after => (.ok (.file path), after)
    | .error cause => (.error (.reported (.write path cause)), tree)

/-- Publishes with the formats of a registry: the outcome, and the files afterwards. -/
def publish (p : Publication) (r : Registry) (tree : Files.Tree) :
    Except Fault Artifact × Files.Tree :=
  match p.prepare r with
  | .ok delivery => delivery.perform tree
  | .error e => (.error e, tree)

end Publication

end FieldList
