import FieldList.CommandLine.Export
import FieldList.CommandLine.Help
import FieldList.Listing

/-!
# Runs

A whole run, from the words of the command line to its report and the files afterwards. Everything
but the writing of one file is decided from the words, the surroundings and the log filter alone.
-/

namespace FieldList.CommandLine

def versionText : String := "fieldsheet 0.1.0\n"

/-- The ending of a run whose words end it. -/
def Stop.ending : Stop → Ending
  | .error e => .finished ⟨2, "", e.message ++ "\n", []⟩
  | .help scope => .printing scope.help []
  | .version => .printing versionText []

/-- The listing of the fields of an input. -/
def fieldsEnding (around : Surroundings) (input : Option String) : Ending :=
  match around.source input with
  | .error f => .failing f []
  | .ok source =>
    .printing (Field.listing (Source.parseFields source)) (LogLine.ofSource source)

/-- The listing of the formats that are always there. -/
def formatsEnding : Ending := .printing Registry.standard.listing []

namespace Command

def ending (around : Surroundings) : Command → Ending
  | .document options => exportEnding around options
  | .fields input => fieldsEnding around input
  | .formats => formatsEnding

/-- The input that a command reads, if it reads one. -/
def input? : Command → Option (Option String)
  | .document options => some options.input
  | .fields input => some input
  | .formats => none

/-- Whether a command reads the standard input. -/
def readsStdin (c : Command) : Bool :=
  match c.input? with
  | none => false
  | some none => true
  | some (some path) => namesStdin path

/-- Every path that a command looks at. -/
def consulted (c : Command) : List String :=
  c.input?.join.toList ++ match c with
    | .document options => options.loader.consulted
    | _ => []

end Command

/-- What a command line comes to. -/
def ending (around : Surroundings) (filter : Option String) (words : List String) : Ending :=
  match Invocation.ofWords words with
  | .error stop => stop.ending
  | .ok i => (i.command.ending around).above (.choose filter i.verbosity)

/-- Runs a command line on a tree of files. -/
def run (tree : Files.Tree) (stdin : Content) (filter : Option String) (words : List String) :
    Report × Files.Tree :=
  (ending ⟨tree.look, stdin⟩ filter words).perform tree

end FieldList.CommandLine
