import FieldList.CommandLine.Arguments
import FieldList.Text.Padding

/-!
# Help

What a scope has to offer: its commands, its input and its options, each with a few words.
-/

namespace FieldList.CommandLine

/-! ## Descriptions -/

def Slot.about : Slot → String
  | config => "Additional configuration file (TOML), layered over fieldsheet.toml"
  | label => "Prefix for the STT column, rows are numbered `<label>.<n>`"
  | output => "Output path (defaults to the configured file name for docx, stdout for text formats)"
  | format => "Output format (docx, markdown, json)"
  | orientation => "Page orientation for docx output (portrait, landscape)"
  | input => "Input file, or `-` for stdin"

def Switch.about : Switch → String
  | verbose => "Increase log verbosity (-v debug, -vv trace)"
  | help => "Print help"
  | version => "Print version"

def Flag.about : Flag → String
  | value s => s.about
  | switch s => s.about

def CommandWord.about : CommandWord → String
  | document => "Parse the input and write the field list document"
  | fields => "Print the parsed fields without writing a document"
  | formats => "List available output formats"

/-- An option with its letter, or with the room for one. -/
def Flag.shown (f : Flag) : String :=
  (match f.letter? with
    | some c => String.ofList ['-', c, ',', ' ']
    | none => "    ") ++ f.usage

/-! ## Texts -/

/-- Terms with what they mean, in two columns under a heading. -/
def helpSection (heading : String) (terms : List (String × String)) : String :=
  let width := (terms.map (·.1.length)).foldl max 0
  "\n" ++ heading ++ ":\n" ++ String.join (terms.map fun (term, about) =>
    "  " ++ String.ofList (Text.padRight width term.toList) ++ "  " ++ about ++ "\n")

def Scope.about : Scope → String
  | program => purpose
  | command c => c.about

/-- How a command line of the scope is put together. -/
def Scope.usage : Scope → String
  | program => "fieldsheet [OPTIONS] <COMMAND>"
  | command c =>
    "fieldsheet " ++ c.word ++ " [OPTIONS]" ++
      (if (command c).takesInput then " " ++ Slot.input.usage else "")

/-- The help text of a scope. -/
def Scope.help (s : Scope) : String :=
  s.about ++ "\n\nUsage: " ++ s.usage ++ "\n" ++
    (if s = .program then
      helpSection "Commands" (CommandWord.all.map (fun c => (c.word, c.about)) ++
        [(helpWord, "Print this message or the help of the given subcommand(s)")])
    else "") ++
    (if s.takesInput then helpSection "Arguments" [(Slot.input.usage, Slot.input.about)]
    else "") ++
    helpSection "Options" (s.flags.map fun f => (f.shown, f.about))

end FieldList.CommandLine
