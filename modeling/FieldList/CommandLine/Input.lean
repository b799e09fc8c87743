import FieldList.CommandLine.Failure
import FieldList.Files.Tree

/-!
# Input

The source of a run is a file or the standard input, and must be UTF-8.
-/

namespace FieldList.CommandLine

/-- What a run finds around it. -/
structure Surroundings where
  view : Files.View
  stdin : Content

/-- Whether a path stands for the standard input: a dash, which a slash or a point that stays where
it is may follow. -/
def namesStdin (path : String) : Bool :=
  match Files.Path.pieces path.toList with
  | [] => false
  | first :: rest => first = ['-'] && rest.all fun piece => piece = [] || piece = ['.']

/-- Why a content that is no text cannot be a source. -/
def notUtf8 : String := "stream did not contain valid UTF-8"

def failureToRead (what cause : String) : Failure := ⟨"Failed to read " ++ what, [cause]⟩

namespace Surroundings

def stdinText (s : Surroundings) : Except Failure String :=
  match s.stdin.text? with
  | some text => .ok text
  | none => .error (failureToRead "stdin" notUtf8)

def fileText (s : Surroundings) (path : String) : Except Failure String :=
  match s.view path with
  | .error e => .error (failureToRead path e.message)
  | .ok .directory => .error ⟨path ++ " is a directory", []⟩
  | .ok (.file content) =>
    match content.text? with
    | some text => .ok text
    | none => .error (failureToRead path notUtf8)

/-- The source that an input argument names. -/
def source (s : Surroundings) (input : Option String) : Except Failure String :=
  match input with
  | none => s.stdinText
  | some path => if namesStdin path then s.stdinText else s.fileText path

end Surroundings

end FieldList.CommandLine
