import FieldList.Text.Padding

/-!
# Failures

A failure is told by what could not be done and by the chain of its causes, each the cause of the
one before. More than one cause are numbered, and further lines of a cause are indented below its
first.
-/

namespace FieldList.CommandLine

structure Failure where
  headline : String
  causes : List String
  deriving DecidableEq, Repr

namespace Failure

/-- A text with all lines but the first moved to the right. -/
def indented (width : Nat) (s : String) : String :=
  String.ofList (s.toList.flatMap fun c =>
    if c = '\n' then c :: List.replicate width ' ' else [c])

/-- A cause with its number, which ends in the fifth column. -/
def numberedCause (n : Nat) (cause : String) : String :=
  String.ofList (Text.padLeft 5 n.repr.toList) ++ ": " ++ indented 7 cause ++ "\n"

def numberedCauses (n : Nat) : List String → String
  | [] => ""
  | cause :: rest => numberedCause n cause ++ numberedCauses (n + 1) rest

def shownCauses : List String → String
  | [] => ""
  | [cause] => "\nCaused by:\n    " ++ indented 4 cause ++ "\n"
  | causes => "\nCaused by:\n" ++ numberedCauses 0 causes

def message (f : Failure) : String := "Error: " ++ f.headline ++ "\n" ++ shownCauses f.causes

end Failure

end FieldList.CommandLine
