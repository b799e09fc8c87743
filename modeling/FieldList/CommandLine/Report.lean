import FieldList.CommandLine.Failure
import FieldList.CommandLine.Log
import FieldList.Files.Tree

/-!
# Reports

What a run leaves behind: its exit code, what it printed, and its log. A run writes at most one
file, as its last step; the report then depends on whether the file could be opened.
-/

namespace FieldList.CommandLine

structure Report where
  exit : Nat
  stdout : String
  stderr : String
  log : List LogLine
  deriving DecidableEq, Repr

namespace Report

/-- The report of a run that gives nothing but a text. -/
def printing (text : String) (log : List LogLine) : Report := ⟨0, text, "", log⟩

def failing (f : Failure) (log : List LogLine) : Report := ⟨1, "", f.message, log⟩

/-- The report of a run that panics, without the place in the program where it does. -/
def panicking (p : Panic) (log : List LogLine) : Report := ⟨101, "", p.message ++ "\n", log⟩

/-- The report with only the log lines that a threshold admits. -/
def above (r : Report) (t : Threshold) : Report := { r with log := r.log.filter t.admits }

end Report

/-- What is left to do when everything is decided. -/
inductive Ending where
  | finished (report : Report)
  | writing (path : String) (content : Content) (report : Except Files.OpenError Unit → Report)

namespace Ending

def printing (text : String) (log : List LogLine) : Ending := finished (.printing text log)

def failing (f : Failure) (log : List LogLine) : Ending := finished (.failing f log)

def panicking (p : Panic) (log : List LogLine) : Ending := finished (.panicking p log)

def above (t : Threshold) : Ending → Ending
  | finished report => finished (report.above t)
  | writing path content report => writing path content fun outcome => (report outcome).above t

/-- Carries the ending out: the report, and the files afterwards. -/
def perform (tree : Files.Tree) : Ending → Report × Files.Tree
  | finished report => (report, tree)
  | writing path content report =>
    match tree.write path content with
    | .ok after => (report (.ok ()), after)
    | .error e => (report (.error e), tree)

end Ending

end FieldList.CommandLine
