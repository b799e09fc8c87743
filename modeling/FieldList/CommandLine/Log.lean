/-!
# Log lines

What the program tells about its work besides its results. Each line has a severity, and a
threshold says down to which severity lines are shown.
-/

namespace FieldList.CommandLine

inductive Severity where
  | error
  | warn
  | info
  | debug
  | trace
  deriving DecidableEq, Repr

namespace Severity

def all : List Severity := [error, warn, info, debug, trace]

def name : Severity → String
  | error => "error"
  | warn => "warn"
  | info => "info"
  | debug => "debug"
  | trace => "trace"

/-- Greater for what matters less. -/
def rank : Severity → Nat
  | error => 1
  | warn => 2
  | info => 3
  | debug => 4
  | trace => 5

end Severity

structure LogLine where
  severity : Severity
  text : String
  deriving DecidableEq, Repr

def LogLine.shown (line : LogLine) : String := line.severity.name.toUpper ++ " " ++ line.text

/-! ## Thresholds -/

/-- The least severity shown; nothing is shown without one. -/
abbrev Threshold := Option Severity

namespace Threshold

def admits (t : Threshold) (line : LogLine) : Bool :=
  t.any fun least => line.severity.rank ≤ least.rank

/-- The threshold for a count of requests to tell more. -/
def ofVerbosity : Nat → Threshold
  | 0 => some .warn
  | 1 => some .debug
  | _ => some .trace

/-- The threshold that a filter gives: the name or the rank of a severity. An empty filter admits
errors, and any other word nothing. -/
def ofFilter (filter : String) : Threshold :=
  if filter = "" then some .error
  else Severity.all.find? fun s => filter.toLower = s.name || filter = s.rank.repr

/-- A filter takes the place of all requests to tell more. -/
def choose (filter : Option String) (verbosity : Nat) : Threshold :=
  match filter with
  | some filter => ofFilter filter
  | none => ofVerbosity verbosity

end Threshold

end FieldList.CommandLine
