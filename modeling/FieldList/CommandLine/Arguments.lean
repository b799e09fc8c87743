import FieldList.CommandLine.Options
import FieldList.Text.Terminal

/-!
# Arguments

The words of a command line are read from left to right, and the first fault ends the reading. An
option that takes a value waits for it in the next word, unless the value is attached. A value is
settled when the next option or input follows it or the words end: only then it is seen whether it
is there, whether it was given before, and whether it may be empty. After `--` every word is an
input.

A fault is told in one line with the user's own words in a colour, of which the plain text is left:
what a terminal would obey in a word is not shown, and ends with the word.
-/

namespace FieldList.CommandLine

/-! ## Outcomes -/

/-- What is wrong with a command line. -/
inductive ArgumentError where
  | unexpectedArgument (word : String)
  | unexpectedValue (value : String) (switch : Switch)
  | unknownCommand (word : String)
  | missingValue (slot : Slot)
  | repeated (slot : Slot)
  | missingCommand
  /-- nothing was said at all -/
  | nothingGiven
  deriving DecidableEq, Repr

/-- What the program is for. -/
def purpose : String := "Turn annotated Java fields into a field list document"

namespace ArgumentError

/-- A word as it stands in a fault: in yellow, between quotes. -/
def emphasised (word : String) : String := "'\x1b[33m" ++ word ++ "\x1b[0m'"

/-- The fault in the words of a terminal. -/
def coloured : ArgumentError → String
  | unexpectedArgument word => "error: unexpected argument " ++ emphasised word ++ " found"
  | unexpectedValue value switch =>
    "error: unexpected value " ++ emphasised value ++ " for '" ++ switch.usage ++
      "' found; no more were expected"
  | unknownCommand word => "error: unrecognized subcommand " ++ emphasised word
  | missingValue slot =>
    "error: a value is required for '" ++ slot.usage ++ "' but none was supplied"
  | repeated slot =>
    "error: the argument '" ++ slot.usage ++ "' cannot be used multiple times"
  | missingCommand => "error: 'fieldsheet' requires a subcommand but one was not provided"
  | nothingGiven => purpose

def message (e : ArgumentError) : String := Text.Terminal.plain e.coloured

end ArgumentError

/-- Why a reading ends before the last word. -/
inductive Stop where
  | error (e : ArgumentError)
  | help (scope : Scope)
  | version
  deriving DecidableEq, Repr

/-- The arguments of an export. -/
structure ExportOptions where
  config : Option String := none
  input : Option String := none
  label : Option String := none
  output : Option String := none
  format : Option String := none
  orientation : Option String := none
  deriving DecidableEq, Repr

inductive Command where
  | document (options : ExportOptions)
  | fields (input : Option String)
  | formats
  deriving DecidableEq, Repr

/-- A whole command line: what to do, and how much to tell about it. -/
structure Invocation where
  command : Command
  verbosity : Nat
  deriving DecidableEq, Repr

/-! ## Readings -/

/-- A value that is not settled. -/
inductive Unsettled where
  | nothing
  | awaited (slot : Slot)
  | given (slot : Slot) (value : String)
  deriving DecidableEq, Repr

/-- What the words of a scope have said so far. -/
structure Reading where
  settled : List (Slot × String) := []
  unsettled : Unsettled := .nothing
  verbosity : Nat := 0
  onlyInputs : Bool := false
  deriving DecidableEq, Repr

namespace Reading

def value? (r : Reading) (slot : Slot) : Option String := r.settled.lookup slot

/-- Whether an input was given, settled or not. -/
def hasInput (r : Reading) : Bool :=
  (r.value? .input).isSome || match r.unsettled with
    | .given .input _ => true
    | _ => false

/-- Whether the next word is a value, whatever word it is. -/
def awaitsValue (r : Reading) : Bool :=
  match r.unsettled with
  | .awaited _ => true
  | _ => false

/-- The reading with a value accepted. -/
def accept (r : Reading) (slot : Slot) (value : String) : Except Stop Reading :=
  if (r.value? slot).isSome then .error (.error (.repeated slot))
  else if slot.isPath && value = "" then .error (.error (.missingValue slot))
  else .ok { r with settled := (slot, value) :: r.settled }

/-- The reading with nothing unsettled. -/
def settle (r : Reading) : Except Stop Reading :=
  match r.unsettled with
  | .nothing => .ok r
  | .awaited slot => .error (.error (.missingValue slot))
  | .given slot value => { r with unsettled := .nothing }.accept slot value

/-! ## Single words -/

/-- The reading after a switch. -/
def takeSwitch (scope : Scope) (r : Reading) (switch : Switch) : Except Stop Reading := do
  let r ← r.settle
  match switch with
  | .verbose => return { r with verbosity := r.verbosity + 1 }
  | .help => throw (.help scope)
  | .version => throw .version

/-- The reading after an option whose value is attached to it, or else comes next. -/
def takeOption (r : Reading) (slot : Slot) (attached : Option String) : Except Stop Reading := do
  let r ← r.settle
  match attached with
  | some value => r.accept slot value
  | none => return { r with unsettled := .awaited slot }

/-- A text up to the first equals sign, and what follows the sign. -/
def splitAtEquals : List Char → List Char × Option (List Char)
  | [] => ([], none)
  | c :: rest =>
    if c = '=' then ([], some rest)
    else let (name, value) := splitAtEquals rest; (c :: name, value)

theorem eq_notMem_fst_splitAtEquals (s : List Char) : '=' ∉ (splitAtEquals s).1 := by
  induction s with
  | nil => simp [splitAtEquals]
  | cons c rest ih =>
    by_cases hc : c = '='
    · simp [splitAtEquals, hc]
    · simp [splitAtEquals, hc, ih, Ne.symm hc]

/-- Nothing is lost but the sign. -/
theorem splitAtEquals_append (s : List Char) :
    (splitAtEquals s).1 ++ (splitAtEquals s).2.elim [] ('=' :: ·) = s := by
  induction s with
  | nil => rfl
  | cons c rest ih =>
    by_cases hc : c = '='
    · simp [splitAtEquals, hc]
    · simpa [splitAtEquals, hc] using ih

/-- The reading after a word that starts with two dashes. -/
def takeLong (scope : Scope) (r : Reading) (text : List Char) : Except Stop Reading :=
  let (name, value) := splitAtEquals text
  let name := String.ofList name
  let value := value.map String.ofList
  match scope.flagNamed? name, value with
  | none, _ => .error (.error (.unexpectedArgument ("--" ++ name)))
  | some (.value slot), value => r.takeOption slot value
  | some (.switch s), none => r.takeSwitch scope s
  | some (.switch s), some value => .error (.error (.unexpectedValue value s))

/-- The value attached to a letter, after an optional equals sign. -/
def attachedTo : List Char → Option String
  | [] => none
  | '=' :: value => some (String.ofList value)
  | value => some (String.ofList value)

/-- The reading after the letters that follow a single dash. The first that takes a value takes the
rest of the word. -/
def takeLetters (scope : Scope) (r : Reading) : List Char → Except Stop Reading
  | [] => .ok r
  | c :: rest =>
    match scope.flagLettered? c with
    | none => .error (.error (.unexpectedArgument (String.ofList ['-', c])))
    | some (.value slot) => r.takeOption slot (attachedTo rest)
    | some (.switch s) => do takeLetters scope (← r.takeSwitch scope s) rest

/-- Why a word that is neither option nor value has no place. -/
def misplaced (scope : Scope) (r : Reading) (word : String) : ArgumentError :=
  if scope = .program && !(r.onlyInputs && isCommandWord word) then .unknownCommand word
  else .unexpectedArgument word

/-- The reading after a word that is neither option nor value. -/
def takeInput (scope : Scope) (r : Reading) (word : String) : Except Stop Reading :=
  if scope.takesInput && !r.hasInput then do
    return { ← r.settle with unsettled := .given .input word }
  else .error (.error (misplaced scope r word))

/-- The reading after a word. A single dash is no option. -/
def takeWord (scope : Scope) (r : Reading) (word : String) : Except Stop Reading :=
  if r.onlyInputs then r.takeInput scope word
  else if word = "--" then .ok { r with onlyInputs := true }
  else match word.toList, r.unsettled with
    | '-' :: '-' :: text, _ => r.takeLong scope text
    | '-' :: c :: letters, _ => r.takeLetters scope (c :: letters)
    | _, .awaited slot => .ok { r with unsettled := .given slot word }
    | _, _ => r.takeInput scope word

/-! ## Scopes -/

/-- What the words of a help request ask about. -/
def helpOn : List String → Stop
  | [] => .help .program
  | word :: rest =>
    if isCommandWord word then
      match rest with
      | [] => .help ((CommandWord.ofWord? word).elim .program .command)
      | next :: _ => .error (.unknownCommand next)
    else .error (.unknownCommand word)

/-- Whether a word is tried as a command here. -/
def mayStartCommand (scope : Scope) (r : Reading) : Bool :=
  scope = .program && !r.onlyInputs && !r.awaitsValue

/-- The reading of the words of a scope, and the command that ends it with the words after. -/
def readScope (scope : Scope) (r : Reading) :
    List String → Except Stop (Reading × Option (CommandWord × List String))
  | [] => .ok (r, none)
  | word :: rest =>
    if r.mayStartCommand scope && isCommandWord word then
      match CommandWord.ofWord? word with
      | some command => .ok (r, some (command, rest))
      | none => .error (helpOn rest)
    else do readScope scope (← r.takeWord scope word) rest

end Reading

/-! ## Command lines -/

/-- What the words before the command and those after it say together: what is said after it comes
first. -/
def Invocation.ofReadings (word : CommandWord) (before after : Reading) : Invocation where
  command :=
    match word with
    | .fields => .fields (after.value? .input)
    | .formats => .formats
    | .document => .document {
        config := after.value? .config <|> before.value? .config
        input := after.value? .input
        label := after.value? .label
        output := after.value? .output
        format := after.value? .format
        orientation := after.value? .orientation }
  verbosity := if after.verbosity = 0 then before.verbosity else after.verbosity

/-- The reading of a whole command line. -/
def Invocation.ofWords (words : List String) : Except Stop Invocation := do
  match ← Reading.readScope .program {} words with
  | (before, none) =>
    let before ← before.settle
    if before.settled.isEmpty && before.verbosity = 0 then throw (.error .nothingGiven)
    else throw (.error .missingCommand)
  | (before, some (word, rest)) =>
    let (after, _) ← Reading.readScope (.command word) {} rest
    let after ← after.settle
    let before ← before.settle
    return .ofReadings word before after

end FieldList.CommandLine
