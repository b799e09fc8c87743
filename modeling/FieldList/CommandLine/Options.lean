/-!
# Options

What can be said on a command line: values, given by options or as the input file, and switches.
Which of them are understood depends on the scope, before the command or after it.
-/

namespace FieldList.CommandLine

/-! ## Values and switches -/

/-- What a value is for. The input stands for itself; all others follow an option. -/
inductive Slot where
  | config
  | label
  | output
  | format
  | orientation
  | input
  deriving DecidableEq, Repr

namespace Slot

def name : Slot → String
  | config => "config"
  | label => "label"
  | output => "output"
  | format => "format"
  | orientation => "orientation"
  | input => "input"

/-- How help and errors show the place of a value. -/
def placeholder (s : Slot) : String := "<" ++ s.name.toUpper ++ ">"

/-- How help and errors show the value with its option. -/
def usage : Slot → String
  | input => "[INPUT]"
  | s => "--" ++ s.name ++ " " ++ s.placeholder

/-- A path leads somewhere, so it is not empty. -/
def isPath : Slot → Bool
  | config | output | input => true
  | label | format | orientation => false

end Slot

/-- An option without a value. -/
inductive Switch where
  | verbose
  | help
  | version
  deriving DecidableEq, Repr

namespace Switch

def name : Switch → String
  | verbose => "verbose"
  | help => "help"
  | version => "version"

/-- How help and errors show the switch; the points say that it may be repeated. -/
def usage : Switch → String
  | verbose => "--verbose..."
  | s => "--" ++ s.name

end Switch

/-! ## Options -/

inductive Flag where
  | value (slot : Slot)
  | switch (switch : Switch)
  deriving DecidableEq, Repr

namespace Flag

/-- The long name, which stands after two dashes. -/
def name : Flag → String
  | value s => s.name
  | switch s => s.name

/-- The letter that stands after one dash. -/
def letter? : Flag → Option Char
  | value .config => some 'c'
  | value .label => some 'l'
  | value .output => some 'o'
  | value .format => some 'f'
  | value .orientation => none
  | value .input => none
  | switch .verbose => some 'v'
  | switch .help => some 'h'
  | switch .version => some 'V'

def usage : Flag → String
  | value s => s.usage
  | switch s => s.usage

end Flag

/-! ## Commands and scopes -/

inductive CommandWord where
  | document
  | fields
  | formats
  deriving DecidableEq, Repr

namespace CommandWord

def all : List CommandWord := [document, fields, formats]

def word : CommandWord → String
  | document => "export"
  | fields => "fields"
  | formats => "formats"

def ofWord? (word : String) : Option CommandWord := all.find? (·.word = word)

end CommandWord

/-- The word that asks for help on the words after it. -/
def helpWord : String := "help"

def isCommandWord (word : String) : Bool :=
  word = helpWord || (CommandWord.ofWord? word).isSome

/-- The part of a command line before the command, or after it. -/
inductive Scope where
  | program
  | command (c : CommandWord)
  deriving DecidableEq, Repr

namespace Scope

/-- The options that a scope understands. -/
def flags : Scope → List Flag
  | program => [.value .config, .switch .verbose, .switch .help, .switch .version]
  | command .document =>
    [.value .label, .value .output, .value .format, .value .orientation,
      .value .config, .switch .verbose, .switch .help]
  | command .fields | command .formats => [.value .config, .switch .verbose, .switch .help]

def takesInput : Scope → Bool
  | command .document | command .fields => true
  | program | command .formats => false

def flagNamed? (s : Scope) (name : String) : Option Flag :=
  s.flags.find? (·.name = name)

def flagLettered? (s : Scope) (letter : Char) : Option Flag :=
  s.flags.find? (·.letter? = some letter)

end Scope

end FieldList.CommandLine
