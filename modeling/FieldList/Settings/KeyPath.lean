/-!
# Key paths

A key path names a place inside nested settings: the key of a table, then any number of keys after
points and of indices between brackets. A negative index counts from the end of a list.
-/

namespace FieldList.Settings

inductive Step where
  | key (name : String)
  | index (i : Int)
  deriving DecidableEq, Repr

structure KeyPath where
  root : String
  steps : List Step
  deriving DecidableEq, Repr

/-- Why a text is no key path. -/
inductive KeyPathError where
  | noKey
  | unexpected
  | noIndex
  | indexOutOfRange
  deriving DecidableEq, Repr

namespace KeyPathError

def message : KeyPathError → String
  | noKey => "IsA"
  | unexpected => "Char"
  | noIndex => "Digit"
  | indexOutOfRange => "Map on Result"

end KeyPathError

namespace KeyPath

def isKeyChar (c : Char) : Bool := c.isAlphanum || c = '_' || c = '-' || c = ' '

/-- The blank characters that may stand around an index. -/
def isIndexBlank (c : Char) : Bool := c = ' ' || c = '\t'

/-- An index has 64 bits with a sign. -/
def isIndex (i : Int) : Bool := -Int.pow 2 63 ≤ i && i < Int.pow 2 63

/-- A key at the start of the text, and what follows it. -/
def readKey (s : List Char) : Option (String × List Char) :=
  match s.takeWhile isKeyChar with
  | [] => none
  | key => some (String.ofList key, s.dropWhile isKeyChar)

/-- The sign of an index, and its digits with what follows. -/
def splitMinus : List Char → Bool × List Char
  | '-' :: rest => (true, rest)
  | s => (false, s)

/-- An index after its opening bracket, and what follows its closing bracket. -/
def readIndex (s : List Char) : Except KeyPathError (Int × List Char) :=
  let (negative, s) := splitMinus (s.dropWhile isIndexBlank)
  match s.takeWhile Char.isDigit with
  | [] => .error .noIndex
  | digits =>
    let n : Int := digits.foldl (fun n c => n * 10 + (c.toNat - '0'.toNat)) 0
    let i := if negative then -n else n
    if !isIndex i then .error .indexOutOfRange
    else match (s.dropWhile Char.isDigit).dropWhile isIndexBlank with
      | ']' :: rest => .ok (i, rest)
      | _ => .error .unexpected

/-- The steps that a whole text gives. The first number bounds their count. -/
def readSteps : Nat → List Char → Except KeyPathError (List Step)
  | _, [] => .ok []
  | 0, _ :: _ => .error .unexpected
  | bound + 1, c :: rest =>
    if c = '.' then
      match readKey rest with
      | none => .error .unexpected
      | some (key, rest) => do return .key key :: (← readSteps bound rest)
    else if c = '[' then do
      let (i, rest) ← readIndex rest
      return .index i :: (← readSteps bound rest)
    else .error .unexpected

/-- The key path that a whole text stands for. -/
def parse (s : String) : Except KeyPathError KeyPath :=
  match readKey s.toList with
  | none => .error .noKey
  | some (root, rest) => do return ⟨root, ← readSteps rest.length rest⟩

end KeyPath

end FieldList.Settings
