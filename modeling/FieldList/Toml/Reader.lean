import FieldList.Toml.DateTable
import FieldList.Toml.Quoted
import FieldList.Toml.Tables

/-!
# Reading TOML

A strict reader of TOML 1.0 documents: lines with a key and its value, and headers that say which
table the keys after them belong to. A text that breaks any rule stands for no document.
-/

namespace FieldList.Toml

/-! ## Between values -/

def skipSpaces (s : List Char) : List Char := s.dropWhile fun c => c = ' ' || c = '\t'

mutual

/-- What follows spaces, line ends and comments. -/
def skipLines : List Char → Option (List Char)
  | [] => some []
  | '\r' :: '\n' :: rest => skipLines rest
  | c :: rest =>
    if c = ' ' || c = '\t' || c = '\n' then skipLines rest
    else if c = '#' then skipComment rest
    else some (c :: rest)

/-- What follows the rest of a comment and all that can be skipped after it. -/
def skipComment : List Char → Option (List Char)
  | [] => some []
  | '\r' :: '\n' :: rest => skipLines rest
  | c :: rest =>
    if c = '\n' then skipLines rest else if isTextChar c then skipComment rest else none

end

/-- What follows the end of a line, before which only a comment may stand. -/
def endLine (s : List Char) : Option (List Char) :=
  match skipSpaces s with
  | [] => some []
  | '\n' :: rest => some rest
  | '\r' :: '\n' :: rest => some rest
  | '#' :: rest => skipComment rest
  | _ => none

/-! ## Keys -/

def isBareKeyChar (c : Char) : Bool := c.isAlphanum || c = '_' || c = '-'

/-- How many nested values, and how many parts of a key, are too many. -/
def nestingLimit : Nat := 80

/-- One part of a key, and what follows it. -/
def readSimpleKey (s : List Char) : Option (String × List Char) :=
  match s.takeWhile isBareKeyChar with
  | [] => (readShortString s).map fun (key, rest) => (String.ofList key, rest)
  | key => some (String.ofList key, s.dropWhile isBareKeyChar)

/-- The parts of a key between points, and what follows them. The number bounds the parts. -/
def readKeyParts : Nat → List Char → Option (List String × List Char)
  | 0, _ => none
  | parts + 1, s => do
    let (key, rest) ← readSimpleKey (skipSpaces s)
    match skipSpaces rest with
    | '.' :: rest =>
      let (keys, rest) ← readKeyParts parts rest
      some (key :: keys, rest)
    | rest => some ([key], rest)

/-- A key as the path to a table and the last part, and what follows it. -/
def readKey (s : List Char) : Option (List String × String × List Char) := do
  let (keys, rest) ← readKeyParts (nestingLimit - 1) s
  some (keys.dropLast, ← keys.getLast?, rest)

/-! ## Values -/

mutual

/-- A value and what follows it, where `depth` bounds the nesting and the other number the
steps. -/
def readValue : Nat → Nat → List Char → Option (Value × List Char)
  | _, 0, _ => none
  | depth, steps + 1, s =>
    match s with
    | '"' :: _ | '\'' :: _ =>
      (readString s).map fun (text, rest) => (.string (String.ofList text), rest)
    | '[' :: rest =>
      if depth = 0 then none
      else do
        let (vs, rest) ← readItems (depth - 1) steps rest
        some (.array vs, rest)
    | '\x7b' :: rest =>
      if depth = 0 then none
      else
        match skipSpaces rest with
        | '\x7d' :: rest => some (.table [], rest)
        | rest => do
          let (entries, rest) ← readPairs (depth - 1) steps [] rest
          some (.table (valuesOf entries), rest)
    | s => readBareValue s

/-- The items of an array up to its closing bracket. A comma may stand after the last. -/
def readItems : Nat → Nat → List Char → Option (List Value × List Char)
  | _, 0, _ => none
  | depth, steps + 1, s => do
    match ← skipLines s with
    | ']' :: rest => some ([], rest)
    | s =>
      let (v, rest) ← readValue depth steps s
      match ← skipLines rest with
      | ',' :: rest =>
        let (vs, rest) ← readItems depth steps rest
        some (v :: vs, rest)
      | ']' :: rest => some ([v], rest)
      | _ => none

/-- The entries of a table on one line up to its closing brace, added to those before them; there
is at least one. -/
def readPairs : Nat → Nat → Entries → List Char → Option (Entries × List Char)
  | _, 0, _, _ => none
  | depth, steps + 1, entries, s => do
    let (path, key, rest) ← readKey s
    let rest ← Text.afterLiteral ['='] rest
    let (v, rest) ← readValue depth steps (skipSpaces rest)
    let entries ← entries.define path key v
    match skipSpaces rest with
    | ',' :: rest => readPairs depth steps entries rest
    | '\x7d' :: rest => some (entries, rest)
    | _ => none

end

/-! ## Documents -/

/-- The entries of a document whose next keys belong to the table with the given header. The number
bounds the lines. -/
def readLines : Nat → List String → Entries → List Char → Option Entries
  | 0, _, _, _ => none
  | steps + 1, header, root, s => do
    match ← skipLines s with
    | [] => some root
    | '[' :: '[' :: rest =>
      let (path, key, rest) ← readKey rest
      let rest ← endLine (← Text.afterLiteral [']', ']'] rest)
      readLines steps (path ++ [key]) (← root.openElement path key) rest
    | '[' :: rest =>
      let (path, key, rest) ← readKey rest
      let rest ← endLine (← Text.afterLiteral [']'] rest)
      readLines steps (path ++ [key]) (← root.openTable path key) rest
    | s =>
      let (path, key, rest) ← readKey s
      let rest ← Text.afterLiteral ['='] rest
      let (v, rest) ← readValue (nestingLimit - 1) (2 * rest.length + 2) (skipSpaces rest)
      readLines steps header (← root.defineUnder header path key v) (← endLine rest)

/-- The entries of the document that a whole text stands for. A byte order mark may stand before
it. The document itself is no date. -/
def read (s : String) : Option (List (String × Value)) := do
  let text := match s.toList with
    | '\uFEFF' :: rest => rest
    | text => text
  let root ← readLines (text.length + 1) [] [] text
  match ← (Value.table (valuesOf root)).withDates with
  | .table entries => some entries
  | _ => none

end FieldList.Toml
