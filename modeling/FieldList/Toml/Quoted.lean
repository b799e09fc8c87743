import FieldList.Json.Reader

/-!
# Quoted strings

A string stands between quotes or, to go over several lines, between three quotes each. Double
quotes allow escapes, single quotes do not. Control characters are refused but for the tab and,
where lines may end, line ends; these are read as line feeds.
-/

namespace FieldList.Toml

open Json (hexNumber?)

/-- The characters that may stand for themselves in comments and strings. -/
def isTextChar (c : Char) : Bool := c = '\t' || (0x20 ≤ c.toNat && c.toNat ≠ 0x7F)

/-- The character for a letter after a backslash. -/
def escaped? : Char → Option Char
  | 'b' => some '\x08'
  | 't' => some '\t'
  | 'n' => some '\n'
  | 'f' => some '\x0c'
  | 'r' => some '\r'
  | '"' => some '"'
  | '\\' => some '\\'
  | _ => none

/-- The character with a number, if there is one. -/
def charOf? (n : Nat) : Option Char := if n.isValidChar then some (Char.ofNat n) else none

/-- The character for what follows a backslash, and what follows that. -/
def readEscape : List Char → Option (Char × List Char)
  | 'u' :: a :: b :: c :: d :: rest => do
    some (← charOf? (← hexNumber? a b c d), rest)
  | 'U' :: a :: b :: c :: d :: e :: f :: g :: h :: rest => do
    some (← charOf? ((← hexNumber? a b c d) * 0x10000 + (← hexNumber? e f g h)), rest)
  | letter :: rest => do some (← escaped? letter, rest)
  | [] => none

/-! ## On one line -/

/-- The text up to the closing double quote, and what follows it. The number bounds the steps. -/
def readBasic : Nat → List Char → Option (List Char × List Char)
  | 0, _ => none
  | steps + 1, s =>
    match s with
    | '"' :: rest => some ([], rest)
    | '\\' :: rest => do
      let (c, rest) ← readEscape rest
      let (cs, rest) ← readBasic steps rest
      some (c :: cs, rest)
    | c :: rest =>
      if isTextChar c then do
        let (cs, rest) ← readBasic steps rest
        some (c :: cs, rest)
      else none
    | [] => none

/-- The text up to the closing single quote, and what follows it. -/
def readLiteral : List Char → Option (List Char × List Char)
  | [] => none
  | c :: rest =>
    if c = '\'' then some ([], rest)
    else if isTextChar c then do
      let (cs, rest) ← readLiteral rest
      some (c :: cs, rest)
    else none

/-! ## Over several lines -/

/-- The quotes after three closing ones that still belong to the text: two at most. -/
def quotesAtEnd (quote : Char) : List Char → List Char × List Char
  | a :: b :: rest =>
    if a = quote && b = quote then ([quote, quote], rest)
    else if a = quote then ([quote], b :: rest)
    else ([], a :: b :: rest)
  | [a] => if a = quote then ([quote], []) else ([], [a])
  | [] => ([], [])

/-- What follows the line end that must come next but for spaces and tabs, without the blank
characters at the start of the lines after it. -/
def afterLineEnd (s : List Char) : Option (List Char) :=
  match s.dropWhile fun c => c = ' ' || c = '\t' with
  | '\n' :: rest => some (skip rest)
  | '\r' :: '\n' :: rest => some (skip rest)
  | _ => none
where
  skip : List Char → List Char
    | '\r' :: '\n' :: rest => skip rest
    | c :: rest => if c = ' ' || c = '\t' || c = '\n' then skip rest else c :: rest
    | [] => []

/-- The text up to three closing double quotes, and what follows them. A backslash at the end of a
line takes the line end and all blank characters after it away. The number bounds the steps. -/
def readLongBasic : Nat → List Char → Option (List Char × List Char)
  | 0, _ => none
  | steps + 1, s =>
    match s with
    | '"' :: '"' :: '"' :: rest => some (quotesAtEnd '"' rest)
    | '\\' :: rest =>
      match afterLineEnd rest with
      | some rest => readLongBasic steps rest
      | none => do
        let (c, rest) ← readEscape rest
        let (cs, rest) ← readLongBasic steps rest
        some (c :: cs, rest)
    | '\r' :: '\n' :: rest => do
      let (cs, rest) ← readLongBasic steps rest
      some ('\n' :: cs, rest)
    | c :: rest =>
      if isTextChar c || c = '\n' then do
        let (cs, rest) ← readLongBasic steps rest
        some (c :: cs, rest)
      else none
    | [] => none

/-- The text up to three closing single quotes, and what follows them. -/
def readLongLiteral : List Char → Option (List Char × List Char)
  | '\'' :: '\'' :: '\'' :: rest => some (quotesAtEnd '\'' rest)
  | '\r' :: '\n' :: rest => do
    let (cs, rest) ← readLongLiteral rest
    some ('\n' :: cs, rest)
  | c :: rest =>
    if isTextChar c || c = '\n' then do
      let (cs, rest) ← readLongLiteral rest
      some (c :: cs, rest)
    else none
  | [] => none

/-- The text without a line end at its start. -/
def withoutFirstLineEnd : List Char → List Char
  | '\n' :: rest => rest
  | '\r' :: '\n' :: rest => rest
  | s => s

/-! ## Strings -/

/-- A string on one line at the start of the text, and what follows it. -/
def readShortString : List Char → Option (List Char × List Char)
  | '"' :: rest => readBasic (rest.length + 1) rest
  | '\'' :: rest => readLiteral rest
  | _ => none

/-- A string at the start of the text, and what follows it. -/
def readString : List Char → Option (List Char × List Char)
  | '"' :: '"' :: '"' :: rest => readLongBasic (rest.length + 1) (withoutFirstLineEnd rest)
  | '\'' :: '\'' :: '\'' :: rest => readLongLiteral (withoutFirstLineEnd rest)
  | s => readShortString s

end FieldList.Toml
