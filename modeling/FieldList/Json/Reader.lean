import FieldList.Json.Value
import FieldList.Text.Search

/-!
# Reading JSON

A strict reader of the JSON grammar: one value with white space around it and nothing else. Numbers
have no leading zeros, strings hold no raw control characters, and no comma stands before a closing
bracket. Objects keep all their members, in order.
-/

namespace FieldList.Json

open Text

def isSpace (c : Char) : Bool := c = ' ' || c = '\t' || c = '\n' || c = '\r'

def skipSpaces (s : List Char) : List Char := s.dropWhile isSpace

/-! ## Strings -/

/-- The value of a hexadecimal digit. -/
def hexDigit? (c : Char) : Option Nat :=
  if '0' ≤ c && c ≤ '9' then some (c.toNat - '0'.toNat)
  else if 'a' ≤ c && c ≤ 'f' then some (c.toNat - 'a'.toNat + 10)
  else if 'A' ≤ c && c ≤ 'F' then some (c.toNat - 'A'.toNat + 10)
  else none

/-- The number written with four hexadecimal digits. -/
def hexNumber? (a b c d : Char) : Option Nat := do
  some ((((← hexDigit? a) * 16 + (← hexDigit? b)) * 16 + (← hexDigit? c)) * 16 + (← hexDigit? d))

/-- The character for a letter after a backslash. -/
def escaped? : Char → Option Char
  | '"' => some '"'
  | '\\' => some '\\'
  | '/' => some '/'
  | 'b' => some '\x08'
  | 'f' => some '\x0c'
  | 'n' => some '\n'
  | 'r' => some '\r'
  | 't' => some '\t'
  | _ => none

/-- The numbers, each a code point or a surrogate, that a string stands for up to its closing
quote, and what follows the quote. -/
def readUnits : List Char → Option (List Nat × List Char)
  | [] => none
  | '"' :: rest => some ([], rest)
  | '\\' :: 'u' :: a :: b :: c :: d :: rest => do
    let unit ← hexNumber? a b c d
    let (units, rest) ← readUnits rest
    some (unit :: units, rest)
  | '\\' :: letter :: rest => do
    let c ← escaped? letter
    let (units, rest) ← readUnits rest
    some (c.toNat :: units, rest)
  | c :: rest =>
    if c = '\\' || c.toNat < 0x20 then none
    else do
      let (units, rest) ← readUnits rest
      some (c.toNat :: units, rest)

/-- The text that code points and pairs of surrogates stand for. -/
def joinSurrogates : List Nat → Option (List Char)
  | [] => some []
  | [unit] => if 0xD800 ≤ unit && unit < 0xE000 then none else some [Char.ofNat unit]
  | unit :: next :: units =>
    if 0xD800 ≤ unit && unit < 0xDC00 then
      if 0xDC00 ≤ next && next < 0xE000 then do
        let cs ← joinSurrogates units
        some (Char.ofNat (0x10000 + (unit - 0xD800) * 0x400 + (next - 0xDC00)) :: cs)
      else none
    else if 0xDC00 ≤ unit && unit < 0xE000 then none
    else do
      let cs ← joinSurrogates (next :: units)
      some (Char.ofNat unit :: cs)

/-- The text of a string after its opening quote. -/
def readString (s : List Char) : Option (Option String × List Char) := do
  let (units, rest) ← readUnits s
  some ((joinSurrogates units).map String.ofList, rest)

/-! ## Numbers -/

/-- The digits at the start of the text, of which there is at least one, and what follows. -/
def readDigits (s : List Char) : Option (List Char × List Char) :=
  match s.takeWhile Char.isDigit with
  | [] => none
  | digits => some (digits, s.dropWhile Char.isDigit)

/-- The whole part of a number, which starts with a zero only if it is one. -/
def readWhole : List Char → Option (List Char × List Char)
  | '0' :: rest => some (['0'], rest)
  | s => readDigits s

/-- The part of a number after a point, if there is one. -/
def readFraction : List Char → Option (List Char × List Char)
  | '.' :: rest => (readDigits rest).map fun (digits, rest) => ('.' :: digits, rest)
  | s => some ([], s)

/-- The sign of an exponent, if there is one. -/
def readSign : List Char → List Char × List Char
  | '+' :: rest => (['+'], rest)
  | '-' :: rest => (['-'], rest)
  | s => ([], s)

/-- The exponent of a number, if there is one. -/
def readExponent : List Char → Option (List Char × List Char)
  | [] => some ([], [])
  | e :: rest =>
    if e = 'e' || e = 'E' then
      let (sign, rest) := readSign rest
      (readDigits rest).map fun (digits, rest) => (e :: sign ++ digits, rest)
    else some ([], e :: rest)

/-- A number after its sign. -/
def readUnsigned (s : List Char) : Option (List Char × List Char) := do
  let (whole, rest) ← readWhole s
  if (rest.head?.any Char.isDigit) then none
  else
    let (fraction, rest) ← readFraction rest
    let (exponent, rest) ← readExponent rest
    some (whole ++ fraction ++ exponent, rest)

/-- A number as it is written. -/
def readNumber : List Char → Option (List Char × List Char)
  | '-' :: rest => (readUnsigned rest).map fun (digits, rest) => ('-' :: digits, rest)
  | s => readUnsigned s

/-! ## Values -/

mutual

/-- One value and what follows it. The number bounds the steps. -/
def readValue : Nat → List Char → Option (Value × List Char)
  | 0, _ => none
  | steps + 1, s =>
    match skipSpaces s with
    | '"' :: rest => (readString rest).map fun (text, rest) => (.string text, rest)
    | '[' :: rest =>
      match skipSpaces rest with
      | ']' :: rest => some (.array [], rest)
      | rest => (readItems steps rest).map fun (vs, rest) => (.array vs, rest)
    | '\x7b' :: rest =>
      match skipSpaces rest with
      | '\x7d' :: rest => some (.object [], rest)
      | rest => (readMembers steps rest).map fun (ms, rest) => (.object ms, rest)
    | 'n' :: rest => (afterLiteral "ull".toList rest).map fun rest => (.null, rest)
    | 't' :: rest => (afterLiteral "rue".toList rest).map fun rest => (.boolean true, rest)
    | 'f' :: rest => (afterLiteral "alse".toList rest).map fun rest => (.boolean false, rest)
    | rest => (readNumber rest).map fun (digits, rest) => (.number (String.ofList digits), rest)

/-- The items of an array up to its closing bracket; there is at least one. -/
def readItems : Nat → List Char → Option (List Value × List Char)
  | 0, _ => none
  | steps + 1, s => do
    let (v, rest) ← readValue steps s
    match skipSpaces rest with
    | ',' :: rest =>
      let (vs, rest) ← readItems steps rest
      some (v :: vs, rest)
    | ']' :: rest => some ([v], rest)
    | _ => none

/-- The members of an object up to its closing brace; there is at least one. -/
def readMembers : Nat → List Char → Option (List (Option String × Value) × List Char)
  | 0, _ => none
  | steps + 1, s => do
    let (key, rest) ← readString (← afterLiteral ['"'] (skipSpaces s))
    let (v, rest) ← readValue steps (← afterLiteral [':'] (skipSpaces rest))
    match skipSpaces rest with
    | ',' :: rest =>
      let (ms, rest) ← readMembers steps rest
      some ((key, v) :: ms, rest)
    | '\x7d' :: rest => some ([(key, v)], rest)
    | _ => none

end

/-- The value that a whole text stands for. Every second step takes a character, so twice the
length of the text bounds the steps. -/
def read (s : String) : Option Value := do
  let (v, rest) ← readValue (2 * s.toList.length + 2) s.toList
  if skipSpaces rest = [] then some v else none

end FieldList.Json
