import FieldList.Json.Value

/-!
# Writing JSON

Values are written on one line without spaces, or over several lines with two spaces for each
level. In strings the quote, the backslash and the control characters are escaped and all other
characters stand for themselves.
-/

namespace FieldList.Json

/-! ## Strings -/

/-- A character as it is written inside a string. -/
def escapeChar (c : Char) : List Char :=
  match c with
  | '"' => ['\\', '"']
  | '\\' => ['\\', '\\']
  | '\x08' => ['\\', 'b']
  | '\x0c' => ['\\', 'f']
  | '\n' => ['\\', 'n']
  | '\r' => ['\\', 'r']
  | '\t' => ['\\', 't']
  | c =>
    if c.toNat < 0x20 then
      ['\\', 'u', '0', '0', Nat.digitChar (c.toNat / 16), Nat.digitChar (c.toNat % 16)]
    else [c]

/-- A text between quotes. -/
def writeText (s : String) : List Char := '"' :: s.toList.flatMap escapeChar ++ ['"']

/-- A string of a value; one that denotes no text is written as an unpaired surrogate. -/
def writeString : Option String → List Char
  | some s => writeText s
  | none => "\"\\ud800\"".toList

/-! ## Values -/

/-- Where lines break: what is written before an item at a level, and after a key. -/
structure Layout where
  lineBreak : Nat → List Char
  afterKey : List Char

namespace Layout

/-- All on one line. -/
def compact : Layout := ⟨fun _ => [], [':']⟩

/-- One item or member on a line, two spaces for each level. -/
def indented : Layout := ⟨fun level => '\n' :: List.replicate (2 * level) ' ', [':', ' ']⟩

end Layout

mutual

/-- A value at a level of nesting. -/
def Value.write (layout : Layout) (level : Nat) : Value → List Char
  | .null => "null".toList
  | .boolean true => "true".toList
  | .boolean false => "false".toList
  | .number literal => literal.toList
  | .string text => writeString text
  | .array [] => ['[', ']']
  | .array (v :: vs) =>
    '[' :: layout.lineBreak (level + 1) ++ v.write layout (level + 1) ++
      writeItems layout (level + 1) vs ++ layout.lineBreak level ++ [']']
  | .object [] => ['\x7b', '\x7d']
  | .object ((key, v) :: members) =>
    '\x7b' :: layout.lineBreak (level + 1) ++ writeString key ++ layout.afterKey ++
      v.write layout (level + 1) ++ writeMembers layout (level + 1) members ++
      layout.lineBreak level ++ ['\x7d']

/-- The items after the first. -/
def writeItems (layout : Layout) (level : Nat) : List Value → List Char
  | [] => []
  | v :: vs =>
    ',' :: layout.lineBreak level ++ v.write layout level ++ writeItems layout level vs

/-- The members after the first. -/
def writeMembers (layout : Layout) (level : Nat) : List (Option String × Value) → List Char
  | [] => []
  | (key, v) :: members =>
    ',' :: layout.lineBreak level ++ writeString key ++ layout.afterKey ++ v.write layout level ++
      writeMembers layout level members

end

/-- A value on one line. -/
def Value.compact (v : Value) : String := String.ofList (v.write .compact 0)

/-- A value over several lines. -/
def Value.pretty (v : Value) : String := String.ofList (v.write .indented 0)

end FieldList.Json
