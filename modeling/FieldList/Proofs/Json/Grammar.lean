import FieldList.Json.Value
import Mathlib

/-!
# The grammar of JSON texts

`IsText v text` says by rules alone that a text stands for a value: what a gap, a number and a
string are, and how values are put together. It knows nothing of readers and printers. Strings are
those that denote a text, so unpaired surrogates are left out.
-/

namespace FieldList.Json

/-- White space around the parts of a text. -/
def IsGap (s : List Char) : Prop := ∀ c ∈ s, c ∈ [' ', '\t', '\n', '\r']

/-- A hexadecimal digit and its value. -/
def IsHexDigit (c : Char) (n : ℕ) : Prop :=
  "0123456789abcdef".toList[n]? = some c ∨ "0123456789ABCDEF".toList[n]? = some c

/-- Four hexadecimal digits and their value. -/
inductive IsHexNumber : List Char → ℕ → Prop where
  | digits {a b c d : Char} {k l m n : ℕ} : IsHexDigit a k → IsHexDigit b l → IsHexDigit c m →
      IsHexDigit d n → IsHexNumber [a, b, c, d] (0x1000 * k + 0x100 * l + 0x10 * m + n)

/-- The letters after a backslash, each with the character it stands for. -/
def escapes : List (Char × Char) :=
  [('"', '"'), ('\\', '\\'), ('/', '/'), ('b', '\x08'), ('f', '\x0c'), ('n', '\n'), ('r', '\r'),
    ('t', '\t')]

/-- The ways to write a character in a string. -/
inductive Spelling : Char → List Char → Prop where
  | itself {c : Char} : c ≠ '"' → c ≠ '\\' → 0x20 ≤ c.toNat → Spelling c [c]
  | escape {letter c : Char} : (letter, c) ∈ escapes → Spelling c ['\\', letter]
  | unit {c : Char} {digits : List Char} : IsHexNumber digits c.toNat →
      Spelling c ('\\' :: 'u' :: digits)
  | surrogates {c : Char} {high low : List Char} {h l : ℕ} : IsHexNumber high (0xD800 + h) →
      IsHexNumber low (0xDC00 + l) → h < 0x400 → l < 0x400 →
      c.toNat = 0x10000 + 0x400 * h + l → Spelling c ('\\' :: 'u' :: high ++ '\\' :: 'u' :: low)

/-- The ways to write a text between the quotes of a string. -/
inductive Spells : List Char → List Char → Prop where
  | nil : Spells [] []
  | cons {c : Char} {text w s : List Char} : Spelling c w → Spells text s →
      Spells (c :: text) (w ++ s)

/-- The ways to write a text as a string. -/
inductive Quotes : String → List Char → Prop where
  | quoted {text s : List Char} : Spells text s → Quotes (String.ofList text) ('"' :: s ++ ['"'])

/-- Decimal digits, at least one. -/
def IsDigits (s : List Char) : Prop := s ≠ [] ∧ ∀ c ∈ s, c.isDigit

/-- The part of a number before its point: zero, or digits of which the first is not zero. -/
def IsWhole (s : List Char) : Prop := s = ['0'] ∨ IsDigits s ∧ s.head? ≠ some '0'

/-- The part of a number from its point on, if there is one. -/
def IsFraction (s : List Char) : Prop := s = [] ∨ ∃ digits, IsDigits digits ∧ s = '.' :: digits

/-- The exponent of a number, if there is one. -/
def IsExponent (s : List Char) : Prop :=
  s = [] ∨ ∃ e sign digits, e ∈ ['e', 'E'] ∧ sign ∈ [[], ['+'], ['-']] ∧ IsDigits digits ∧
    s = e :: sign ++ digits

inductive IsNumber : List Char → Prop where
  | parts {sign whole fraction exponent : List Char} : sign ∈ [[], ['-']] → IsWhole whole →
      IsFraction fraction → IsExponent exponent → IsNumber (sign ++ (whole ++ fraction ++ exponent))

mutual

/-- The ways to write a value. -/
inductive Denotes : Value → List Char → Prop where
  | null : Denotes .null "null".toList
  | boolean (b : Bool) : Denotes (.boolean b) (if b then "true" else "false").toList
  | number {s : List Char} : IsNumber s → Denotes (.number (String.ofList s)) s
  | string {text : String} {s : List Char} : Quotes text s → Denotes (.ofText text) s
  | emptyArray {gap : List Char} : IsGap gap → Denotes (.array []) ('[' :: gap ++ [']'])
  | array {vs : List Value} {s : List Char} : DenoteItems vs s →
      Denotes (.array vs) ('[' :: s ++ [']'])
  | emptyObject {gap : List Char} : IsGap gap → Denotes (.object []) ('\x7b' :: gap ++ ['\x7d'])
  | object {members : List (Option String × Value)} {s : List Char} : DenoteMembers members s →
      Denotes (.object members) ('\x7b' :: s ++ ['\x7d'])

/-- The ways to write the items of an array, with the gaps around them. -/
inductive DenoteItems : List Value → List Char → Prop where
  | last {v : Value} {before s after : List Char} : IsGap before → Denotes v s → IsGap after →
      DenoteItems [v] (before ++ s ++ after)
  | more {v : Value} {vs : List Value} {before s after rest : List Char} : IsGap before →
      Denotes v s → IsGap after → DenoteItems vs rest →
      DenoteItems (v :: vs) (before ++ s ++ after ++ ',' :: rest)

/-- The ways to write the members of an object, with the gaps around them. -/
inductive DenoteMembers : List (Option String × Value) → List Char → Prop where
  | last {m : Option String × Value} {s : List Char} : DenoteMember m s → DenoteMembers [m] s
  | more {m : Option String × Value} {members : List (Option String × Value)}
      {s rest : List Char} : DenoteMember m s → DenoteMembers members rest →
      DenoteMembers (m :: members) (s ++ ',' :: rest)

/-- The ways to write a member of an object, with the gaps around its parts. -/
inductive DenoteMember : Option String × Value → List Char → Prop where
  | member {key : String} {v : Value} {before k between between' s after : List Char} :
      IsGap before → Quotes key k → IsGap between → IsGap between' → Denotes v s → IsGap after →
      DenoteMember (some key, v) (before ++ k ++ between ++ ':' :: between' ++ s ++ after)

end

/-- The text stands for the value. -/
def IsText (v : Value) (text : String) : Prop :=
  ∃ before s after, IsGap before ∧ Denotes v s ∧ IsGap after ∧ text.toList = before ++ s ++ after

end FieldList.Json
