import FieldList.Text.Printable

/-!
# Quoted text

Text shown between double quotes so that it stays on one line and every character can be told:
the quote, the backslash and the common controls have short escapes, and any other character that
is not printable is given by its code point.
-/

namespace FieldList.Text

/-- A character as it is written inside quotes. -/
def escapeQuoted (c : Char) : List Char :=
  match c with
  | '\x00' => ['\\', '0']
  | '\t' => ['\\', 't']
  | '\n' => ['\\', 'n']
  | '\r' => ['\\', 'r']
  | '"' => ['\\', '"']
  | '\\' => ['\\', '\\']
  | c =>
    if isPrintable c then [c]
    else ['\\', 'u', '\x7b'] ++ Nat.toDigits 16 c.toNat ++ ['\x7d']

/-- A text between quotes. -/
def quoted (s : String) : String :=
  String.ofList ('"' :: s.toList.flatMap escapeQuoted ++ ['"'])

end FieldList.Text
