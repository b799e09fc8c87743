import FieldList.Json.Reader
import FieldList.Toml.Value

/-!
# Bare values

Booleans, numbers, dates and times are written without quotes. Such a value is a run of letters,
digits and a few signs, and is told by its form alone.
-/

namespace FieldList.Toml

/-! ## Digits -/

/-- The characters that can stand in a bare value. -/
def isBareValueChar (c : Char) : Bool :=
  c.isAlphanum || c = '_' || c = '+' || c = '-' || c = '.' || c = ':'

/-- Digits without the underscores between them. -/
def ungroup (isDigit : Char → Bool) : List Char → Option (List Char)
  | [] => none
  | [c] => if isDigit c then some [c] else none
  | c :: '_' :: rest => if isDigit c then (ungroup isDigit rest).map (c :: ·) else none
  | c :: rest => if isDigit c then (ungroup isDigit rest).map (c :: ·) else none

/-- The number written with digits of a base. -/
def ofDigits (base : Nat) (digits : List Char) : Nat :=
  digits.foldl (fun n c => n * base + (Json.hexDigit? c).getD 0) 0

/-- A sign, and whether it is a minus. -/
def splitSign : List Char → Bool × List Char
  | '+' :: rest => (false, rest)
  | '-' :: rest => (true, rest)
  | s => (false, s)

/-- Decimal digits that start with a zero only if there is no other. -/
def decimalDigits? (s : List Char) : Option (List Char) := do
  let digits ← ungroup Char.isDigit s
  if digits.head? = some '0' && s.length > 1 then none else some digits

/-! ## Numbers -/

/-- The range of integers is that of 64 bits with a sign. -/
def inRange (n : Int) : Option Int :=
  if -Int.pow 2 63 ≤ n && n < Int.pow 2 63 then some n else none

/-- A number in base 2, 8 or 16 has no sign. -/
def integer? : List Char → Option Int
  | '0' :: 'x' :: rest => do
    inRange (ofDigits 16 (← ungroup (fun c => (Json.hexDigit? c).isSome) rest))
  | '0' :: 'o' :: rest => do
    inRange (ofDigits 8 (← ungroup (fun c => '0' ≤ c && c ≤ '7') rest))
  | '0' :: 'b' :: rest => do
    inRange (ofDigits 2 (← ungroup (fun c => c = '0' || c = '1') rest))
  | s => do
    let (negative, rest) := splitSign s
    let n : Int := ofDigits 10 (← decimalDigits? rest)
    inRange (if negative then -n else n)

/-- The digits after a point, none if there is no point. -/
def fraction? : List Char → Option (List Char)
  | [] => some []
  | '.' :: digits => ungroup Char.isDigit digits
  | _ => none

/-- The exponent after its letter, zero if there is none. -/
def exponent? : List Char → Option Int
  | [] => some 0
  | _ :: rest => do
    let (negative, digits) := splitSign rest
    let n : Int := ofDigits 10 (← ungroup Char.isDigit digits)
    some (if negative then -n else n)

/-- A number with a fraction or an exponent, or one that is not finite. A number too great for the
format is refused, one too small for it is not. -/
def float? (s : List Char) : Option Decimal.Binary64 := do
  let (negative, rest) := splitSign s
  if rest = "inf".toList then some (.infinite negative)
  else if rest = "nan".toList then some .nan
  else
    let isExponent (c : Char) : Bool := c = 'e' || c = 'E'
    let mantissa := rest.takeWhile fun c => !isExponent c
    let exponent := rest.dropWhile fun c => !isExponent c
    let whole ← decimalDigits? (mantissa.takeWhile (· ≠ '.'))
    let fraction ← fraction? (mantissa.dropWhile (· ≠ '.'))
    let power ← exponent? exponent
    if fraction = [] && exponent = [] then none
    else
      let x := Decimal.Binary64.ofDecimal negative (ofDigits 10 (whole ++ fraction))
        (power - fraction.length)
      if x = .infinite false then none else some x

/-! ## Dates and times -/

/-- Two digits at the start of the text, as a number up to a bound, and what follows them. -/
def twoDigits? (greatest : Nat) : List Char → Option (Nat × List Char)
  | a :: b :: rest =>
    let n := ofDigits 10 [a, b]
    if a.isDigit && b.isDigit && n ≤ greatest then some (n, rest) else none
  | _ => none

def isLeapYear (year : Nat) : Bool :=
  year % 4 = 0 && (year % 100 ≠ 0 || year % 400 = 0)

def daysInMonth (year month : Nat) : Nat :=
  if month = 2 then (if isLeapYear year then 29 else 28)
  else if month = 4 || month = 6 || month = 9 || month = 11 then 30
  else 31

/-- A date at the start of the text, and what follows it. -/
def readDate (s : List Char) : Option (Date × List Char) := do
  let (century, rest) ← twoDigits? 99 s
  let (inCentury, rest) ← twoDigits? 99 rest
  let year := century * 100 + inCentury
  let (month, rest) ← twoDigits? 12 (← Text.afterLiteral ['-'] rest)
  let (day, rest) ← twoDigits? 31 (← Text.afterLiteral ['-'] rest)
  if 1 ≤ month && 1 ≤ day && day ≤ daysInMonth year month then some (⟨year, month, day⟩, rest)
  else none

/-- The fraction of a second at the start of the text, in nanoseconds, and what follows it. Digits
after the ninth are dropped. -/
def readNanoseconds : List Char → Option (Nat × List Char)
  | '.' :: rest => do
    let (digits, rest) ← Json.readDigits rest
    some (ofDigits 10 ((digits ++ List.replicate 9 '0').take 9), rest)
  | s => some (0, s)

/-- A time at the start of the text, and what follows it, for a greatest hour. A minute may have a
leap second. -/
def readTime (greatestHour : Nat) (s : List Char) : Option (Time × List Char) := do
  let (hour, rest) ← twoDigits? greatestHour s
  let (minute, rest) ← twoDigits? 59 (← Text.afterLiteral [':'] rest)
  let (second, rest) ← twoDigits? 60 (← Text.afterLiteral [':'] rest)
  let (nanosecond, rest) ← readNanoseconds rest
  some (⟨hour, minute, second, nanosecond⟩, rest)

/-- A whole text as the distance from universal time; none if it is empty. -/
def offset? : List Char → Option (Option Offset)
  | [] => some none
  | ['Z'] | ['z'] => some (some .universal)
  | sign :: rest => do
    let (hour, rest) ← twoDigits? 23 rest
    let (minute, rest) ← twoDigits? 59 (← Text.afterLiteral [':'] rest)
    let n : Int := hour * 60 + minute
    if rest ≠ [] then none
    else if sign = '+' then some (some (.minutes n))
    else if sign = '-' then some (some (.minutes (-n)))
    else none

/-- The whole text after a date, its separator and the date: a time and an offset. -/
def timeOfDay? (date : Date) (s : List Char) : Option DateTime := do
  let (time, rest) ← readTime 23 s
  some ⟨some date, some time, ← offset? rest⟩

/-- A whole text as a date, a time, or both. -/
def dateTime? (s : List Char) : Option DateTime :=
  match readDate s with
  | some (date, []) => some ⟨some date, none, none⟩
  | some (date, separator :: rest) =>
    if separator = 'T' || separator = 't' then timeOfDay? date rest else none
  | none =>
    match readTime 23 s with
    | some (time, []) => some ⟨none, some time, none⟩
    | _ => none

/-! ## Bare values -/

/-- A whole text as a bare value. -/
def bareValue? (s : List Char) : Option Value :=
  if s = "true".toList then some (.boolean true)
  else if s = "false".toList then some (.boolean false)
  else match dateTime? s with
    | some d => some (.dateTime d)
    | none =>
      match integer? s with
      | some n => some (.integer n)
      | none => (float? s).map .float

/-- A bare value at the start of the text, and what follows it. A space may stand between a date
and a time. -/
def readBareValue (s : List Char) : Option (Value × List Char) := do
  let v ← bareValue? (s.takeWhile isBareValueChar)
  match v, s.dropWhile isBareValueChar with
  | .dateTime ⟨some date, none, none⟩, ' ' :: c :: rest =>
    if c.isDigit then
      let d ← timeOfDay? date ((c :: rest).takeWhile isBareValueChar)
      some (.dateTime d, (c :: rest).dropWhile isBareValueChar)
    else some (v, ' ' :: c :: rest)
  | v, rest => some (v, rest)

end FieldList.Toml
