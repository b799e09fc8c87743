import FieldList.Decimal.Binary64

/-!
# TOML values

The values of a TOML document. Dates and times are kept by their parts and written in one form:
with a capital T between date and time, and without zeros at the end of a second's fraction.
-/

namespace FieldList.Toml

/-! ## Dates and times -/

structure Date where
  year : Nat
  month : Nat
  day : Nat
  deriving DecidableEq, Repr

structure Time where
  hour : Nat
  minute : Nat
  second : Nat
  nanosecond : Nat
  deriving DecidableEq, Repr

/-- The distance from universal time, in minutes unless it is none. -/
inductive Offset where
  | universal
  | minutes (n : Int)
  deriving DecidableEq, Repr

structure DateTime where
  date : Option Date
  time : Option Time
  offset : Option Offset
  deriving DecidableEq, Repr

/-- A number with zeros in front up to a width. -/
def padded (width n : Nat) : List Char :=
  let digits := Nat.toDigits 10 n
  List.replicate (width - digits.length) '0' ++ digits

namespace Date

def text (d : Date) : List Char :=
  padded 4 d.year ++ '-' :: padded 2 d.month ++ '-' :: padded 2 d.day

end Date

namespace Time

def text (t : Time) : List Char :=
  padded 2 t.hour ++ ':' :: padded 2 t.minute ++ ':' :: padded 2 t.second ++
    (if t.nanosecond = 0 then []
     else '.' :: ((padded 9 t.nanosecond).reverse.dropWhile (· = '0')).reverse)

end Time

namespace Offset

def text : Offset → List Char
  | universal => ['Z']
  | minutes n =>
    (if n < 0 then '-' else '+') :: padded 2 (n.natAbs / 60) ++ ':' :: padded 2 (n.natAbs % 60)

end Offset

namespace DateTime

def text (d : DateTime) : String :=
  String.ofList ((d.date.map Date.text).getD [] ++
    (if d.date.isSome && d.time.isSome then ['T'] else []) ++
    (d.time.map Time.text).getD [] ++ (d.offset.map Offset.text).getD [])

end DateTime

/-! ## Values -/

inductive Value where
  | string (s : String)
  | integer (n : Int)
  | float (x : Decimal.Binary64)
  | boolean (b : Bool)
  | dateTime (d : DateTime)
  | array (items : List Value)
  | table (entries : List (String × Value))
  deriving Repr

end FieldList.Toml
