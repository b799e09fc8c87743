import FieldList.Toml.Scalar

/-!
# Dates and times in tables

A date or time may also be given by a table whose first key is a marker, with its text as a string
under that key. The text is read more freely than a bare value: an hour may be 24, an offset may
stand right after a date, and only a whole offset is bounded, by a day. A table with the marker
first and anything but such a text under it is malformed; what else it holds is passed over.
-/

namespace FieldList.Toml

/-! ## Texts -/

/-- A whole text as the distance from universal time; none if it is empty. -/
def freeOffset? : List Char → Option (Option Offset)
  | [] => some none
  | ['Z'] | ['z'] => some (some .universal)
  | sign :: rest => do
    let (hour, rest) ← twoDigits? 99 rest
    let (minute, rest) ← twoDigits? 99 (← Text.afterLiteral [':'] rest)
    let n : Int := hour * 60 + minute
    if rest ≠ [] || n > 24 * 60 then none
    else if sign = '+' then some (some (.minutes n))
    else if sign = '-' then some (some (.minutes (-n)))
    else none

/-- A whole text as a date, a time, or both, each part as long as it goes. -/
def freeDateTime? (s : List Char) : Option DateTime :=
  if s[2]? = some ':' then
    match readTime 24 s with
    | some (time, []) => some ⟨none, some time, none⟩
    | _ => none
  else do
    let (date, rest) ← readDate s
    match rest with
    | separator :: rest =>
      if separator = 'T' || separator = 't' || separator = ' ' then do
        let (time, rest) ← readTime 24 rest
        some ⟨some date, some time, ← freeOffset? rest⟩
      else some ⟨some date, none, ← freeOffset? (separator :: rest)⟩
    | [] => some ⟨some date, none, none⟩

/-! ## Tables -/

/-- The key that tells a date or time from other tables. -/
def dateMarker : String := "$__toml_private_datetime"

/-- The date or time whose text a value is. -/
def Value.asDateTime? : Value → Option Value
  | .string s => (freeDateTime? s.toList).map .dateTime
  | _ => none

mutual

/-- The value with each date or time in a table in the place of its table. -/
def Value.withDates : Value → Option Value
  | .array items => (itemsWithDates items).map .array
  | .table [] => some (.table [])
  | .table ((key, v) :: entries) =>
    if key = dateMarker then v.asDateTime?
    else do
      let v ← v.withDates
      some (.table ((key, v) :: (← entriesWithDates entries)))
  | v => some v

def itemsWithDates : List Value → Option (List Value)
  | [] => some []
  | v :: vs => do return (← v.withDates) :: (← itemsWithDates vs)

def entriesWithDates : List (String × Value) → Option (List (String × Value))
  | [] => some []
  | (key, v) :: rest => do return (key, ← v.withDates) :: (← entriesWithDates rest)

end

end FieldList.Toml
