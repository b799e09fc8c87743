import FieldList.Decimal.Binary64

/-!
# Shortest decimal text

A finite number is written with the fewest decimal digits that are read back as the same number,
and of those with the nearest. There is no exponent: zeros fill the places up to the point.
-/

namespace FieldList.Decimal.Binary64

/-- The ends of the interval of numbers that are nearer to `m * 2 ^ q` than to any other number of
the format, and that number itself, all as multiples of `2 ^ (q - 2)`. Below a power of two the
next number is only half as far away. -/
def neighbourhood (m : Nat) (q : Int) : Nat × Nat × Nat :=
  let below := if m = Nat.pow 2 52 && leastExponent < q then 1 else 2
  (4 * m - below, 4 * m, 4 * m + 2)

/-- The number of digits before the point of a positive quotient; where it is less than one,
minus the number of zeros after the point. -/
def pointPlace (num den : Nat) : Int :=
  let places := (List.range 640).map fun i => Int.ofNat i - 325
  (places.find? fun e => let (n, d) := scale 10 e num den; n < d).getD 0

/-- The integer nearest to `m * 2 ^ q / 10 ^ e`, of two equally near the greater, if a number
`10 ^ e` times an integer next to the quotient is read back as `m * 2 ^ q`. -/
def digitsAt (m : Nat) (q : Int) (e : Int) : Option Nat :=
  let (low, mid, high) := neighbourhood m q
  let (unit, den) := if 2 ≤ q then (Nat.pow 2 (q - 2).toNat, 1) else (1, Nat.pow 2 (2 - q).toNat)
  let (num, den) := scale 10 e (mid * unit) den
  let down := num / den
  let within (d : Nat) : Bool :=
    let (n, k) := if 0 ≤ e then (d * Nat.pow 10 e.toNat, 1) else (d, Nat.pow 10 (-e).toNat)
    let scaled := n * (if 2 ≤ q then 1 else Nat.pow 2 (2 - q).toNat)
    let lowEnd := low * unit * k
    let highEnd := high * unit * k
    if m % 2 = 0 then lowEnd ≤ scaled && scaled ≤ highEnd else lowEnd < scaled && scaled < highEnd
  match within down, within (down + 1) with
  | true, true => some (if 2 * (num % den) < den then down else down + 1)
  | true, false => some down
  | false, true => some (down + 1)
  | false, false => none

/-- The digits and the place of the point of a positive number. Seventeen digits always do. -/
def shortestDigits (m : Nat) (q : Int) : List Char × Int :=
  let (num, den) := if 0 ≤ q then (m * Nat.pow 2 q.toNat, 1) else (m, Nat.pow 2 (-q).toNat)
  let place := pointPlace num den
  let found := (List.range 18).findSome? fun i =>
    let e := place - Int.ofNat (i + 1)
    (digitsAt m q e).map fun d => (d, e)
  let (d, e) := found.getD (0, 0)
  let digits := Nat.toDigits 10 d
  (digits, digits.length + e)

/-- Digits with a point after the given number of places, and no zeros that say nothing. -/
def positional (digits : List Char) (place : Int) : List Char :=
  let kept := (digits.reverse.dropWhile (· = '0')).reverse
  if place ≤ 0 then '0' :: '.' :: List.replicate (-place).toNat '0' ++ kept
  else
    let whole := kept.take place.toNat
    let fraction := kept.drop place.toNat
    whole ++ List.replicate (place.toNat - whole.length) '0' ++
      (if fraction = [] then [] else '.' :: fraction)

/-- The text of a number. -/
def text : Binary64 → String
  | nan => "NaN"
  | infinite negative => (if negative then "-" else "") ++ "inf"
  | finite negative m q =>
    (if negative then "-" else "") ++
      (if m = 0 then "0"
       else let (digits, place) := shortestDigits m q; String.ofList (positional digits place))

end FieldList.Decimal.Binary64
