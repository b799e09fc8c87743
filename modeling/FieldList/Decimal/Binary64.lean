/-!
# Binary floating-point numbers

The numbers of the 64-bit binary format, as integers times powers of two, and the one nearest to a
decimal number. All arithmetic is exact.
-/

namespace FieldList.Decimal

/-- A number of the format. A finite one is `m * 2 ^ q` with `m < 2 ^ 53`, where `m` is at least
`2 ^ 52` unless `q` is the least exponent. -/
inductive Binary64 where
  | finite (negative : Bool) (m : Nat) (q : Int)
  | infinite (negative : Bool)
  | nan
  deriving DecidableEq, Repr

namespace Binary64

def leastExponent : Int := -1074

def greatestExponent : Int := 971

/-- The integer nearest to a quotient; of two that are equally near, the even one. -/
def roundDiv (num den : Nat) : Nat :=
  let quotient := num / den
  let twice := 2 * (num % den)
  if twice < den || (twice = den && quotient % 2 = 0) then quotient else quotient + 1

/-- The quotient of two numbers as a fraction of integers, divided by `base ^ e`. -/
def scale (base : Nat) (e : Int) (num den : Nat) : Nat × Nat :=
  if 0 ≤ e then (num, den * base.pow e.toNat) else (num * base.pow (-e).toNat, den)

/-- The exponent for a positive quotient: the one that leaves 53 binary digits before the point, as
far as the format goes. -/
def exponentFor (num den : Nat) : Int :=
  let guess : Int := (Nat.log2 num : Int) - Nat.log2 den - 53
  let (n, d) := scale 2 guess num den
  max leastExponent (if Nat.pow 2 53 * d ≤ n then guess + 1 else guess)

/-- The number nearest to a positive quotient. -/
def ofQuotient (negative : Bool) (num den : Nat) : Binary64 :=
  let q := exponentFor num den
  let (n, d) := scale 2 q num den
  let m := roundDiv n d
  let (m, q) := if m = Nat.pow 2 53 then (Nat.pow 2 52, q + 1) else (m, q)
  if q > greatestExponent then infinite negative else finite negative m q

/-- The number nearest to `digits * 10 ^ exponent`. Decimal numbers that are far out of range are
decided by their magnitude alone. -/
def ofDecimal (negative : Bool) (digits : Nat) (exponent : Int) : Binary64 :=
  let magnitude := (Nat.toDigits 10 digits).length + exponent
  if digits = 0 || magnitude < -330 then finite negative 0 leastExponent
  else if magnitude > 310 then infinite negative
  else if 0 ≤ exponent then ofQuotient negative (digits * Nat.pow 10 exponent.toNat) 1
  else ofQuotient negative digits (Nat.pow 10 (-exponent).toNat)

end Binary64

end FieldList.Decimal
