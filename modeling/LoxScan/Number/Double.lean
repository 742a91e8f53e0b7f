/-! Double-precision numbers as exact values. A finite number is a whole number of units of a power
of two; no arithmetic is done on them here beyond rounding a ratio to the nearest one. -/

namespace LoxScan

/-- A number in double precision. A finite one is `mantissa * 2 ^ exponent`, negated if so marked,
with the mantissa below `2 ^ 53`, the exponent from -1074 to 971, and the exponent as small as the
mantissa allows, so that no value has two forms except zero, which has a sign. -/
inductive Double where
  | finite (negative : Bool) (mantissa : Nat) (exponent : Int)
  | infinite (negative : Bool)
  | nan
  deriving DecidableEq, Repr

namespace Double

def zero (negative : Bool) : Double := finite negative 0 (-1074)

/-- Equality of numbers: both zeros are equal, and what is no number equals nothing. -/
def numEq : Double → Double → Bool
  | nan, _ => false
  | _, nan => false
  | finite s m q, finite t n r => (m == 0 && n == 0) || (s == t && m == n && q == r)
  | infinite s, infinite t => s == t
  | _, _ => false

/-- `num / den` rounded to the nearest whole number, a half to the even one. -/
def divToEven (num den : Nat) : Nat :=
  let floor := num / den
  let rest := num % den
  if 2 * rest < den then floor
  else if den < 2 * rest then floor + 1
  else floor + floor % 2

/-- `num / den` in units of `2 ^ q`, as a numerator and a denominator. -/
def inUnits (num den : Nat) (q : Int) : Nat × Nat :=
  (num * Nat.pow 2 (-q).toNat, den * Nat.pow 2 q.toNat)

/-- The exponent of the doubles around `num / den`, both positive: the least one that leaves a
mantissa below `2 ^ 53`, and at least -1074. -/
def unitOf (num den : Nat) : Int :=
  let q := max ((Nat.log2 num : Int) - Nat.log2 den - 53) (-1074)
  let (n, d) := inUnits num den q
  if n / d < Nat.pow 2 53 then q else q + 1

/-- The double nearest to `num / den`, a tie going to the even mantissa. Numerator and denominator
are positive. -/
def ofRatio (negative : Bool) (num den : Nat) : Double :=
  let q := unitOf num den
  let (n, d) := inUnits num den q
  let m := divToEven n d
  let (m, q) := if m = Nat.pow 2 53 then (Nat.pow 2 52, q + 1) else (m, q)
  if 971 < q then infinite negative else finite negative m q

end Double

end LoxScan
