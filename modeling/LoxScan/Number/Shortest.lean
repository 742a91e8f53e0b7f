import LoxScan.Number.Decimal

/-! The shortest decimal that reads back as a given double, and how it is written. The numbers that
round to a double form an interval, from halfway to the value below to halfway to the value above;
its ends belong to it exactly when the mantissa is even. For one digit, two digits and so on, the
two neighbours of the value among the decimals with so many digits are tried; the first count with a
neighbour inside the interval wins, and of two neighbours the nearer. -/

namespace LoxScan

namespace Decimal

/-- How `a * 10 ^ i` compares with `n * 2 ^ j`. -/
def compareBinary (a : Nat) (i : Int) (n : Nat) (j : Int) : Ordering :=
  compare (a * Nat.pow 10 i.toNat * Nat.pow 2 (-j).toNat)
    (n * Nat.pow 2 j.toNat * Nat.pow 10 (-i).toNat)

/-- Whether `d` rounds to the double `m * 2 ^ q`. Below a power of two the doubles lie twice as
close. -/
def roundsTo (d : Decimal) (m : Nat) (q : Int) : Bool :=
  let low := if m = Nat.pow 2 52 ∧ -1074 < q then 4 * m - 1 else 4 * m - 2
  let even := m % 2 == 0
  let below := compareBinary d.digits d.exponent low (q - 2)
  let above := compareBinary d.digits d.exponent (4 * m + 2) (q - 2)
  (below == .gt || (even && below == .eq)) && (above == .lt || (even && above == .eq))

/-- The least `k` with `m * 2 ^ q < 10 ^ k`, for a positive `m`: the binary logarithm leaves three
candidates. -/
def scaleOf (m : Nat) (q : Int) : Int :=
  let k := (((Nat.log2 m : Int) + q) * 30103).fdiv 100000
  if compareBinary 1 k m q == .gt then k
  else if compareBinary 1 (k + 1) m q == .gt then k + 1
  else k + 2

/-- The decimal nearest to `m * 2 ^ q` among those that are whole multiples of `10 ^ e` and round to
that double, if one of the two neighbours does. A tie goes to the even multiple. -/
def neighbour? (m : Nat) (q e : Int) : Option Decimal :=
  let floor := (m * Nat.pow 2 q.toNat * Nat.pow 10 (-e).toNat) /
    (Nat.pow 10 e.toNat * Nat.pow 2 (-q).toNat)
  let lower : Decimal := ⟨floor, e⟩
  let upper : Decimal := ⟨floor + 1, e⟩
  match roundsTo lower m q, roundsTo upper m q with
  | true, true =>
    match compareBinary (2 * floor + 1) e (2 * m) q with
    | .gt => some lower
    | .lt => some upper
    | .eq => some (if floor % 2 = 0 then lower else upper)
  | true, false => some lower
  | false, true => some upper
  | false, false => none

/-- The same number without zeros at the end of its digits; at most `fuel` of them are removed. -/
def stripZeros (d : Decimal) : Nat → Decimal
  | 0 => d
  | fuel + 1 =>
    if d.digits ≠ 0 ∧ d.digits % 10 = 0 then stripZeros ⟨d.digits / 10, d.exponent + 1⟩ fuel else d

/-- The decimal that equals `m * 2 ^ q`. -/
def exact (m : Nat) (q : Int) : Decimal :=
  if 0 ≤ q then ⟨m * Nat.pow 2 q.toNat, 0⟩ else ⟨m * Nat.pow 5 (-q).toNat, q⟩

/-- The shortest decimal that rounds to the double `m * 2 ^ q`, for a positive `m`. -/
def shortest (m : Nat) (q : Int) : Decimal :=
  let k := scaleOf m q
  match (List.range' 1 17).findSome? fun (n : Nat) => neighbour? m q (k - n) with
  | some d => stripZeros d 17
  | none => exact m q

/-- Numbers whose leading digit stands for `10 ^ leastPlain` up to before `10 ^ plainBelow` are
written without an exponent. -/
def leastPlain : Int := -4

/-- The first power of ten that is written with an exponent. -/
def plainBelow : Int := 16

/-- An exponent with its sign and at least two digits. -/
def writeExponent (e : Int) : String :=
  let digits := toString e.natAbs
  (if e < 0 then "e-" else "e+") ++ (if digits.length < 2 then "0" else "") ++ digits

/-- A positive number as text. Without an exponent it has at least one digit after the point. -/
def write (d : Decimal) : String :=
  let digits := Nat.toDigits 10 d.digits
  let zeros (n : Nat) : List Char := List.replicate n '0'
  let e : Int := d.exponent + digits.length - 1
  if leastPlain ≤ e ∧ e < plainBelow then
    String.ofList <|
      if 0 ≤ d.exponent then digits ++ zeros d.exponent.toNat ++ ['.', '0']
      else if 0 ≤ e then digits.take (e.toNat + 1) ++ '.' :: digits.drop (e.toNat + 1)
      else '0' :: '.' :: zeros ((-e).toNat - 1) ++ digits
  else
    let fraction := digits.drop 1
    String.ofList (digits.take 1 ++ if fraction.isEmpty then [] else '.' :: fraction)
      ++ writeExponent e

end Decimal

/-- The text of a double: the shortest decimal that reads back, with the sign in front. -/
def Double.write : Double → String
  | nan => "nan"
  | infinite negative => if negative then "-inf" else "inf"
  | finite negative m q =>
    (if negative then "-" else "") ++ if m = 0 then "0.0" else (Decimal.shortest m q).write

end LoxScan
