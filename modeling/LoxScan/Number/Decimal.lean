import LoxScan.Number.Double
import LoxScan.Text.Blank
import LoxScan.Text.DecimalDigit

/-! Decimal numbers, and the reading of their text. A numeral is a run of digits with at most one
point; a full number may also have blanks around it, a sign, an exponent, single underscores between
digits, digits of any script, and the names of infinity and of what is no number. -/

namespace LoxScan

open Text

/-- The number `digits * 10 ^ exponent`. -/
structure Decimal where
  digits : Nat
  exponent : Int
  deriving DecidableEq, Repr

namespace Decimal

/-- The value of a decimal digit: those of one script stand in order, ten by ten. -/
def digitValue (c : Char) : Nat :=
  match decimalDigits.find? c.toNat with
  | some (first, _) => (c.toNat - first) % 10
  | none => 0

/-- The number that a run of decimal digits stands for. -/
def valueOf (cs : List Char) : Nat := cs.foldl (fun n c => 10 * n + digitValue c) 0

/-- The number whose digits before the point are `whole` and after it `fraction`, moved by
`exponent` places. -/
def ofDigits (whole fraction : List Char) (exponent : Int) : Decimal :=
  ⟨valueOf (whole ++ fraction), exponent - fraction.length⟩

/-- The number that a numeral stands for: digits, or digits, a point and digits. -/
def ofNumeral (cs : List Char) : Decimal :=
  ofDigits (cs.takeWhile (· != '.')) ((cs.dropWhile (· != '.')).drop 1) 0

/-- The nearest double. Numbers far outside the range of doubles are settled by their size, so that
a long exponent costs nothing. -/
def toDouble (negative : Bool) (d : Decimal) : Double :=
  if d.digits = 0 then Double.zero negative
  else if 310 < d.exponent then .infinite negative
  else if (Nat.log2 d.digits : Int) + 1 + 3 * d.exponent < -1080 then Double.zero negative
  else
    Double.ofRatio negative (d.digits * Nat.pow 10 d.exponent.toNat)
      (Nat.pow 10 (-d.exponent).toNat)

/-- Takes the underscores out of a run of digits; each must stand between two digits. -/
def joinDigits : List Char → Option (List Char)
  | [] => some []
  | [c] => if isDecimalDigit c then some [c] else none
  | c :: '_' :: d :: r =>
    if isDecimalDigit c && isDecimalDigit d then (joinDigits (d :: r)).map (c :: ·) else none
  | c :: r => if isDecimalDigit c then (joinDigits r).map (c :: ·) else none

/-- A sign at the start, and what follows it. -/
def splitSign : List Char → Bool × List Char
  | '-' :: r => (true, r)
  | '+' :: r => (false, r)
  | cs => (false, cs)

/-- The exponent after the letter `e`: a sign and at least one digit. -/
def readExponent (cs : List Char) : Option Int :=
  let (negative, digits) := splitSign cs
  match joinDigits digits with
  | none | some [] => none
  | some ds => some (if negative then -(valueOf ds : Int) else valueOf ds)

/-- An unsigned number: digits on at least one side of the point, then perhaps an exponent. -/
def readUnsigned (cs : List Char) : Option Decimal :=
  let isMark (c : Char) : Bool := c == 'e' || c == 'E'
  let number := cs.takeWhile (! isMark ·)
  let exponent := match cs.dropWhile (! isMark ·) with
    | [] => some 0
    | _ :: r => readExponent r
  let whole := joinDigits (number.takeWhile (· != '.'))
  let fraction := joinDigits ((number.dropWhile (· != '.')).drop 1)
  match whole, fraction, exponent with
  | some w, some f, some e => if w.isEmpty && f.isEmpty then none else some (ofDigits w f e)
  | _, _, _ => none

end Decimal

/-- The double that a text stands for, if it is the text of a number. -/
def Double.read? (s : String) : Option Double :=
  let (negative, cs) := Decimal.splitSign (trim s.toList)
  match String.ofList (cs.map Char.toLower) with
  | "inf" | "infinity" => some (.infinite negative)
  | "nan" => some .nan
  | _ => (Decimal.readUnsigned cs).map (·.toDouble negative)

end LoxScan
