import Eligibility.Number.Rounding

/-!
# Decimal numerals

A numeral is a sign, the digits before and after its point, and the power of
ten that may follow.  It denotes an exact rational number, and the double of a
numeral is the one nearest to that number.  Two numerals that differ only in
leading zeros, or in zeros at the end of the fraction, therefore have the same
double.
-/

namespace Eligibility

/-- A decimal numeral, taken apart. -/
structure Numeral where
  negative : Bool
  /-- The digits before the point. -/
  whole : List Char
  /-- The digits after the point. -/
  fraction : List Char
  /-- The power of ten, if one is written. -/
  exponent : Option Int
deriving DecidableEq, Repr

namespace Numeral

/-- What a decimal digit counts. -/
def digitValue (digit : Char) : Nat :=
  digit.toNat - '0'.toNat

/-- The number that digits write in base ten. -/
def digitsValue (digits : List Char) : Nat :=
  digits.foldl (fun value digit => 10 * value + digitValue digit) 0

/-- All digits of a numeral, read as one whole number. -/
def significand (numeral : Numeral) : Nat :=
  digitsValue (numeral.whole ++ numeral.fraction)

/-- The power of ten by which the significand is multiplied. -/
def scale (numeral : Numeral) : Int :=
  numeral.exponent.getD 0 - numeral.fraction.length

/-- The double nearest to `significand * 10 ^ scale`. -/
def nearestScaled? (negative : Bool) (significand : Nat) : Int → Option Double
  | .ofNat power =>
      Double.nearest? negative (significand * tenPow power * Double.unitsInOne) 1
  | .negSucc power =>
      Double.nearest? negative (significand * Double.unitsInOne) (tenPow (power + 1))

/-- The double nearest to the number that a numeral denotes, unless that number
is too large for one.  A power of ten that settles the answer by itself is not
computed: from `10 ^ 310` on a number is too large, and below `10 ^ (-330)` it
is nearest to zero. -/
def toDouble? (numeral : Numeral) : Option Double :=
  let digitCount := numeral.whole.length + numeral.fraction.length
  if numeral.significand = 0 then some (.zero numeral.negative)
  else if 310 ≤ numeral.scale then none
  else if numeral.scale + digitCount ≤ -330 then some (.zero numeral.negative)
  else nearestScaled? numeral.negative numeral.significand numeral.scale

/-- Reads a power of ten, of which the letter has been read: an optional sign
and at least one digit. -/
def scanExponent (text : List Char) : Option (Int × List Char) :=
  let (negative, unsigned) := match text with
    | '-' :: rest => (true, rest)
    | '+' :: rest => (false, rest)
    | rest => (false, rest)
  match unsigned.takeWhile Char.isDigit with
  | [] => none
  | digits =>
      let power : Int := digitsValue digits
      some (if negative then -power else power, unsigned.dropWhile Char.isDigit)

theorem digitsValue_append_singleton (digits : List Char) (digit : Char) :
    digitsValue (digits ++ [digit]) = 10 * digitsValue digits + digitValue digit := by
  simp [digitsValue]

end Numeral

end Eligibility
