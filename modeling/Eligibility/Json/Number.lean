import Eligibility.Number.Numeral

/-!
# Numbers of a JSON document

A numeral without fraction and power of ten stands for a whole number as long
as sixty-four bits hold it, signed or unsigned; minus zero is the double.  Any
other numeral stands for a double, which is found from as many leading digits as
sixty-four bits hold and then scaled by powers of ten, each step rounded.  A
numeral too large for a double stands for nothing.
-/

namespace Eligibility.Json

/-- A number of a JSON document. -/
inductive Number
  | integer (value : WideInteger)
  | double (value : Double)
deriving DecidableEq, Repr

namespace Number

/-- The double nearest to a number. -/
def toDouble : Number → Double
  | integer value => value.toDouble
  | double value => value

/-- The greatest number of sixty-four bits. -/
def significandLimit : Nat :=
  0xFFFFFFFFFFFFFFFF

/-- Takes digits into a significand while it stays within its limit; answers
the significand and the digits that are left. -/
def takeDigits (significand : Nat) : List Char → Nat × List Char
  | [] => (significand, [])
  | digit :: digits =>
      let longer := 10 * significand + Numeral.digitValue digit
      if longer ≤ significandLimit then takeDigits longer digits
      else (significand, digit :: digits)

/-- Divides by `10 ^ 308` a given number of times; zero stays zero. -/
def shrink : Nat → Double → Option Double
  | 0, x => some x
  | times + 1, x =>
      if x.isZero then some x
      else do
        let divisor ← Double.ofInt? (tenPow 308)
        let smaller ← x.div? divisor
        shrink times smaller

/-- Multiplies a double by a power of ten, in steps of at most `10 ^ 308`. -/
def scaleByTen (x : Double) : Int → Option Double
  | .ofNat power =>
      if power ≤ 308 then do
        let factor ← Double.ofInt? (tenPow power)
        x.mul? factor
      else if x.isZero then some x
      else none
  | .negSucc power => do
      let smaller ← shrink (power / 308) x
      let divisor ← Double.ofInt? (tenPow (power % 308 + 1))
      smaller.div? divisor

/-- The number that a numeral of a JSON document stands for. -/
def ofNumeral? (numeral : Numeral) : Option Number := do
  let (wholeDigits, wholeRest) := takeDigits 0 numeral.whole
  let (digits, fractionRest) := takeDigits wholeDigits numeral.fraction
  if numeral.fraction = [] ∧ numeral.exponent = none ∧ wholeRest = [] then
    if numeral.negative then
      if digits = 0 then return double (.zero true)
      match WideInteger.ofInt? (-digits) with
      | some value => return integer value
      | none =>
          let magnitude ← WideInteger.ofInt? digits
          return double (magnitude.toDouble.withSign true)
    else
      let value ← WideInteger.ofInt? digits
      return integer value
  else
    let power : Int := numeral.exponent.getD 0 + wholeRest.length + fractionRest.length
      - numeral.fraction.length
    let significand ← WideInteger.ofInt? digits
    let magnitude ← scaleByTen significand.toDouble power
    return double (magnitude.withSign numeral.negative)

end Number

end Eligibility.Json
