import Eligibility.Number.Numeral

/-!
# Numeric literals of a rule

A numeric literal is an optional sign, digits with an optional point among or
around them, and an optional power of ten.  At least one digit stands before or
after the point, and nothing else surrounds the literal.  The words for
infinite values and for undefined ones are no numerals, and a numeral too large
for a double has no value either, so every value is finite.
-/

namespace Eligibility.Literal

/-- Reads the sign of a literal. -/
def scanSign : List Char → Bool × List Char
  | '-' :: rest => (true, rest)
  | '+' :: rest => (false, rest)
  | rest => (false, rest)

/-- Reads the point of a literal and the digits after it. -/
def scanFraction : List Char → List Char × List Char
  | '.' :: rest => (rest.takeWhile Char.isDigit, rest.dropWhile Char.isDigit)
  | rest => ([], rest)

/-- Reads what follows the digits of a literal, up to the end of the text. -/
def readExponent? : List Char → Option (Option Int)
  | [] => some none
  | letter :: rest =>
      if letter = 'e' ∨ letter = 'E' then
        match Numeral.scanExponent rest with
        | some (power, []) => some (some power)
        | _ => none
      else none

/-- The numeral that a whole text is, if it is one. -/
def read? (text : List Char) : Option Numeral :=
  let (negative, unsigned) := scanSign text
  let whole := unsigned.takeWhile Char.isDigit
  let (fraction, rest) := scanFraction (unsigned.dropWhile Char.isDigit)
  if whole ++ fraction = [] then none
  else (readExponent? rest).map fun exponent => { negative, whole, fraction, exponent }

/-- The finite double that a literal stands for, if it stands for one. -/
def value? (text : List Char) : Option Double :=
  (read? text).bind Numeral.toDouble?

end Eligibility.Literal
