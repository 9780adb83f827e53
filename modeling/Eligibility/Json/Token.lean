import Eligibility.Json.Number
import Eligibility.Json.Quoted

/-!
# Tokens of a JSON text

A text is cut into tokens from left to right.  Where no token can be read the
text stops being JSON, and `bad` stands for all that is left of it.  A string
with an unpaired surrogate still is a token, because a reader that skips it
never asks for its characters; likewise a numeral is a token whatever its size.
-/

namespace Eligibility.Json

/-- A token of a JSON text. -/
inductive Token
  | openBrace
  | closeBrace
  | openBracket
  | closeBracket
  | colon
  | comma
  | null
  | bool (value : Bool)
  | number (numeral : Numeral)
  /-- A string, with its text if every surrogate in it is paired. -/
  | string (text : Option String)
  /-- The rest of a text that holds no token any more. -/
  | bad
deriving DecidableEq, Repr

namespace Token

/-- Reads the digits before the point, which start with zero only if that is
the only one. -/
def scanWhole (text : List Char) : Option (List Char × List Char) :=
  match text.takeWhile Char.isDigit with
  | [] => none
  | first :: digits =>
      if first = '0' ∧ digits ≠ [] then none
      else some (first :: digits, text.dropWhile Char.isDigit)

/-- Reads the point and the digits after it, if there is a point. -/
def scanFraction : List Char → Option (List Char × List Char)
  | '.' :: rest =>
      match rest.takeWhile Char.isDigit with
      | [] => none
      | digits => some (digits, rest.dropWhile Char.isDigit)
  | rest => some ([], rest)

/-- Reads the power of ten, if there is one. -/
def scanPower (text : List Char) : Option (Option Int × List Char) :=
  match text with
  | [] => some (none, [])
  | letter :: rest =>
      if letter = 'e' ∨ letter = 'E' then
        match Numeral.scanExponent rest with
        | some (power, after) => some (some power, after)
        | none => none
      else some (none, text)

/-- Reads the digits of a numeral whose sign is known. -/
def scanUnsigned (negative : Bool) (text : List Char) : Option (Numeral × List Char) :=
  match scanWhole text with
  | none => none
  | some (whole, afterWhole) =>
      match scanFraction afterWhole with
      | none => none
      | some (fraction, afterFraction) =>
          match scanPower afterFraction with
          | none => none
          | some (exponent, rest) => some ({ negative, whole, fraction, exponent }, rest)

/-- Reads a numeral of a JSON text. -/
def scanNumeral : List Char → Option (Numeral × List Char)
  | '-' :: rest => scanUnsigned true rest
  | text => scanUnsigned false text

/-- The space that may stand between tokens. -/
def isSpace (c : Char) : Bool :=
  c == ' ' || c == '\t' || c == '\n' || c == '\r'

/-- The token that starts with a given character, and the text after it. -/
def starting (first : Char) (rest : List Char) : Token × List Char :=
  if first = '{' then (openBrace, rest)
  else if first = '}' then (closeBrace, rest)
  else if first = '[' then (openBracket, rest)
  else if first = ']' then (closeBracket, rest)
  else if first = ':' then (colon, rest)
  else if first = ',' then (comma, rest)
  else if first = '"' then
    match Quoted.scan rest with
    | some (elements, after) =>
        (string ((Quoted.decode? elements).map String.ofList), after)
    | none => (bad, [])
  else if first = '-' ∨ first.isDigit then
    match scanNumeral (first :: rest) with
    | some (numeral, after) => (number numeral, after)
    | none => (bad, [])
  else
    match first, rest with
    | 'n', 'u' :: 'l' :: 'l' :: after => (null, after)
    | 't', 'r' :: 'u' :: 'e' :: after => (bool true, after)
    | 'f', 'a' :: 'l' :: 's' :: 'e' :: after => (bool false, after)
    | _, _ => (bad, [])

/-- The first token of a text and the text after it, unless only space is
left. -/
def next? (text : List Char) : Option (Token × List Char) :=
  match text.dropWhile isSpace with
  | [] => none
  | first :: rest => some (starting first rest)

end Token

/-! ## Every token consumes text -/

theorem length_dropWhile_le_length (p : Char → Bool) (text : List Char) :
    (text.dropWhile p).length ≤ text.length :=
  (List.dropWhile_suffix p).length_le

namespace Token

theorem length_le_of_scanExponent {text rest : List Char} {power : Int}
    (scanned : Numeral.scanExponent text = some (power, rest)) :
    rest.length ≤ text.length := by
  unfold Numeral.scanExponent at scanned
  grind [length_dropWhile_le_length]

theorem length_lt_of_scanWhole {text digits rest : List Char}
    (scanned : scanWhole text = some (digits, rest)) : rest.length < text.length := by
  unfold scanWhole at scanned
  have parts : (text.takeWhile Char.isDigit ++ text.dropWhile Char.isDigit).length = text.length :=
    congrArg List.length List.takeWhile_append_dropWhile
  grind

theorem length_le_of_scanFraction {text digits rest : List Char}
    (scanned : scanFraction text = some (digits, rest)) : rest.length ≤ text.length := by
  unfold scanFraction at scanned
  grind [length_dropWhile_le_length]

theorem length_le_of_scanPower {text rest : List Char} {power : Option Int}
    (scanned : scanPower text = some (power, rest)) : rest.length ≤ text.length := by
  unfold scanPower at scanned
  grind [→ length_le_of_scanExponent]

theorem length_lt_of_scanUnsigned {negative : Bool} {text rest : List Char} {numeral : Numeral}
    (scanned : scanUnsigned negative text = some (numeral, rest)) :
    rest.length < text.length := by
  unfold scanUnsigned at scanned
  grind [→ length_lt_of_scanWhole, → length_le_of_scanFraction, → length_le_of_scanPower]

theorem length_lt_of_scanNumeral {text rest : List Char} {numeral : Numeral}
    (scanned : scanNumeral text = some (numeral, rest)) : rest.length < text.length := by
  unfold scanNumeral at scanned
  grind [→ length_lt_of_scanUnsigned]

theorem length_starting_le (first : Char) (rest : List Char) :
    (starting first rest).2.length ≤ rest.length := by
  unfold starting
  grind [→ Quoted.length_lt_of_scan, → length_lt_of_scanNumeral]

theorem length_lt_of_next? {text rest : List Char} {token : Token}
    (read : next? text = some (token, rest)) : rest.length < text.length := by
  have dropped := length_dropWhile_le_length isSpace text
  unfold next? at read
  grind [length_starting_le]

end Token

/-- The tokens of a text, in text order. -/
def tokens (text : List Char) : List Token :=
  match read : Token.next? text with
  | none => []
  | some (token, rest) =>
      have := Token.length_lt_of_next? read
      token :: tokens rest
termination_by text.length

end Eligibility.Json
