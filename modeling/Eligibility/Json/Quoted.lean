/-!
# Quoted strings of a JSON document

Between its quotes a string is written character by character or with escapes.
An escape `\u` gives one unit of UTF-16, so two escapes in a row may stand for
one character.  Reading therefore has two layers: the elements that are written,
and the characters that they stand for.  A surrogate that is not one half of a
pair stands for no character.  Writing escapes the quote, the backslash and the
characters below U+0020, and nothing else.
-/

namespace Eligibility.Json

/-- One element of a quoted string: a character, or a unit of UTF-16 that is
written as an escape. -/
inductive Element
  | char (value : Char)
  | unit (value : Nat)
deriving DecidableEq, Repr

namespace Quoted

/-- What a hexadecimal digit counts. -/
def hexValue? (digit : Char) : Option Nat :=
  if digit.isDigit then some (digit.toNat - '0'.toNat)
  else if 'a' ≤ digit ∧ digit ≤ 'f' then some (digit.toNat - 'a'.toNat + 10)
  else if 'A' ≤ digit ∧ digit ≤ 'F' then some (digit.toNat - 'A'.toNat + 10)
  else none

/-- The unit that four hexadecimal digits write. -/
def unitValue? (first second third fourth : Char) : Option Nat := do
  let a ← hexValue? first
  let b ← hexValue? second
  let c ← hexValue? third
  let d ← hexValue? fourth
  return ((a * 16 + b) * 16 + c) * 16 + d

/-- The character that a backslash and one letter stand for. -/
def shortEscape? (letter : Char) : Option Char :=
  if letter = '"' ∨ letter = '\\' ∨ letter = '/' then some letter
  else if letter = 'b' then some '\x08'
  else if letter = 'f' then some '\x0c'
  else if letter = 'n' then some '\n'
  else if letter = 'r' then some '\r'
  else if letter = 't' then some '\t'
  else none

/-- Reads the elements of a string up to its closing quote, and that quote. -/
def scan : List Char → Option (List Element × List Char)
  | [] => none
  | first :: rest =>
      if first = '"' then some ([], rest)
      else if first = '\\' then
        match rest with
        | [] => none
        | 'u' :: a :: b :: c :: d :: rest =>
            match unitValue? a b c d, scan rest with
            | some unit, some (elements, after) => some (.unit unit :: elements, after)
            | _, _ => none
        | letter :: rest =>
            match shortEscape? letter, scan rest with
            | some char, some (elements, after) => some (.char char :: elements, after)
            | _, _ => none
      else if first.toNat < 0x20 then none
      else
        match scan rest with
        | some (elements, after) => some (.char first :: elements, after)
        | none => none

/-- Whether a unit is the first half of a pair. -/
def isLeading (unit : Nat) : Bool :=
  0xD800 ≤ unit && unit ≤ 0xDBFF

/-- Whether a unit is the second half of a pair. -/
def isTrailing (unit : Nat) : Bool :=
  0xDC00 ≤ unit && unit ≤ 0xDFFF

/-- The characters that elements stand for, if every surrogate is paired. -/
def decode? : List Element → Option (List Char)
  | [] => some []
  | .char value :: elements => (decode? elements).map (value :: ·)
  | .unit first :: elements =>
      if isLeading first then
        match elements with
        | .unit second :: elements =>
            if isTrailing second then
              let code := 0x10000 + (first - 0xD800) * 0x400 + (second - 0xDC00)
              (decode? elements).map (Char.ofNat code :: ·)
            else none
        | _ => none
      else if isTrailing first then none
      else (decode? elements).map (Char.ofNat first :: ·)

/-- The hexadecimal digit that counts a number below sixteen. -/
def hexDigit (value : Nat) : Char :=
  Char.ofNat (if value < 10 then '0'.toNat + value else 'a'.toNat + (value - 10))

/-- One character as it is written in a string. -/
def escape (char : Char) : List Char :=
  if char = '"' then ['\\', '"']
  else if char = '\\' then ['\\', '\\']
  else if char = '\x08' then ['\\', 'b']
  else if char = '\x0c' then ['\\', 'f']
  else if char = '\n' then ['\\', 'n']
  else if char = '\r' then ['\\', 'r']
  else if char = '\t' then ['\\', 't']
  else if char.toNat < 0x20 then
    ['\\', 'u', '0', '0', hexDigit (char.toNat / 16), hexDigit (char.toNat % 16)]
  else [char]

/-- A text as a string of a JSON document, with its quotes. -/
def write (text : List Char) : List Char :=
  '"' :: text.flatMap escape ++ ['"']

theorem length_lt_of_scan {text rest : List Char} {elements : List Element}
    (scanned : scan text = some (elements, rest)) : rest.length < text.length := by
  fun_induction scan text generalizing elements rest <;>
    grind [List.length_cons]

end Quoted

end Eligibility.Json
