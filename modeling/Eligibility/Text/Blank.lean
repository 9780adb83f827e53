/-!
# Blank characters

The blank characters are the twenty-five of the Unicode property White_Space.
They separate the words of a rule text and are trimmed from its two ends, so
zero-width spaces and the byte order mark are ordinary characters here.  A text
is cut into its maximal runs of blank and of other characters, and nothing of
it is lost: the runs concatenate to the text.
-/

namespace Eligibility.Text

/-- A blank character: one with the Unicode property White_Space. -/
def isBlank (c : Char) : Bool :=
  let code := c.toNat
  (9 ≤ code && code ≤ 13) || code == 0x20 || code == 0x85 || code == 0xA0 ||
    code == 0x1680 || (0x2000 ≤ code && code ≤ 0x200A) || code == 0x2028 ||
    code == 0x2029 || code == 0x202F || code == 0x205F || code == 0x3000

/-- A text without the blank characters at its start. -/
def trimStart (text : List Char) : List Char :=
  text.dropWhile isBlank

/-- A text without the blank characters at its end. -/
def trimEnd (text : List Char) : List Char :=
  (text.reverse.dropWhile isBlank).reverse

/-- A text without the blank characters at its two ends. -/
def trim (text : List Char) : List Char :=
  trimEnd (trimStart text)

/-- The maximal runs of blank and of other characters, in text order. -/
def runs (text : List Char) : List (List Char) :=
  text.splitBy fun c d => isBlank c == isBlank d

@[simp]
theorem trim_nil : trim [] = [] :=
  rfl

end Eligibility.Text
