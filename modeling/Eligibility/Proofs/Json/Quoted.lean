import Eligibility.Json.Quoted

/-!
# Written strings are read back

Every character is written as one element: an escaped unit for a control
character without a letter of its own, and the character itself otherwise.
Reading therefore follows writing element by element, up to the closing quote
and not beyond it, whatever the characters of the string are.
-/

namespace Eligibility.Json.Quoted

/-- The control characters that are escaped by a letter. -/
def HasLetter (char : Char) : Prop :=
  char = '\x08' ∨ char = '\x0c' ∨ char = '\n' ∨ char = '\r' ∨ char = '\t'

instance (char : Char) : Decidable (HasLetter char) :=
  inferInstanceAs (Decidable (_ ∨ _))

/-- The element as which a character is written. -/
def element (char : Char) : Element :=
  if char.toNat < 0x20 ∧ ¬ HasLetter char then .unit char.toNat else .char char

theorem hexValue?_hexDigit : ∀ value < 16, hexValue? (hexDigit value) = some value := by
  decide

theorem unitValue?_hexDigits {value : Nat} (small : value < 256) :
    unitValue? '0' '0' (hexDigit (value / 16)) (hexDigit (value % 16)) = some value := by
  have high := hexValue?_hexDigit (value / 16) (by omega)
  have low := hexValue?_hexDigit (value % 16) (Nat.mod_lt value (by decide))
  have zero : hexValue? '0' = some 0 := by decide
  simp only [unitValue?, zero, high, low, Option.bind_eq_bind, Option.bind_some, Option.pure_def,
    Option.some.injEq]
  omega

/-! ## Reading one element -/

theorem scan_quote (rest : List Char) : scan ('"' :: rest) = some ([], rest) := by
  rw [scan.eq_def]
  simp

/-- A backslash and the letter of an escape are one element. -/
theorem scan_letter {letter char : Char} (escaped : shortEscape? letter = some char)
    (rest : List Char) :
    scan ('\\' :: letter :: rest) =
      (scan rest).map fun read => (.char char :: read.1, read.2) := by
  have notUnit : letter ≠ 'u' := by
    rintro rfl
    contradiction
  rw [scan.eq_def]
  simp [notUnit, escaped]
  cases scan rest <;> rfl

theorem scan_unit {a b c d : Char} {value : Nat} (written : unitValue? a b c d = some value)
    (rest : List Char) :
    scan ('\\' :: 'u' :: a :: b :: c :: d :: rest) =
      (scan rest).map fun read => (.unit value :: read.1, read.2) := by
  rw [scan.eq_def]
  simp [written]
  cases scan rest <;> rfl

theorem scan_plain {char : Char} (notQuote : char ≠ '"') (notBackslash : char ≠ '\\')
    (notControl : ¬ char.toNat < 0x20) (rest : List Char) :
    scan (char :: rest) = (scan rest).map fun read => (.char char :: read.1, read.2) := by
  rw [scan.eq_def]
  simp [notQuote, notBackslash, notControl]
  cases scan rest <;> rfl

/-- A character is written with a letter, with hexadecimal digits or as it is. -/
theorem escape_cases (char : Char) :
    (∃ letter, escape char = ['\\', letter] ∧ shortEscape? letter = some char ∧
      element char = .char char) ∨
    (char.toNat < 0x20 ∧ element char = .unit char.toNat ∧
      escape char =
        ['\\', 'u', '0', '0', hexDigit (char.toNat / 16), hexDigit (char.toNat % 16)]) ∨
    (char ≠ '"' ∧ char ≠ '\\' ∧ ¬ char.toNat < 0x20 ∧ element char = .char char ∧
      escape char = [char]) := by
  by_cases lettered : HasLetter char ∨ char = '"' ∨ char = '\\'
  · rcases lettered with (rfl | rfl | rfl | rfl | rfl) | rfl | rfl
    all_goals exact .inl ⟨_, rfl, by decide, by decide⟩
  · simp only [HasLetter, not_or] at lettered
    rcases lettered with ⟨⟨backspace, formFeed, lineFeed, carriageReturn, tab⟩, quote, backslash⟩
    have unlettered : ¬ HasLetter char := by
      simp [HasLetter, backspace, formFeed, lineFeed, carriageReturn, tab]
    have written : escape char = if char.toNat < 0x20 then
        ['\\', 'u', '0', '0', hexDigit (char.toNat / 16), hexDigit (char.toNat % 16)]
        else [char] := by
      simp only [escape, backspace, formFeed, lineFeed, carriageReturn, tab, quote, backslash,
        if_false]
    by_cases control : char.toNat < 0x20
    · exact .inr (.inl ⟨control, if_pos ⟨control, unlettered⟩, by rw [written, if_pos control]⟩)
    · exact .inr (.inr ⟨quote, backslash, control, if_neg fun both => control both.1,
        by rw [written, if_neg control]⟩)

/-- One written character is read as its element. -/
theorem scan_escape_append (char : Char) (rest : List Char) :
    scan (escape char ++ rest) =
      (scan rest).map fun read => (element char :: read.1, read.2) := by
  rcases escape_cases char with
    ⟨letter, written, escaped, element_eq⟩ | ⟨control, element_eq, written⟩ |
      ⟨quote, backslash, control, element_eq, written⟩
  · rw [written, element_eq]
    exact scan_letter escaped rest
  · rw [written, element_eq]
    exact scan_unit (unitValue?_hexDigits (Nat.lt_trans control (by decide))) rest
  · rw [written, element_eq]
    exact scan_plain quote backslash control rest

/-- The elements of a written string are those of its characters, and reading
stops behind the closing quote. -/
theorem scan_written_append (text rest : List Char) :
    scan (text.flatMap escape ++ '"' :: rest) = some (text.map element, rest) := by
  induction text with
  | nil => exact scan_quote rest
  | cons char text ih =>
      rw [List.flatMap_cons, List.append_assoc, scan_escape_append, ih]
      rfl

/-! ## From elements back to characters -/

/-- The element of a character stands for that character. -/
theorem decode?_element_cons (char : Char) (elements : List Element) :
    decode? (element char :: elements) = (decode? elements).map (char :: ·) := by
  unfold element
  split
  · rename_i control
    have notLeading : isLeading char.toNat = false := by
      simp [isLeading]
      omega
    have notTrailing : isTrailing char.toNat = false := by
      simp [isTrailing]
      omega
    rw [decode?.eq_def]
    simp [notLeading, notTrailing, Char.ofNat_toNat]
  · rfl

theorem decode?_map_element (text : List Char) : decode? (text.map element) = some text := by
  induction text with
  | nil => rfl
  | cons char text ih => rw [List.map_cons, decode?_element_cons, ih, Option.map_some]

end Eligibility.Json.Quoted
