import Eligibility.Proofs.Json.Document

/-!
# Spelled numbers

The numbers that a JSON text may spell have an optional minus, digits without
needless leading zeros, an optional fraction and an optional power of ten.  The
reader of a document takes every such spelling to be the numeral that it spells and
reads on behind it.
-/

namespace Eligibility.Json

/-- A power of ten as it is spelled. -/
structure SpelledPower where
  letter : Char
  sign : List Char
  digits : List Char
  letter_known : letter = 'e' ∨ letter = 'E'
  sign_known : sign = [] ∨ sign = ['+'] ∨ sign = ['-']
  digits_nonempty : digits ≠ []
  digits_decimal : ∀ c ∈ digits, c.isDigit = true

/-- A number as it is spelled in a JSON text.  Without digits in the fraction
there is no point either. -/
structure SpelledNumber where
  negative : Bool
  whole : List Char
  fraction : List Char
  power : Option SpelledPower
  whole_nonempty : whole ≠ []
  whole_decimal : ∀ c ∈ whole, c.isDigit = true
  whole_leading : whole.head? = some '0' → whole = ['0']
  fraction_decimal : ∀ c ∈ fraction, c.isDigit = true

namespace SpelledPower

/-- The text of a power of ten. -/
def text (power : SpelledPower) : List Char :=
  power.letter :: (power.sign ++ power.digits)

/-- The exponent that is spelled. -/
def value (power : SpelledPower) : Int :=
  if power.sign = ['-'] then -(Numeral.digitsValue power.digits : Int)
  else Numeral.digitsValue power.digits

end SpelledPower

namespace SpelledNumber

/-- The point and the digits behind it. -/
def fractionText (number : SpelledNumber) : List Char :=
  if number.fraction = [] then [] else '.' :: number.fraction

/-- The power of ten, or nothing. -/
def powerText (number : SpelledNumber) : List Char :=
  (number.power.map SpelledPower.text).getD []

/-- The digits and all that follows them. -/
def unsignedText (number : SpelledNumber) : List Char :=
  number.whole ++ (number.fractionText ++ number.powerText)

/-- The text of a number. -/
def text (number : SpelledNumber) : List Char :=
  if number.negative then '-' :: number.unsignedText else number.unsignedText

/-- The numeral that is spelled. -/
def numeral (number : SpelledNumber) : Numeral where
  negative := number.negative
  whole := number.whole
  fraction := number.fraction
  exponent := number.power.map SpelledPower.value

end SpelledNumber

/-! ## Characters and digits -/

/-- The characters that a number may be spelled with. -/
def IsNumeric (c : Char) : Prop :=
  c.isDigit = true ∨ c ∈ ['-', '+', '.', 'e', 'E']

theorem SpelledPower.isNumeric_of_mem_text {power : SpelledPower} {c : Char}
    (member : c ∈ power.text) : IsNumeric c := by
  rcases List.mem_cons.mp member with rfl | member
  · rcases power.letter_known with letter_eq | letter_eq <;> simp [IsNumeric, letter_eq]
  rcases List.mem_append.mp member with member | member
  · rcases power.sign_known with sign_eq | sign_eq | sign_eq <;> rw [sign_eq] at member
    · cases member
    · simp_all [IsNumeric]
    · simp_all [IsNumeric]
  · exact .inl (power.digits_decimal c member)

theorem SpelledNumber.isNumeric_of_mem_text {number : SpelledNumber} {c : Char}
    (member : c ∈ number.text) : IsNumeric c := by
  have unsigned (member : c ∈ number.unsignedText) : IsNumeric c := by
    rcases List.mem_append.mp member with member | member
    · exact .inl (number.whole_decimal c member)
    rcases List.mem_append.mp member with member | member
    · rw [fractionText] at member
      split at member
      · cases member
      · rcases List.mem_cons.mp member with rfl | member
        · exact .inr (by decide)
        · exact .inl (number.fraction_decimal c member)
    · cases known : number.power with
      | none =>
          rw [powerText, known] at member
          cases member
      | some power =>
          rw [powerText, known] at member
          exact SpelledPower.isNumeric_of_mem_text member
  rw [text] at member
  split at member
  · rcases List.mem_cons.mp member with rfl | member
    · exact .inr (by decide)
    · exact unsigned member
  · exact unsigned member

/-- A text at which digits end. -/
def EndsDigits (rest : List Char) : Prop :=
  ∀ c ∈ rest.head?, c.isDigit = false

theorem takeWhile_isDigit_append {digits rest : List Char}
    (decimal : ∀ c ∈ digits, c.isDigit = true) (ends : EndsDigits rest) :
    (digits ++ rest).takeWhile Char.isDigit = digits := by
  rw [List.takeWhile_append_of_pos decimal]
  cases rest with
  | nil => simp
  | cons c rest =>
      have notDigit : ¬ c.isDigit = true := by simp [ends c rfl]
      rw [List.takeWhile_cons_of_neg notDigit, List.append_nil]

theorem dropWhile_isDigit_append {digits rest : List Char}
    (decimal : ∀ c ∈ digits, c.isDigit = true) (ends : EndsDigits rest) :
    (digits ++ rest).dropWhile Char.isDigit = rest := by
  rw [List.dropWhile_append_of_pos decimal]
  cases rest with
  | nil => rfl
  | cons c rest =>
      have notDigit : ¬ c.isDigit = true := by simp [ends c rfl]
      rw [List.dropWhile_cons_of_neg notDigit]

/-- The exponent of a spelled power is read, and what follows it is left. -/
theorem SpelledPower.scanExponent_append (power : SpelledPower) {rest : List Char}
    (ends : EndsDigits rest) :
    Numeral.scanExponent (power.sign ++ power.digits ++ rest) = some (power.value, rest) := by
  obtain ⟨letter, sign, digits, -, sign_known, nonempty, decimal⟩ := power
  have taken := takeWhile_isDigit_append decimal ends
  have dropped := dropWhile_isDigit_append decimal ends
  rcases List.exists_cons_of_ne_nil nonempty with ⟨first, others, rfl⟩
  have firstDecimal := decimal first List.mem_cons_self
  dsimp only [SpelledPower.value]
  rcases sign_known with rfl | rfl | rfl
  · have notMinus : first ≠ '-' := by
      rintro rfl
      contradiction
    have notPlus : first ≠ '+' := by
      rintro rfl
      contradiction
    rw [List.cons_append] at taken dropped
    simp [Numeral.scanExponent, notMinus, notPlus, taken, dropped]
  · rw [List.cons_append] at taken dropped
    simp [Numeral.scanExponent, taken, dropped]
  · rw [List.cons_append] at taken dropped
    simp [Numeral.scanExponent, taken, dropped]

/-! ## Reading a number and going on behind it -/

theorem Token.isSpace_of_numeric {first : Char} (numeric : first = '-' ∨ first.isDigit = true) :
    isSpace first = false := by
  apply Bool.eq_false_iff.mpr
  intro blank
  simp only [isSpace, Bool.or_eq_true, beq_iff_eq] at blank
  rcases blank with ((rfl | rfl) | rfl) | rfl <;> simp at numeric

/-- A minus or a digit starts a numeral. -/
theorem Token.starting_of_numeric {first : Char} {rest after : List Char} {numeral : Numeral}
    (numeric : first = '-' ∨ first.isDigit = true)
    (scanned : scanNumeral (first :: rest) = some (numeral, after)) :
    starting first rest = (number numeral, after) := by
  have noMark : first ≠ '\x7b' ∧ first ≠ '\x7d' ∧ first ≠ '[' ∧ first ≠ ']' ∧ first ≠ ':' ∧
      first ≠ ',' ∧ first ≠ '"' := by
    refine ⟨?_, ?_, ?_, ?_, ?_, ?_, ?_⟩ <;> rintro rfl <;> simp at numeric
  rcases noMark with ⟨openBrace, closeBrace, openBracket, closeBracket, colon, comma, quote⟩
  rw [starting.eq_def, if_neg openBrace, if_neg closeBrace, if_neg openBracket, if_neg closeBracket,
    if_neg colon, if_neg comma, if_neg quote, if_pos numeric,
    scanned]

/-- A text at which a number ends. -/
def EndsNumber (rest : List Char) : Prop :=
  ∀ c ∈ rest.head?, c.isDigit = false ∧ c ≠ '.' ∧ c ≠ 'e' ∧ c ≠ 'E'

namespace SpelledNumber

variable (number : SpelledNumber) {rest : List Char}

/-- Digits and the point end at a power of ten, or else where the number does. -/
theorem ends_powerText (ends : EndsNumber rest) :
    ∀ c ∈ (number.powerText ++ rest).head?, c.isDigit = false ∧ c ≠ '.' := by
  cases known : number.power with
  | none =>
      intro c first
      rw [powerText, known] at first
      exact ⟨(ends c first).1, (ends c first).2.1⟩
  | some power =>
      intro c first
      rw [powerText, known] at first
      cases first
      rcases power.letter_known with letter_eq | letter_eq
      · rw [letter_eq]
        decide
      · rw [letter_eq]
        decide

theorem endsDigits_powerText (ends : EndsNumber rest) :
    EndsDigits (number.powerText ++ rest) := fun c first =>
  (number.ends_powerText ends c first).1

theorem endsDigits_fractionText (ends : EndsNumber rest) :
    EndsDigits (number.fractionText ++ (number.powerText ++ rest)) := by
  rw [fractionText]
  split
  · exact number.endsDigits_powerText ends
  · rintro c ⟨⟩
    decide

theorem scanWhole_append (ends : EndsDigits rest) :
    Token.scanWhole (number.whole ++ rest) = some (number.whole, rest) := by
  have taken := takeWhile_isDigit_append number.whole_decimal ends
  have dropped := dropWhile_isDigit_append number.whole_decimal ends
  rcases List.exists_cons_of_ne_nil number.whole_nonempty with ⟨first, others, whole_eq⟩
  have leading := number.whole_leading
  rw [whole_eq] at taken dropped leading ⊢
  have notNeedless : ¬ (first = '0' ∧ others ≠ []) := by
    rintro ⟨rfl, more⟩
    cases leading rfl
    exact more rfl
  rw [Token.scanWhole, taken]
  dsimp only
  rw [if_neg notNeedless, dropped]

theorem scanFraction_append (ends : EndsNumber rest) :
    Token.scanFraction (number.fractionText ++ (number.powerText ++ rest)) =
      some (number.fraction, number.powerText ++ rest) := by
  have behind := number.ends_powerText ends
  by_cases none : number.fraction = []
  · rw [fractionText, if_pos none, none, List.nil_append]
    generalize number.powerText ++ rest = tail at behind
    rw [Token.scanFraction.eq_def]
    split
    · rename_i later
      exact absurd rfl (behind '.' rfl).2
    · rfl
  · have taken := takeWhile_isDigit_append number.fraction_decimal
      (number.endsDigits_powerText ends)
    have dropped := dropWhile_isDigit_append number.fraction_decimal
      (number.endsDigits_powerText ends)
    rw [fractionText, if_neg none, List.cons_append, Token.scanFraction, taken, dropped]
    split
    · contradiction
    · rfl

theorem scanPower_append (ends : EndsNumber rest) :
    Token.scanPower (number.powerText ++ rest) =
      some (number.power.map SpelledPower.value, rest) := by
  cases known : number.power with
  | none =>
      rw [powerText, known]
      change Token.scanPower rest = some (none, rest)
      cases rest with
      | nil => rfl
      | cons c rest =>
          have other := (ends c rfl).2.2
          rw [Token.scanPower, if_neg (by simp [other])]
  | some power =>
      have endsDigits : EndsDigits rest := fun c first => (ends c first).1
      have scanned := power.scanExponent_append endsDigits
      rw [powerText, known]
      change Token.scanPower (power.letter :: (power.sign ++ power.digits ++ rest)) = _
      rw [Token.scanPower, if_pos power.letter_known, scanned]
      rfl

theorem exists_unsignedText_eq_cons :
    ∃ first others, number.unsignedText = first :: others ∧ first.isDigit = true := by
  rcases List.exists_cons_of_ne_nil number.whole_nonempty with ⟨first, others, whole_eq⟩
  refine ⟨first, others ++ (number.fractionText ++ number.powerText), ?_, ?_⟩
  · rw [unsignedText, whole_eq, List.cons_append]
  · exact number.whole_decimal first (whole_eq ▸ List.mem_cons_self)

theorem exists_text_eq_cons :
    ∃ first others, number.text = first :: others ∧ (first = '-' ∨ first.isDigit = true) := by
  rcases number.exists_unsignedText_eq_cons with ⟨first, others, text_eq, digit⟩
  rw [text]
  cases number.negative with
  | true => exact ⟨'-', number.unsignedText, rfl, .inl rfl⟩
  | false => exact ⟨first, others, text_eq, .inr digit⟩

theorem text_ne_nil : number.text ≠ [] := by
  rcases number.exists_text_eq_cons with ⟨first, others, text_eq, -⟩
  rw [text_eq]
  exact List.cons_ne_nil first others

theorem scanUnsigned_append (ends : EndsNumber rest) :
    Token.scanUnsigned number.negative (number.unsignedText ++ rest) =
      some (number.numeral, rest) := by
  rw [unsignedText, List.append_assoc, List.append_assoc, Token.scanUnsigned,
    number.scanWhole_append (number.endsDigits_fractionText ends)]
  dsimp only
  rw [number.scanFraction_append ends]
  dsimp only
  rw [number.scanPower_append ends]
  rfl

/-- A spelled number is read as its numeral, whatever ends it. -/
theorem scanNumeral_append (ends : EndsNumber rest) :
    Token.scanNumeral (number.text ++ rest) = some (number.numeral, rest) := by
  have unsigned := number.scanUnsigned_append ends
  rcases number.exists_unsignedText_eq_cons with ⟨first, others, text_eq, digit⟩
  rw [text]
  cases sign : number.negative with
  | true =>
      rw [sign] at unsigned
      rw [if_pos rfl, List.cons_append, Token.scanNumeral, unsigned]
  | false =>
      rw [sign] at unsigned
      rw [if_neg Bool.false_ne_true, Token.scanNumeral.eq_def]
      split
      · rename_i rest negated
        rw [text_eq, List.cons_append] at negated
        cases negated
        contradiction
      · exact unsigned

theorem tokens_text_append (ends : EndsNumber rest) :
    tokens (number.text ++ rest) = .number number.numeral :: tokens rest := by
  have scanned := number.scanNumeral_append ends
  rcases number.exists_text_eq_cons with ⟨first, others, text_eq, numeric⟩
  rw [text_eq, List.cons_append] at scanned ⊢
  rw [tokens_cons (Token.isSpace_of_numeric numeric), Token.starting_of_numeric numeric scanned]

theorem after_text_append (state : Document.State) (ends : EndsNumber rest) :
    state.after (number.text ++ rest) =
      (Document.step state (.number number.numeral)).after rest := by
  rw [Document.State.after, number.tokens_text_append ends, List.foldl_cons, Document.State.after]

end SpelledNumber

end Eligibility.Json
