import Eligibility.Number.Literal
import Eligibility.Proofs.Json.SpelledNumber
import Mathlib.Data.List.TakeWhile

/-!
# Spelled literals

A numeric literal may be spelled with a sign of either kind, with a point that has
digits on one side only, and with a power of ten.  These spellings are all that is
read as a numeral, and each is read as what it spells.  The numbers that a JSON text
may spell are among them.
-/

namespace Eligibility.Literal

open Eligibility.Json

/-- A numeric literal as it is spelled.  Without a point there is no fraction. -/
structure Spelling where
  sign : List Char
  whole : List Char
  fraction : Option (List Char)
  power : Option SpelledPower
  sign_known : sign = [] ∨ sign = ['+'] ∨ sign = ['-']
  whole_decimal : ∀ c ∈ whole, c.isDigit = true
  fraction_decimal : ∀ c ∈ fraction.getD [], c.isDigit = true
  digits_nonempty : whole ++ fraction.getD [] ≠ []

namespace Spelling

/-- The point and the digits behind it. -/
def fractionText (spelling : Spelling) : List Char :=
  (spelling.fraction.map ('.' :: ·)).getD []

/-- The power of ten, or nothing. -/
def powerText (spelling : Spelling) : List Char :=
  (spelling.power.map SpelledPower.text).getD []

/-- The text of a literal. -/
def text (spelling : Spelling) : List Char :=
  spelling.sign ++ (spelling.whole ++ (spelling.fractionText ++ spelling.powerText))

/-- The numeral that is spelled. -/
def numeral (spelling : Spelling) : Numeral where
  negative := spelling.sign = ['-']
  whole := spelling.whole
  fraction := spelling.fraction.getD []
  exponent := spelling.power.map SpelledPower.value

end Spelling

/-! ## Reading what is spelled -/

/-- A text without a sign in front. -/
def Unsigned (text : List Char) : Prop :=
  ∀ c ∈ text.head?, c ≠ '+' ∧ c ≠ '-'

theorem scanSign_of_unsigned {text : List Char} (unsigned : Unsigned text) :
    scanSign text = (false, text) := by
  rw [scanSign.eq_def]
  split
  · exact absurd rfl (unsigned '-' rfl).2
  · exact absurd rfl (unsigned '+' rfl).1
  · rfl

theorem scanSign_append {sign rest : List Char} (known : sign = [] ∨ sign = ['+'] ∨ sign = ['-'])
    (unsigned : Unsigned rest) : scanSign (sign ++ rest) = (decide (sign = ['-']), rest) := by
  rcases known with rfl | rfl | rfl
  · exact scanSign_of_unsigned unsigned
  · rfl
  · rfl

theorem readExponent?_powerText (power : Option SpelledPower) :
    readExponent? ((power.map SpelledPower.text).getD []) =
      some (power.map SpelledPower.value) := by
  cases power with
  | none => rfl
  | some power =>
      have ends : EndsDigits [] := by simp [EndsDigits]
      have scanned := power.scanExponent_append ends
      rw [List.append_nil] at scanned
      change readExponent? (power.letter :: (power.sign ++ power.digits)) = _
      rw [readExponent?, if_pos power.letter_known, scanned]
      rfl

namespace Spelling

variable (spelling : Spelling)

/-- Neither a digit nor a point starts a power of ten. -/
theorem head?_powerText :
    ∀ c ∈ spelling.powerText.head?, c = 'e' ∨ c = 'E' := by
  intro c first
  cases known : spelling.power with
  | none =>
      rw [powerText, known] at first
      cases first
  | some power =>
      rw [powerText, known] at first
      cases first
      exact power.letter_known

theorem endsDigits_powerText : EndsDigits spelling.powerText := by
  intro c first
  rcases spelling.head?_powerText c first with rfl | rfl <;> rfl

theorem endsDigits_fractionText : EndsDigits (spelling.fractionText ++ spelling.powerText) := by
  cases known : spelling.fraction with
  | none =>
      rw [fractionText, known]
      exact spelling.endsDigits_powerText
  | some digits =>
      rw [fractionText, known]
      rintro c ⟨⟩
      rfl

theorem unsigned_digits :
    Unsigned (spelling.whole ++ (spelling.fractionText ++ spelling.powerText)) := by
  rcases spelling with ⟨-, whole, fraction, power, -, decimal, -, nonempty⟩
  cases whole with
  | cons digit others =>
      rintro c ⟨⟩
      have isDigit := decimal digit List.mem_cons_self
      constructor
      · rintro rfl
        cases isDigit
      · rintro rfl
        cases isDigit
  | nil =>
      cases fraction with
      | none => exact absurd rfl nonempty
      | some digits =>
          rintro c ⟨⟩
          decide

theorem scanFraction_fractionText :
    scanFraction (spelling.fractionText ++ spelling.powerText) =
      (spelling.fraction.getD [], spelling.powerText) := by
  cases known : spelling.fraction with
  | none =>
      have starts := spelling.head?_powerText
      rw [fractionText, known]
      change scanFraction spelling.powerText = _
      generalize spelling.powerText = tail at starts
      rw [scanFraction.eq_def]
      split
      · rcases starts '.' rfl with absurd | absurd <;> cases absurd
      · rfl
  | some digits =>
      have decimal : ∀ c ∈ digits, c.isDigit = true := by
        simpa [known] using spelling.fraction_decimal
      have taken := takeWhile_isDigit_append decimal spelling.endsDigits_powerText
      have dropped := dropWhile_isDigit_append decimal spelling.endsDigits_powerText
      rw [fractionText, known]
      change scanFraction ('.' :: (digits ++ spelling.powerText)) = _
      rw [scanFraction, taken, dropped]
      rfl

end Spelling

/-- A spelling is read as its numeral. -/
theorem read?_text (spelling : Spelling) : read? spelling.text = some spelling.numeral := by
  have taken := takeWhile_isDigit_append spelling.whole_decimal spelling.endsDigits_fractionText
  have dropped := dropWhile_isDigit_append spelling.whole_decimal spelling.endsDigits_fractionText
  rw [Spelling.text, read?, scanSign_append spelling.sign_known spelling.unsigned_digits]
  dsimp only
  rw [taken, dropped, spelling.scanFraction_fractionText]
  dsimp only
  rw [if_neg spelling.digits_nonempty, Spelling.powerText, readExponent?_powerText]
  rfl

/-! ## Nothing else is read -/

theorem isDigit_of_mem_takeWhile {text : List Char} :
    ∀ c ∈ text.takeWhile Char.isDigit, c.isDigit = true := fun _ =>
  List.mem_takeWhile_imp

theorem exists_sign_of_scanSign (text : List Char) :
    ∃ sign rest, (sign = [] ∨ sign = ['+'] ∨ sign = ['-']) ∧ text = sign ++ rest ∧
      scanSign text = (decide (sign = ['-']), rest) := by
  rw [scanSign.eq_def]
  split
  · exact ⟨['-'], _, by decide, rfl, rfl⟩
  · exact ⟨['+'], _, by decide, rfl, rfl⟩
  · exact ⟨[], text, by decide, rfl, rfl⟩

theorem exists_fraction_of_scanFraction (text : List Char) :
    ∃ (fraction : Option (List Char)) (rest : List Char),
      (∀ c ∈ fraction.getD [], c.isDigit = true) ∧
      text = (fraction.map ('.' :: ·)).getD [] ++ rest ∧
      scanFraction text = (fraction.getD [], rest) := by
  rw [scanFraction.eq_def]
  split
  · rename_i digits
    refine ⟨some (digits.takeWhile Char.isDigit), _, isDigit_of_mem_takeWhile, ?_, rfl⟩
    exact congrArg _ List.takeWhile_append_dropWhile.symm
  · exact ⟨none, text, by simp, rfl, rfl⟩

/-- A power of ten has a sign as the literal itself has. -/
theorem scanExponent_eq_scanSign (text : List Char) :
    Numeral.scanExponent text =
      match (scanSign text).2.takeWhile Char.isDigit with
      | [] => none
      | digits =>
          let power : Int := Numeral.digitsValue digits
          some (if (scanSign text).1 then -power else power,
            (scanSign text).2.dropWhile Char.isDigit) :=
  rfl

/-- A power of ten that is read has a sign and at least one digit. -/
theorem exists_power_of_scanExponent {letter : Char} {text : List Char} {value : Int}
    (known : letter = 'e' ∨ letter = 'E')
    (scanned : Numeral.scanExponent text = some (value, [])) :
    ∃ power : SpelledPower, letter :: text = power.text ∧ value = power.value := by
  rcases exists_sign_of_scanSign text with ⟨sign, unsigned, sign_known, rfl, sign_eq⟩
  rw [scanExponent_eq_scanSign, sign_eq] at scanned
  dsimp only at scanned
  split at scanned
  case h_1 => cases scanned
  case h_2 digits nonempty =>
    rcases Prod.mk.inj (Option.some.inj scanned) with ⟨rfl, rest_eq⟩
    have whole : unsigned.takeWhile Char.isDigit = unsigned := by
      have split := @List.takeWhile_append_dropWhile _ Char.isDigit unsigned
      rwa [rest_eq, List.append_nil] at split
    refine ⟨⟨letter, sign, _, known, sign_known, nonempty, isDigit_of_mem_takeWhile⟩, ?_, ?_⟩
    · exact congrArg (fun digits => letter :: (sign ++ digits)) whole.symm
    · simp [SpelledPower.value]

theorem exists_power_of_readExponent? {text : List Char} {exponent : Option Int}
    (read : readExponent? text = some exponent) :
    ∃ power : Option SpelledPower, text = (power.map SpelledPower.text).getD [] ∧
      exponent = power.map SpelledPower.value := by
  cases text with
  | nil =>
      cases read
      exact ⟨none, rfl, rfl⟩
  | cons letter rest =>
      rw [readExponent?] at read
      split at read
      case isTrue known =>
        split at read
        case h_1 value scanned =>
          cases read
          rcases exists_power_of_scanExponent known scanned with ⟨power, text_eq, value_eq⟩
          exact ⟨some power, text_eq, congrArg some value_eq⟩
        case h_2 => cases read
      case isFalse => cases read

/-- A text is read exactly if it spells a numeral, which is the one read. -/
theorem read?_eq_some_iff {text : List Char} {numeral : Numeral} :
    read? text = some numeral ↔
      ∃ spelling : Spelling, spelling.text = text ∧ spelling.numeral = numeral := by
  constructor
  · intro read
    rcases exists_sign_of_scanSign text with ⟨sign, unsigned, sign_known, rfl, sign_eq⟩
    rcases exists_fraction_of_scanFraction (unsigned.dropWhile Char.isDigit) with
      ⟨fraction, rest, decimal, rest_eq, fraction_eq⟩
    rw [read?, sign_eq] at read
    dsimp only at read
    rw [fraction_eq] at read
    dsimp only at read
    split at read
    case isTrue => cases read
    case isFalse nonempty =>
      rcases Option.map_eq_some_iff.mp read with ⟨exponent, exponent_eq, rfl⟩
      rcases exists_power_of_readExponent? exponent_eq with ⟨power, rfl, rfl⟩
      refine ⟨⟨sign, _, fraction, power, sign_known, isDigit_of_mem_takeWhile, decimal,
        nonempty⟩, ?_, rfl⟩
      have parts : unsigned.takeWhile Char.isDigit ++ ((fraction.map ('.' :: ·)).getD [] ++
          (power.map SpelledPower.text).getD []) = unsigned := by
        rw [← rest_eq, List.takeWhile_append_dropWhile]
      exact congrArg (sign ++ ·) parts
  · rintro ⟨spelling, rfl, rfl⟩
    exact read?_text spelling

/-! ## Numbers of a JSON text -/

/-- The spelling of a number of a JSON text, as a literal. -/
def Spelling.ofNumber (number : SpelledNumber) : Spelling where
  sign := if number.negative then ['-'] else []
  whole := number.whole
  fraction := if number.fraction = [] then none else some number.fraction
  power := number.power
  sign_known := by cases number.negative <;> simp
  whole_decimal := number.whole_decimal
  fraction_decimal := by
    split
    · simp
    · exact number.fraction_decimal
  digits_nonempty := List.append_ne_nil_of_left_ne_nil number.whole_nonempty _

theorem Spelling.text_ofNumber (number : SpelledNumber) :
    (ofNumber number).text = number.text := by
  have point_eq : (ofNumber number).fractionText = number.fractionText := by
    change ((if number.fraction = [] then none else some number.fraction).map ('.' :: ·)).getD [] =
      if number.fraction = [] then [] else '.' :: number.fraction
    split <;> rfl
  change (if number.negative then ['-'] else []) ++
    (number.whole ++ ((ofNumber number).fractionText ++ number.powerText)) = _
  rw [point_eq, SpelledNumber.text]
  split <;> rfl

theorem Spelling.numeral_ofNumber (number : SpelledNumber) :
    (ofNumber number).numeral = number.numeral := by
  have fraction_eq : (if number.fraction = [] then none else some number.fraction).getD [] =
      number.fraction := by
    split
    · rename_i none
      exact none.symm
    · rfl
  rw [numeral, SpelledNumber.numeral, Numeral.mk.injEq]
  refine ⟨?_, rfl, fraction_eq, rfl⟩
  cases sign : number.negative <;> simp [ofNumber, sign]

theorem read?_numberText (number : SpelledNumber) : read? number.text = some number.numeral := by
  rw [← Spelling.text_ofNumber, read?_text, Spelling.numeral_ofNumber]

end Eligibility.Literal
