import Eligibility.Proofs.Condition.Attempt
import Eligibility.Proofs.Json.Number
import Eligibility.Proofs.Number.Spelling
import Eligibility.Record.FromText
import Eligibility.Rule.Evaluate

/-!
# One number in a record and in a rule

A number that is spelled in the text of a record is compared with the same
spelling as a literal.  The verdicts are those of two doubles, one for each of the
two readings, so the number equals itself exactly if the readings agree.  For
numerals that are rounded once they do.
-/

namespace Eligibility

open Eligibility.Text

/-! ## Field names in quotes -/

/-- A field character is written as it is. -/
theorem Json.Quoted.escape_of_isFieldChar {c : Char} (fieldChar : isFieldChar c = true) :
    escape c = [c] := by
  have large := le_toNat_of_isFieldChar fieldChar
  have notBackslash : c ≠ '\\' := by
    rintro rfl
    revert fieldChar
    decide +kernel
  have notSmall {d : Char} (small : d.toNat < 0x30) : c ≠ d := by
    rintro rfl
    omega
  rw [escape, if_neg (notSmall (by decide)), if_neg notBackslash, if_neg (notSmall (by decide)),
    if_neg (notSmall (by decide)), if_neg (notSmall (by decide)), if_neg (notSmall (by decide)),
    if_neg (notSmall (by decide)), if_neg (by omega)]

/-- A field name is written without escapes. -/
theorem Json.Quoted.write_of_isFieldChar {field : List Char}
    (chars : ∀ c ∈ field, isFieldChar c = true) : write field = '"' :: (field ++ ['"']) := by
  have plain : field.flatMap escape = field := by
    induction field with
    | nil => rfl
    | cons c field ih =>
        rcases List.forall_mem_cons.mp chars with ⟨fieldChar, rest⟩
        rw [List.flatMap_cons, escape_of_isFieldChar fieldChar, ih rest]
        rfl
  rw [write, plain]
  rfl

/-! ## A record with one number -/

namespace Record

/-- The text of a record with one field, which holds a number. -/
def numberText (field : List Char) (number : Json.SpelledNumber) : String :=
  String.ofList ('{' :: '"' :: (field ++ '"' :: ':' :: ' ' :: (number.text ++ ['}'])))

variable {field : List Char} {number : Json.SpelledNumber}

theorem ofText_document (chars : ∀ c ∈ field, isFieldChar c = true) :
    Json.Document.ofText (numberText field number).toList =
      ⟨.object [(some (String.ofList field), .number number.numeral)] true, false⟩ := by
  have text_eq : (numberText field number).toList =
      '{' :: (Json.Quoted.write field ++ ':' :: ' ' :: (number.text ++ ['}'])) := by
    rw [numberText, String.toList_ofList, Json.Quoted.write_of_isFieldChar chars]
    simp
  have ends : Json.EndsNumber ['}'] := by
    rintro c ⟨⟩
    decide
  rw [text_eq, Json.Document.State.ofText_eq, Json.Document.State.after_mark .openBrace rfl]
  change ((Json.Document.State.firstKey []).after _).document = _
  rw [Json.Document.State.after_firstKey, Json.Document.State.after_space,
    number.after_text_append _ ends, Json.Document.State.after_mark .closeBrace rfl,
    Json.Document.State.after_nil]
  rfl

theorem value?_numberDocument (name : String) (numeral : Numeral) :
    Json.Raw.value? Json.nestingLimit (.object [(some name, .number numeral)] true) =
      (Json.Number.ofNumeral? numeral).map fun actual => .object [(name, .number actual)] := by
  rw [Json.nestingLimit, Json.Raw.value?.eq_def]
  dsimp only
  rw [Json.Raw.memberValues?.eq_def]
  dsimp only
  rw [Json.Raw.value?.eq_def, Json.Raw.memberValues?.eq_def]
  dsimp only
  cases Json.Number.ofNumeral? numeral <;> rfl

/-- A text with one number is a record if the number can be read. -/
theorem ofText_numberText (chars : ∀ c ∈ field, isFieldChar c = true)
    (number : Json.SpelledNumber) :
    ofText (numberText field number) = match Json.Number.ofNumeral? number.numeral with
      | some actual => .ok (Table.ofPairs [(String.ofList field, .number actual)])
      | none => .error .notJson := by
  rw [ofText, ofText_document chars]
  dsimp only
  rw [value?_numberDocument]
  cases Json.Number.ofNumeral? number.numeral <;> rfl

end Record

/-! ## Conditions with the same number -/

theorem Text.isBlank_of_isNumeric {c : Char} (numeric : Json.IsNumeric c) : isBlank c = false := by
  rcases numeric with digit | member
  · simp only [Char.isDigit, Bool.and_eq_true, decide_eq_true_eq, ge_iff_le,
      UInt32.le_iff_toNat_le] at digit
    have bounds : 48 ≤ c.toNat ∧ c.toNat ≤ 57 := digit
    apply Bool.eq_false_iff.mpr
    rw [ne_eq, isBlank_iff_mem_blankCodes]
    simp only [blankCodes, List.mem_cons, List.not_mem_nil, or_false]
    omega
  · simp only [List.mem_cons, List.not_mem_nil, or_false] at member
    rcases member with rfl | rfl | rfl | rfl | rfl <;> rfl

namespace Condition

theorem isBare_of_isNumeric {text : List Char} (numeric : ∀ c ∈ text, Json.IsNumeric c) :
    IsBare text := by
  intro c member
  constructor
  · rintro rfl
    have absurd := numeric _ member
    simp [Json.IsNumeric] at absurd
  · rintro rfl
    have absurd := numeric _ member
    simp [Json.IsNumeric] at absurd

variable {field : List Char} {number : Json.SpelledNumber} {comparator : Comparator}

/-- The text of a condition that compares a field with a number. -/
def numberText (field : List Char) (comparator : Comparator) (number : Json.SpelledNumber) :
    String :=
  String.ofList (field ++ ' ' :: comparator.symbol :: ' ' :: number.text)

theorem trim_number : trim number.text = number.text := by
  have letters (c : Char) (member : c ∈ number.text) : isBlank c = false :=
    isBlank_of_isNumeric (Json.SpelledNumber.isNumeric_of_mem_text member)
  exact trim_eq_self (fun c first => letters c (List.mem_of_mem_head? first))
    fun c last => letters c (List.mem_of_mem_getLast? last)

/-- A condition with a number ends with the number. -/
theorem trim_condition (nonempty : field ≠ []) (chars : ∀ c ∈ field, isFieldChar c = true) :
    trim (field ++ ' ' :: comparator.symbol :: ' ' :: number.text) =
      field ++ ' ' :: comparator.symbol :: ' ' :: number.text := by
  apply trim_eq_self
  · intro c first
    rw [List.head?_append_of_ne_nil _ nonempty] at first
    exact isBlank_of_isFieldChar (chars c (List.mem_of_mem_head? first))
  · intro c last
    rw [show field ++ ' ' :: comparator.symbol :: ' ' :: number.text =
        (field ++ [' ', comparator.symbol, ' ']) ++ number.text by simp,
      List.getLast?_append_of_ne_nil _ number.text_ne_nil] at last
    have member := List.mem_of_mem_getLast? last
    exact isBlank_of_isNumeric (Json.SpelledNumber.isNumeric_of_mem_text member)

/-- A condition with a number, split at its two spaces. -/
def numberSplit (nonempty : field ≠ []) (chars : ∀ c ∈ field, isFieldChar c = true) :
    Split (field ++ ' ' :: comparator.symbol :: ' ' :: number.text) where
  field := field
  gap := [' ']
  comparator := comparator
  rest := ' ' :: number.text
  quotation :=
    { margin := [' ']
      opening := []
      body := number.text
      closing := []
      margin_isGap := by decide
      opening_isMark := .inl rfl
      body_nonempty := number.text_ne_nil
      body_isBare := isBare_of_isNumeric fun _ => Json.SpelledNumber.isNumeric_of_mem_text
      closing_isMark := .inl rfl
      text_eq := by simp }
  field_nonempty := nonempty
  field_chars := chars
  gap_isGap := by decide
  text_eq := by simp

theorem parse_numberText (nonempty : field ≠ []) (chars : ∀ c ∈ field, isFieldChar c = true) :
    parse (numberText field comparator number) =
      .ok ⟨String.ofList field, comparator, String.ofList number.text⟩ := by
  rw [numberText,
    parse_ofList_of_split (numberSplit nonempty chars) (trim_condition nonempty chars),
    Split.condition]
  simp only [numberSplit, trim_number]

end Condition

/-! ## Verdicts -/

/-- Three verdicts say that two doubles are the same number. -/
theorem Double.accepts_order_iff {x y : Double} :
    (∀ comparator : Comparator, comparator.accepts (x.order y) = (comparator == .equal)) ↔
      x.units = y.units := by
  constructor
  · intro verdicts
    have equal := verdicts .equal
    simpa [Comparator.accepts, order] using equal
  · intro same comparator
    rw [order, same]
    cases comparator <;> simp [Comparator.accepts]

variable {field : List Char} {number : Json.SpelledNumber}

/-- A number is compared as the two doubles that it is read as. -/
theorem Rule.evaluate_numberText (nonempty : field ≠ [])
    (chars : ∀ c ∈ field, isFieldChar c = true) (number : Json.SpelledNumber)
    (actual : Json.Number) (comparator : Comparator) :
    evaluate (Table.ofPairs [(String.ofList field, .number actual)])
        (.leaf (Condition.numberText field comparator number)) =
      match number.numeral.toDouble? with
      | some expected => .ok (comparator.accepts (actual.toDouble.order expected))
      | none => .error (.invalidLiteral (String.ofList number.text)) := by
  have literal : Literal.value? number.text = number.numeral.toDouble? := by
    rw [Literal.value?, Literal.read?_numberText, Option.bind_some]
  have found : (Table.ofPairs [(String.ofList field, .number actual)]).get? (String.ofList field) =
      some (Json.Value.number actual) := by
    change (Table.empty.put _ _).get? _ = _
    rw [Table.get?_put, if_pos rfl]
  rw [evaluate, checkLeaf, Condition.parse_numberText nonempty chars]
  change Condition.check _ _ = _
  rw [Condition.check]
  dsimp only
  rw [found]
  dsimp only
  rw [Condition.checkNumber]
  dsimp only
  cases expected : number.numeral.toDouble? with
  | none => rw [String.toList_ofList, literal, expected]
  | some nearest => rw [String.toList_ofList, literal, expected]

/-- A record in which a field equals a number, and is neither greater nor less than
it, as the conditions with the spelling of that number say. -/
def Record.EqualsNumber (record : Record) (field : List Char) (number : Json.SpelledNumber) :
    Prop :=
  Rule.evaluate record (.leaf (Condition.numberText field .equal number)) = .ok true ∧
  Rule.evaluate record (.leaf (Condition.numberText field .greater number)) = .ok false ∧
  Rule.evaluate record (.leaf (Condition.numberText field .less number)) = .ok false

/-- A record that is read from a text with one number. -/
theorem Record.exists_number_of_ofText {record : Record}
    (chars : ∀ c ∈ field, isFieldChar c = true)
    (accepted : ofText (numberText field number) = .ok record) :
    ∃ actual, Json.Number.ofNumeral? number.numeral = some actual ∧
      record = Table.ofPairs [(String.ofList field, .number actual)] := by
  rw [ofText_numberText chars number] at accepted
  cases read : Json.Number.ofNumeral? number.numeral with
  | none =>
      rw [read] at accepted
      contradiction
  | some actual =>
      rw [read] at accepted
      exact ⟨actual, rfl, (Except.ok.inj accepted).symm⟩

/-- A number equals itself if it is read as the same value both times. -/
theorem Record.equalsNumber_ofPairs_iff (nonempty : field ≠ [])
    (chars : ∀ c ∈ field, isFieldChar c = true) (number : Json.SpelledNumber)
    (actual : Json.Number) :
    EqualsNumber (Table.ofPairs [(String.ofList field, .number actual)]) field number ↔
      ∃ expected, number.numeral.toDouble? = some expected ∧
        actual.toDouble.units = expected.units := by
  have verdicts (comparator : Comparator) :=
    Rule.evaluate_numberText nonempty chars number actual comparator
  simp only [EqualsNumber, verdicts]
  cases number.numeral.toDouble? with
  | none => simp
  | some expected =>
      simp only [Except.ok.injEq, Option.some.injEq, exists_eq_left', ← Double.accepts_order_iff]
      constructor
      · rintro ⟨equal, greater, less⟩ comparator
        cases comparator with
        | equal => exact equal
        | greater => exact greater
        | less => exact less
      · intro alike
        exact ⟨alike .equal, alike .greater, alike .less⟩

/-- The verdicts on a number and its own spelling are those on the two doubles
that it is read as, so it equals itself exactly if the readings have the same
value.  They have if the numeral is rounded once. -/
theorem equalsNumber_iff_same_value {record : Record} (nonempty : field ≠ [])
    (chars : ∀ c ∈ field, isFieldChar c = true)
    (accepted : Record.ofText (Record.numberText field number) = .ok record) :
    (∃ actual, Json.Number.ofNumeral? number.numeral = some actual ∧
      (∀ comparator, Rule.evaluate record
          (.leaf (Condition.numberText field comparator number)) =
        match number.numeral.toDouble? with
        | some expected => .ok (comparator.accepts (actual.toDouble.order expected))
        | none => .error (.invalidLiteral (String.ofList number.text))) ∧
      (record.EqualsNumber field number ↔
        ∃ expected, number.numeral.toDouble? = some expected ∧
          actual.toDouble.units = expected.units)) ∧
    (number.numeral.RoundsOnce → record.EqualsNumber field number) := by
  rcases Record.exists_number_of_ofText chars accepted with ⟨actual, read, rfl⟩
  have equals := Record.equalsNumber_ofPairs_iff nonempty chars number actual
  refine ⟨⟨actual, read, Rule.evaluate_numberText nonempty chars number actual, equals⟩, ?_⟩
  intro once
  have alike := Json.Number.map_toDouble_of_roundsOnce once
  rw [read, Option.map_some] at alike
  exact equals.mpr ⟨actual.toDouble, alike.symm, rfl⟩

/-- A small decimal fraction is rounded once, when its digits are divided. -/
theorem equalsNumber_of_few_digits :
    ∃ (number : Json.SpelledNumber) (record : Record),
      Record.numberText ['x'] number = "\x7b\"x\": -0.1E-3\x7d" ∧
      Record.ofText (Record.numberText ['x'] number) = .ok record ∧
      number.numeral.RoundsOnce ∧ record.EqualsNumber ['x'] number := by
  let power : Json.SpelledPower := ⟨'E', ['-'], ['3'], by decide, by decide, by decide, by simp⟩
  let number : Json.SpelledNumber :=
    ⟨true, ['0'], ['1'], some power, by decide, by simp, by decide, by simp⟩
  have chars : ∀ c ∈ ['x'], isFieldChar c = true :=
    List.forall_mem_singleton.mpr (by decide +kernel)
  have once : number.numeral.RoundsOnce := by decide +kernel
  have read : ∃ actual, Json.Number.ofNumeral? number.numeral = some actual :=
    Option.isSome_iff_exists.mp (by decide +kernel)
  rcases read with ⟨actual, read⟩
  have accepted := Record.ofText_numberText chars number
  rw [read] at accepted
  exact ⟨number, _, by decide, accepted, once,
    (equalsNumber_iff_same_value (List.cons_ne_nil _ _) chars accepted).2 once⟩

/-- The number `3e23` is less than itself: of its two factors, the power of ten
is rounded before the product is. -/
theorem exists_number_less_than_itself :
    ∃ (number : Json.SpelledNumber) (record : Record),
      Record.numberText ['x'] number = "\x7b\"x\": 3e23\x7d" ∧
      Record.ofText (Record.numberText ['x'] number) = .ok record ∧
      Rule.evaluate record (.leaf "x = 3e23") = .ok false ∧
      Rule.evaluate record (.leaf "x > 3e23") = .ok false ∧
      Rule.evaluate record (.leaf "x < 3e23") = .ok true := by
  let power : Json.SpelledPower := ⟨'e', [], ['2', '3'], by decide, by decide, by decide, by simp⟩
  let number : Json.SpelledNumber :=
    ⟨false, ['3'], [], some power, by decide, by simp, by decide, by simp⟩
  have read : Json.Number.ofNumeral? number.numeral =
      some (.double ⟨false, 0x44CFC3842BD1F071, by decide⟩) := by
    decide +kernel
  have chars : ∀ c ∈ ['x'], isFieldChar c = true :=
    List.forall_mem_singleton.mpr (by decide +kernel)
  have accepted := Record.ofText_numberText chars number
  rw [read] at accepted
  refine ⟨number, _, by decide, accepted, ?_, ?_, ?_⟩
  · decide +kernel
  · decide +kernel
  · decide +kernel

end Eligibility
