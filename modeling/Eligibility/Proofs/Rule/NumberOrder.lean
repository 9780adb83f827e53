import Eligibility.Proofs.Number.Decimal
import Eligibility.Proofs.Number.Spelling
import Eligibility.Rule.Evaluate
import Mathlib.Tactic.FieldSimp

/-!
# Verdicts on numbers

A number of a record and a numeric literal are compared as doubles, each the one
nearest to its exact value.  Two values may have the same double, but as rounding
keeps their order, a verdict never puts them in the wrong one, and it is exact for
two values that need no rounding.  A literal without a finite double gives no
verdict at all, but every finite double has a literal.
-/

namespace Eligibility

/-! ## Numbers of a record -/

/-- The exact value of a number of a record. -/
def Json.Number.value : Json.Number → ℚ
  | .integer n => n.value
  | .double x => x.value

theorem Json.Number.units_toDouble (number : Json.Number) :
    number.toDouble.units = Double.nearestUnits number.value := by
  cases number with
  | integer n => exact n.units_toDouble
  | double x => exact x.nearestUnits_value.symm

/-! ## Numeric literals -/

namespace Literal

/-- A literal is spelled as a numeral with a certain exact value. -/
def Denotes (literal : String) (value : ℚ) : Prop :=
  ∃ spelling : Spelling, spelling.text = literal.toList ∧ spelling.numeral.value = value

theorem Spelling.isDecimal (spelling : Spelling) : spelling.numeral.IsDecimal :=
  List.forall_mem_append.mpr ⟨spelling.whole_decimal, spelling.fraction_decimal⟩

variable {literal : String} {value : ℚ}

theorem value?_of_not_denotes (none : ¬ ∃ value, Denotes literal value) :
    value? literal.toList = Option.none := by
  rw [value?]
  cases read : read? literal.toList with
  | none => rfl
  | some numeral =>
      rcases read?_eq_some_iff.mp read with ⟨spelling, text_eq, -⟩
      exact absurd ⟨_, spelling, text_eq, rfl⟩ none

/-- The double of a literal is the one nearest to its value. -/
theorem value?_of_spelling {spelling : Spelling} (text_eq : spelling.text = literal.toList) :
    value? literal.toList = Double.ofRank? spelling.numeral.negative
      (Double.nearestRankOf spelling.numeral.value) := by
  rw [value?, read?_eq_some_iff.mpr ⟨spelling, text_eq, rfl⟩, Option.bind_some,
    Numeral.toDouble?_eq spelling.isDecimal]

theorem value?_of_overflow (denotes : Denotes literal value)
    (large : 2 ^ 1024 - 2 ^ 970 ≤ |value|) : value? literal.toList = none := by
  rcases denotes with ⟨spelling, text_eq, rfl⟩
  rw [← not_lt, ← Double.nearestRankOf_lt_rankLimit_iff] at large
  rw [value?_of_spelling text_eq, Double.ofRank?, dif_neg large]

theorem exists_value?_of_denotes (denotes : Denotes literal value)
    (small : |value| < 2 ^ 1024 - 2 ^ 970) :
    ∃ expected, value? literal.toList = some expected ∧
      expected.units = Double.nearestUnits value := by
  rcases denotes with ⟨spelling, text_eq, rfl⟩
  rw [← Double.nearestRankOf_lt_rankLimit_iff] at small
  refine ⟨⟨spelling.numeral.negative, _, small⟩, ?_, ?_⟩
  · rw [value?_of_spelling text_eq, Double.ofRank?, dif_pos small]
  · apply Double.units_eq_nearestUnits rfl
    · exact Numeral.value_nonpos
    · exact Numeral.value_nonneg

end Literal

/-! ## Literals of doubles -/

namespace Double

/-- The digits of a double as a decimal number, with the point at their end. -/
def digits (x : Double) : List Char :=
  Nat.toDigits 10 (magnitude x.rank * 5 ^ 1074)

/-- The power of ten that the digits of a double are to be multiplied by. -/
def pointPower : Json.SpelledPower :=
  ⟨'e', ['-'], ['1', '0', '7', '4'], .inl rfl, .inr (.inr rfl), by decide, by simp⟩

/-- An exact spelling of a double. -/
def spelling (x : Double) : Literal.Spelling where
  sign := if x.negative then ['-'] else []
  whole := x.digits
  fraction := none
  power := some pointPower
  sign_known := by cases x.negative <;> simp
  whole_decimal _ member := Nat.isDigit_of_mem_toDigits (by decide) (by decide) member
  fraction_decimal := by simp
  digits_nonempty := List.append_ne_nil_of_left_ne_nil Nat.toDigits_ne_nil _

/-- Binary places are as many decimal places. -/
theorem mul_five_pow_mul_ten_zpow (number places : Nat) :
    ((number * 5 ^ places : Nat) : ℚ) * (10 : ℚ) ^ (-(places : Int)) =
      (number : ℚ) / (1 <<< places : Nat) := by
  have ten_pow : (10 : ℚ) ^ places = 5 ^ places * 2 ^ places := by
    rw [← mul_pow]
    norm_num
  rw [zpow_neg, zpow_natCast, ten_pow, Nat.shiftLeft_eq, Nat.one_mul]
  push_cast
  field_simp

theorem significand_spelling (x : Double) :
    x.spelling.numeral.significand = magnitude x.rank * 5 ^ 1074 := by
  change Numeral.digitsValue (x.digits ++ []) = _
  rw [List.append_nil]
  exact Nat.ofDigitChars_toDigits (by decide) (by decide)

/-- The spelling of a double is exact. -/
theorem value_numeral_spelling (x : Double) : x.spelling.numeral.value = x.value := by
  have scale_eq : x.spelling.numeral.scale = -(1074 : Nat) := rfl
  have negative_eq : x.spelling.numeral.negative = x.negative := by
    change decide ((if x.negative then ['-'] else []) = ['-']) = x.negative
    cases x.negative <;> rfl
  rw [Numeral.value, significand_spelling, scale_eq, negative_eq, mul_five_pow_mul_ten_zpow,
    value, units, unitsInOne]
  cases x.negative with
  | true => simp [neg_div]
  | false => simp

/-- Every double is the value of a literal, up to the sign of zero. -/
theorem exists_literal (x : Double) :
    ∃ (literal : String) (y : Double),
      Literal.value? literal.toList = some y ∧ y.units = x.units := by
  have denotes : Literal.Denotes (String.ofList x.spelling.text) x.value :=
    ⟨x.spelling, String.toList_ofList.symm, x.value_numeral_spelling⟩
  rcases Literal.exists_value?_of_denotes denotes (IsExact.abs_lt ⟨x, rfl⟩) with
    ⟨y, read, units_eq⟩
  exact ⟨_, y, read, units_eq.trans x.nearestUnits_value⟩

end Double

/-! ## Verdicts -/

namespace Comparator

/-- What a comparison says about two members of an order. -/
def Holds {α : Type} [LT α] : Comparator → α → α → Prop
  | equal, value, other => value = other
  | greater, value, other => other < value
  | less, value, other => value < other

theorem accepts_compare_iff {comparator : Comparator} {x y : Int} :
    comparator.accepts (compare x y) = true ↔ comparator.Holds x y := by
  cases comparator with
  | equal => simp [accepts, Holds]
  | greater => simp [accepts, Holds, compare_gt_iff_gt]
  | less => simp [accepts, Holds, compare_lt_iff_lt]

/-- Rounding does not matter to values that are exact. -/
theorem holds_nearestUnits_iff {comparator : Comparator} {value other : ℚ}
    (exactly : Double.IsExact value) (otherExactly : Double.IsExact other) :
    comparator.Holds (Double.nearestUnits value) (Double.nearestUnits other) ↔
      comparator.Holds value other := by
  have above := Double.nearestUnits_lt_iff exactly otherExactly
  have below := Double.nearestUnits_lt_iff otherExactly exactly
  cases comparator with
  | equal =>
      constructor
      · intro same
        have units_eq : Double.nearestUnits value = Double.nearestUnits other := same
        apply le_antisymm
        · exact not_lt.mp (mt below.mpr units_eq.not_gt)
        · exact not_lt.mp (mt above.mpr units_eq.not_lt)
      · rintro rfl
        rfl
  | greater => exact below
  | less => exact above

/-- Exactly one of the three comparisons comes out as asked. -/
theorem existsUnique_accepts (order : Ordering) :
    ∃! comparator : Comparator, comparator.accepts order = true := by
  cases order with
  | lt =>
      refine ⟨less, rfl, fun comparator accepted => ?_⟩
      cases comparator <;> simp_all [accepts]
  | eq =>
      refine ⟨equal, rfl, fun comparator accepted => ?_⟩
      cases comparator <;> simp_all [accepts]
  | gt =>
      refine ⟨greater, rfl, fun comparator accepted => ?_⟩
      cases comparator <;> simp_all [accepts]

/-- Verdicts on two exact values that never contradict their order.  One of them comes out
as asked, and only one; it may say that two values are equal that are not, but not if no
rounding is needed for either. -/
structure KeepOrder (verdict : Comparator → Bool) (value other : ℚ) : Prop where
  unique : ∃! comparator, verdict comparator = true
  greater : verdict .greater = true → other < value
  less : verdict .less = true → value < other
  equal : value = other → verdict .equal = true
  unrounded : Double.IsExact value → Double.IsExact other →
    ∀ comparator, verdict comparator = true ↔ comparator.Holds value other

/-- The nearest doubles of two values keep their order. -/
theorem keepOrder_accepts (value other : ℚ) :
    KeepOrder (fun comparator =>
      comparator.accepts (compare (Double.nearestUnits value) (Double.nearestUnits other)))
      value other where
  unique := existsUnique_accepts _
  greater accepted := Double.lt_of_nearestUnits_lt (accepts_compare_iff.mp accepted)
  less accepted := Double.lt_of_nearestUnits_lt (accepts_compare_iff.mp accepted)
  equal same := accepts_compare_iff.mpr (congrArg Double.nearestUnits same)
  unrounded exactly otherExactly _ :=
    accepts_compare_iff.trans (holds_nearestUnits_iff exactly otherExactly)

end Comparator

namespace Condition

variable {record : Record} {field : String} {actual : Json.Number}

/-- A number of a record is compared with the double of the literal, if it has one. -/
theorem check_of_number (found : record.get? field = some (.number actual))
    (comparator : Comparator) (literal : String) :
    check ⟨field, comparator, literal⟩ record =
      match Literal.value? literal.toList with
      | some expected => .ok (comparator.accepts (actual.toDouble.order expected))
      | none => .error (.invalidLiteral literal) := by
  rw [check]
  dsimp only
  rw [found]
  rfl

/-- A number of a record and a literal are never compared against their order.  A literal
that is no numeral or has no finite double is an error for each of the three comparators;
for any other one their verdicts keep the order of the exact values, which is decided
exactly if both are values of doubles, as all whole numbers up to the fifty-third power of
two are. -/
theorem check_keeps_order (found : record.get? field = some (.number actual))
    (literal : String) :
    (∀ text comparator, parse text = .ok ⟨field, comparator, literal⟩ →
      Rule.evaluate record (.leaf text) = check ⟨field, comparator, literal⟩ record) ∧
    ((¬ ∃ value, Literal.Denotes literal value) ∨
      (∃ value, Literal.Denotes literal value ∧ 2 ^ 1024 - 2 ^ 970 ≤ |value|) →
      ∀ comparator, check ⟨field, comparator, literal⟩ record =
        .error (.invalidLiteral literal)) ∧
    (∀ value, Literal.Denotes literal value → |value| < 2 ^ 1024 - 2 ^ 970 →
      ∃ verdict : Comparator → Bool,
        (∀ comparator, check ⟨field, comparator, literal⟩ record = .ok (verdict comparator)) ∧
        Comparator.KeepOrder verdict actual.value value) ∧
    ∀ n : Int, |n| ≤ 2 ^ 53 → Double.IsExact n := by
  have checked (comparator : Comparator) := check_of_number found comparator literal
  refine ⟨?_, ?_, ?_, fun n few => Double.isExact_of_abs_le few⟩
  · intro text comparator parsed
    rw [Rule.evaluate, Rule.checkLeaf, parsed]
    rfl
  · rintro (none | ⟨value, denotes, large⟩) comparator
    · rw [checked, Literal.value?_of_not_denotes none]
    · rw [checked, Literal.value?_of_overflow denotes large]
  · intro value denotes small
    rcases Literal.exists_value?_of_denotes denotes small with ⟨expected, read, units_eq⟩
    refine ⟨_, fun comparator => ?_, Comparator.keepOrder_accepts actual.value value⟩
    rw [checked, read]
    dsimp only
    rw [Double.order, actual.units_toDouble, units_eq]

/-- Thirty-five is equal to its spelling with a power of ten. -/
theorem check_keeps_order_of_thirty_five :
    check ⟨"age", .equal, "+3.5E1"⟩
      (Table.ofPairs [("age", .number (.integer ⟨35, by decide, by decide⟩))]) = .ok true := by
  let power : Json.SpelledPower := ⟨'E', [], ['1'], by decide, by decide, by decide, by simp⟩
  let spelling : Literal.Spelling :=
    ⟨['+'], ['3'], some ['5'], some power, by decide, by simp, by simp, by simp⟩
  have significand_eq : spelling.numeral.significand = 35 := by decide
  have scale_eq : spelling.numeral.scale = 0 := by decide
  have value_eq : spelling.numeral.value = 35 := by
    rw [Numeral.value, significand_eq, scale_eq]
    simp [spelling, Literal.Spelling.numeral]
  have small : |((35 : Int) : ℚ)| < 2 ^ 1024 - 2 ^ 970 :=
    (Double.isExact_of_abs_le (by decide)).abs_lt
  have found : Table.get?
      (Table.ofPairs [("age", Json.Value.number (.integer ⟨35, by decide, by decide⟩))]) "age" =
      some (.number (.integer ⟨35, by decide, by decide⟩)) := by
    rw [Record.get?_ofPairs]
    rfl
  rcases (check_keeps_order found "+3.5E1").2.2.1 35 ⟨spelling, by decide, value_eq⟩ small with
    ⟨verdict, checked, keeps⟩
  rw [checked, keeps.equal rfl]

/-- The greatest number of sixty-four bits is rounded to the next one. -/
example : check ⟨"id", .equal, "18446744073709551616"⟩
    (Table.ofPairs [("id", .number (.integer ⟨18446744073709551615, by decide, by decide⟩))]) =
      .ok true := by
  decide +kernel

end Condition

end Eligibility
