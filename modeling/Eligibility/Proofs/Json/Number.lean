import Eligibility.Json.Number
import Eligibility.Proofs.Number.Rounding

/-!
# The two readings of a numeral

A literal of a rule is rounded once, to the double nearest to its numeral.  In a
JSON document the digits are rounded, then the power of ten, and then their
product or quotient.  The two readings agree where at most the last of these
steps rounds: for whole numbers of sixty-four bits, for few digits with a small
power of ten, and for zero with any power.
-/

namespace Eligibility

namespace Double

theorem nearest?_eq_map_withSign (negative : Bool) (numerator denominator : Nat) :
    nearest? negative numerator denominator =
      (nearest? false numerator denominator).map fun x => x.withSign negative := by
  unfold nearest? ofRank?
  split <;> rfl

theorem nearest?_zero (negative : Bool) (denominator : Nat) :
    nearest? negative 0 denominator = some (zero negative) := by
  simp only [nearest?, nearestRank_zero]
  exact ofRank?_rank (zero negative)

@[simp]
theorem withSign_zero (negative negative' : Bool) :
    (zero negative).withSign negative' = zero negative' :=
  rfl

theorem rank_of_nearest? {negative : Bool} {numerator denominator : Nat} {x : Double}
    (rounded : nearest? negative numerator denominator = some x) :
    x.negative = negative ∧ x.rank = nearestRank numerator denominator := by
  unfold nearest? ofRank? at rounded
  split at rounded
  · cases rounded
    exact ⟨rfl, rfl⟩
  · contradiction

/-- Multiplying exact factors is rounding their product. -/
theorem mul?_of_magnitudes {x y : Double} {first second : Nat}
    (xPositive : x.negative = false) (yPositive : y.negative = false)
    (xExact : magnitude x.rank = first * unitsInOne)
    (yExact : magnitude y.rank = second * unitsInOne) :
    x.mul? y = nearest? false (first * second * unitsInOne) 1 := by
  have positive := unitsInOne_pos
  rw [mul?, xPositive, yPositive, bne_self_eq_false, xExact, yExact, nearest?, nearest?]
  generalize unitsInOne = unit at positive ⊢
  have product : first * unit * (second * unit) = unit * (first * second * unit) := by ring
  have common := nearestRank_mul_left positive (first * second * unit) 1
  rw [Nat.mul_one] at common
  rw [product, common]

/-- Dividing an exact number by an exact one is rounding their quotient. -/
theorem div?_of_magnitudes {x y : Double} {first second : Nat}
    (xPositive : x.negative = false) (yPositive : y.negative = false)
    (xExact : magnitude x.rank = first * unitsInOne)
    (yExact : magnitude y.rank = second * unitsInOne) (nonzero : y.isZero = false) :
    x.div? y = nearest? false (first * unitsInOne) second := by
  have positive := unitsInOne_pos
  rw [div?, nonzero, if_neg Bool.false_ne_true, xPositive, yPositive, bne_self_eq_false, xExact,
    yExact, nearest?, nearest?]
  generalize unitsInOne = unit at positive ⊢
  have common := nearestRank_mul_left positive (first * unit) second
  rw [Nat.mul_comm (first * unit) unit, Nat.mul_comm second unit, common]

/-! ## Powers of ten -/

/-- A power of ten is near to a double up to the 308th. -/
theorem nearestRank_tenPow_lt {power : Nat} (moderate : power ≤ 308) :
    nearestRank (tenPow power * unitsInOne) 1 < rankLimit := by
  by_cases greatest : power = 308
  · subst greatest
    decide +kernel
  · have small : tenPow power < 1 <<< 1023 :=
      Nat.lt_of_le_of_lt (Nat.pow_le_pow_right (by decide) (show power ≤ 307 by omega))
        (by decide +kernel)
    have places := excessPlaces_shiftLeft_le 1074 small (by decide)
    have bound := nearestRank_le (tenPow power * unitsInOne) 1
    rw [Nat.div_one, unitsInOne, mul_one_shiftLeft] at bound
    rw [unitsInOne, mul_one_shiftLeft]
    have scaled := Nat.mul_le_mul_right binade (Nat.add_le_add_right places 2)
    exact Nat.lt_of_le_of_lt (Nat.le_trans bound scaled) (by decide)

/-- A power of ten up to the twenty-second has few places. -/
theorem magnitude_nearestRank_tenPow {power : Nat} (small : power ≤ 22) :
    magnitude (nearestRank (tenPow power * unitsInOne) 1) = tenPow power * unitsInOne := by
  have moved : tenPow power * unitsInOne = 5 ^ power <<< (power + 1074) := by
    rw [unitsInOne, mul_one_shiftLeft, Nat.shiftLeft_eq, Nat.shiftLeft_eq, Nat.pow_add,
      ← Nat.mul_assoc, ← Nat.mul_pow]
    rfl
  have few : 5 ^ power < 2 * binade :=
    Nat.lt_of_le_of_lt (Nat.pow_le_pow_right (by decide) small) (by decide)
  rw [moved]
  exact magnitude_nearestRank_shiftLeft _ few

/-- The double nearest to a power of ten. -/
theorem exists_ofInt?_tenPow {power : Nat} (moderate : power ≤ 308) :
    ∃ factor, ofInt? (tenPow power) = some factor ∧ factor.negative = false ∧
      factor.isZero = false ∧
      factor.rank = nearestRank (tenPow power * unitsInOne) 1 := by
  have finite := nearestRank_tenPow_lt moderate
  have positive : 0 < tenPow power * unitsInOne :=
    Nat.mul_pos (Nat.pow_pos (by decide)) unitsInOne_pos
  refine ⟨⟨false, nearestRank (tenPow power * unitsInOne) 1, finite⟩, ?_, rfl, ?_, rfl⟩
  · have notNegative : decide ((tenPow power : Int) < 0) = false := by
      rw [decide_eq_false_iff_not]
      omega
    rw [ofInt?, notNegative, Int.natAbs_natCast]
    exact dif_pos finite
  · rw [isZero, beq_eq_false_iff_ne]
    exact Nat.ne_of_gt (nearestRank_pos positive)

end Double

namespace WideInteger

/-- A natural number up to the greatest one of sixty-four bits. -/
theorem exists_ofInt?_natCast {number : Nat} (fits : number ≤ Json.Number.significandLimit) :
    ∃ x : WideInteger, ofInt? number = some x ∧
      Double.nearest? false (number * Double.unitsInOne) 1 = some x.toDouble := by
  have limit : Json.Number.significandLimit = 0xFFFFFFFFFFFFFFFF := rfl
  let x : WideInteger := ⟨number, by omega, by omega⟩
  have rounded := x.nearest?_eq_toDouble
  have notNegative : decide ((number : Int) < 0) = false := by
    rw [decide_eq_false_iff_not]
    omega
  rw [notNegative, Int.natAbs_natCast] at rounded
  exact ⟨x, x.ofInt?_value, rounded⟩

end WideInteger

namespace Numeral

/-- A numeral that is rounded at most once while a document is read: a whole
number of sixty-four bits, few digits with a small power of ten, or zero. -/
def RoundsOnce (numeral : Numeral) : Prop :=
  (numeral.fraction = [] ∧ numeral.exponent = none ∧
    numeral.significand ≤ Json.Number.significandLimit) ∨
  (numeral.significand < 2 * binade ∧ -22 ≤ numeral.scale ∧ numeral.scale ≤ 22) ∨
  numeral.significand = 0

instance (numeral : Numeral) : Decidable numeral.RoundsOnce :=
  inferInstanceAs (Decidable (_ ∨ _ ∨ _))

theorem toDouble?_of_zero {numeral : Numeral} (zero : numeral.significand = 0) :
    numeral.toDouble? = some (.zero numeral.negative) :=
  if_pos zero

theorem toDouble?_of_moderate {numeral : Numeral} (nonzero : numeral.significand ≠ 0)
    (lower : -22 ≤ numeral.scale) (upper : numeral.scale ≤ 22) :
    numeral.toDouble? = nearestScaled? numeral.negative numeral.significand numeral.scale := by
  rw [toDouble?, if_neg nonzero, if_neg (by omega), if_neg (by omega)]

theorem nearestScaled?_eq_map_withSign (negative : Bool) (significand : Nat) (power : Int) :
    nearestScaled? negative significand power =
      (nearestScaled? false significand power).map fun x => x.withSign negative := by
  cases power <;> exact Double.nearest?_eq_map_withSign _ _ _

end Numeral

namespace Json.Number

open Numeral

theorem le_foldl_digits (start : Nat) (digits : List Char) :
    start ≤ digits.foldl (fun value digit => 10 * value + digitValue digit) start := by
  induction digits generalizing start with
  | nil => exact Nat.le_refl start
  | cons digit digits ih =>
      have further := ih (10 * start + digitValue digit)
      rw [List.foldl_cons]
      omega

/-- All digits are taken as long as their number stays within its limit. -/
theorem takeDigits_of_le {start : Nat} {digits : List Char}
    (fits : digits.foldl (fun value digit => 10 * value + digitValue digit) start ≤
      significandLimit) :
    takeDigits start digits =
      (digits.foldl (fun value digit => 10 * value + digitValue digit) start, []) := by
  induction digits generalizing start with
  | nil => rfl
  | cons digit digits ih =>
      rw [List.foldl_cons] at fits ⊢
      have further := le_foldl_digits (10 * start + digitValue digit) digits
      rw [takeDigits, if_pos (Nat.le_trans further fits), ih fits]

variable {numeral : Numeral}

/-- All digits of a numeral are taken, first those before the point. -/
theorem takeDigits_of_significand_le (fits : numeral.significand ≤ significandLimit) :
    takeDigits 0 numeral.whole = (digitsValue numeral.whole, []) ∧
      takeDigits (digitsValue numeral.whole) numeral.fraction = (numeral.significand, []) := by
  have split : numeral.significand = numeral.fraction.foldl
      (fun value digit => 10 * value + digitValue digit) (digitsValue numeral.whole) :=
    List.foldl_append
  rw [split] at fits ⊢
  have wholeFits := Nat.le_trans (le_foldl_digits _ numeral.fraction) fits
  exact ⟨takeDigits_of_le wholeFits, takeDigits_of_le fits⟩

/-- The literal of a whole number is rounded as the number is. -/
theorem toDouble?_of_integer {x : WideInteger} (noFraction : numeral.fraction = [])
    (noExponent : numeral.exponent = none)
    (rounded : Double.nearest? false (numeral.significand * Double.unitsInOne) 1 =
      some x.toDouble) :
    numeral.toDouble? = some (x.toDouble.withSign numeral.negative) := by
  have scale_eq : numeral.scale = 0 := by
    rw [scale, noFraction, noExponent]
    rfl
  by_cases zero : numeral.significand = 0
  · rw [zero, Nat.zero_mul, Double.nearest?_zero] at rounded
    rw [toDouble?_of_zero zero, ← Option.some.inj rounded, Double.withSign_zero]
  · rw [toDouble?_of_moderate zero (by omega) (by omega), scale_eq]
    change Double.nearest? numeral.negative (numeral.significand * 1 * Double.unitsInOne) 1 = _
    rw [Nat.mul_one, Double.nearest?_eq_map_withSign, rounded,
      Option.map_some]

/-- A negative number of sixty-four bits is rounded as its magnitude is. -/
theorem toDouble_of_ofInt?_neg {x value : WideInteger} {significand : Nat}
    (nonzero : significand ≠ 0)
    (rounded : Double.nearest? false (significand * Double.unitsInOne) 1 = some x.toDouble)
    (read : WideInteger.ofInt? (-significand) = some value) :
    value.toDouble = x.toDouble.withSign true := by
  unfold WideInteger.ofInt? at read
  split at read
  · cases read
    have whole := WideInteger.nearest?_eq_toDouble ⟨-significand, by omega, by omega⟩
    have below : decide (-(significand : Int) < 0) = true := by
      rw [decide_eq_true_iff]
      omega
    rw [below, Int.natAbs_neg, Int.natAbs_natCast, Double.nearest?_eq_map_withSign,
      rounded] at whole
    exact (Option.some.inj whole).symm
  · contradiction

/-- A whole number without a power of ten is kept if sixty-four bits hold it.
Its negative becomes a double if it needs one bit more, and so does minus
zero. -/
theorem map_toDouble_of_integer (noFraction : numeral.fraction = [])
    (noExponent : numeral.exponent = none) (fits : numeral.significand ≤ significandLimit) :
    (ofNumeral? numeral).map toDouble = numeral.toDouble? := by
  rcases takeDigits_of_significand_le fits with ⟨wholeTaken, fractionTaken⟩
  rcases WideInteger.exists_ofInt?_natCast fits with ⟨x, read, rounded⟩
  have kept : numeral.fraction = [] ∧ numeral.exponent = none ∧ ([] : List Char) = [] :=
    ⟨noFraction, noExponent, rfl⟩
  rw [toDouble?_of_integer noFraction noExponent rounded, ofNumeral?, wholeTaken]
  dsimp only
  rw [fractionTaken]
  dsimp only
  rw [if_pos kept, read]
  cases sign : numeral.negative with
  | false =>
      have positive := (Double.rank_of_nearest? rounded).1
      have same : x.toDouble.withSign false = x.toDouble := by
        rw [← positive]
        rfl
      rw [same]
      rfl
  | true =>
      rw [if_pos rfl]
      by_cases zero : numeral.significand = 0
      · rw [if_pos zero]
        rw [zero, Nat.zero_mul, Double.nearest?_zero] at rounded
        rw [← Option.some.inj rounded]
        rfl
      · rw [if_neg zero]
        cases negated : WideInteger.ofInt? (-numeral.significand) with
        | none => rfl
        | some value =>
            rw [← toDouble_of_ofInt?_neg zero rounded negated]
            rfl

/-- Any other numeral whose digits are all taken is scaled by its power of ten. -/
theorem ofNumeral?_of_scaled (fits : numeral.significand ≤ significandLimit)
    (scaled : ¬ (numeral.fraction = [] ∧ numeral.exponent = none)) :
    ∃ x : WideInteger,
      Double.nearest? false (numeral.significand * Double.unitsInOne) 1 = some x.toDouble ∧
      (ofNumeral? numeral).map toDouble =
        (scaleByTen x.toDouble numeral.scale).map fun y => y.withSign numeral.negative := by
  rcases takeDigits_of_significand_le fits with ⟨wholeTaken, fractionTaken⟩
  rcases WideInteger.exists_ofInt?_natCast fits with ⟨x, read, rounded⟩
  have notKept : ¬ (numeral.fraction = [] ∧ numeral.exponent = none ∧ ([] : List Char) = []) :=
    fun kept => scaled ⟨kept.1, kept.2.1⟩
  have power_eq : numeral.exponent.getD 0 + (([] : List Char).length : Int) +
      (([] : List Char).length : Int) - numeral.fraction.length = numeral.scale := by
    simp [scale]
  refine ⟨x, rounded, ?_⟩
  rw [ofNumeral?, wholeTaken]
  dsimp only
  rw [fractionTaken]
  dsimp only
  rw [if_neg notKept, read, power_eq, Option.bind_eq_bind, Option.bind_some]
  cases scaleByTen x.toDouble numeral.scale <;> rfl

theorem shrink_zero (times : Nat) : shrink times (.zero false) = some (.zero false) := by
  cases times <;> rfl

/-- Zero stays zero under any power of ten. -/
theorem scaleByTen_zero (power : Int) : scaleByTen (.zero false) power = some (.zero false) := by
  cases power with
  | ofNat power =>
      rw [scaleByTen]
      by_cases moderate : power ≤ 308
      · rcases Double.exists_ofInt?_tenPow moderate with ⟨factor, factor_eq, positive, -⟩
        rw [if_pos moderate, factor_eq, Option.bind_eq_bind, Option.bind_some, Double.mul?,
          positive]
        change Double.nearest? _ (0 * _) _ = _
        rw [Nat.zero_mul, Double.nearest?_zero]
        rfl
      · rw [if_neg moderate]
        rfl
  | negSucc power =>
      have moderate : power % 308 + 1 ≤ 308 := Nat.mod_lt power (by decide)
      rcases Double.exists_ofInt?_tenPow moderate with ⟨divisor, divisor_eq, positive, nonzero, -⟩
      rw [scaleByTen, shrink_zero, divisor_eq, Option.bind_eq_bind, Option.bind_some,
        Option.bind_some, Double.div?, nonzero, if_neg Bool.false_ne_true,
        positive]
      change Double.nearest? _ (0 * _) _ = _
      rw [Nat.zero_mul, Double.nearest?_zero]
      rfl

/-- A numeral for zero gives the zero of its sign. -/
theorem map_toDouble_of_zero (zero : numeral.significand = 0) :
    (ofNumeral? numeral).map toDouble = numeral.toDouble? := by
  have fits : numeral.significand ≤ significandLimit := by
    rw [zero]
    exact Nat.zero_le _
  by_cases plain : numeral.fraction = [] ∧ numeral.exponent = none
  · exact map_toDouble_of_integer plain.1 plain.2 fits
  · rcases ofNumeral?_of_scaled fits plain with ⟨x, rounded, read⟩
    rw [zero, Nat.zero_mul, Double.nearest?_zero] at rounded
    rw [read, ← Option.some.inj rounded, scaleByTen_zero, toDouble?_of_zero zero]
    rfl

/-- An exact number is scaled by a small power of ten in one rounded step. -/
theorem scaleByTen_of_exact {x : Double} {significand : Nat} (positive : x.negative = false)
    (exactly : Double.magnitude x.rank = significand * Double.unitsInOne) {power : Int}
    (lower : -22 ≤ power) (upper : power ≤ 22) :
    scaleByTen x power = nearestScaled? false significand power := by
  cases power with
  | ofNat power =>
      have small : power ≤ 22 := Int.ofNat_le.mp upper
      have moderate : power ≤ 308 := Nat.le_trans small (by decide)
      rcases Double.exists_ofInt?_tenPow moderate with
        ⟨factor, factor_eq, factorPositive, -, rank_eq⟩
      have factorExact := Double.magnitude_nearestRank_tenPow small
      rw [← rank_eq] at factorExact
      rw [scaleByTen, if_pos moderate, factor_eq, Option.bind_eq_bind, Option.bind_some,
        Double.mul?_of_magnitudes positive factorPositive exactly factorExact]
      rfl
  | negSucc power =>
      have small : power + 1 ≤ 22 := by omega
      have noShrinking : power / 308 = 0 := Nat.div_eq_of_lt (by omega)
      have whole : power % 308 = power := Nat.mod_eq_of_lt (by omega)
      rcases Double.exists_ofInt?_tenPow (Nat.le_trans small (by decide)) with
        ⟨divisor, divisor_eq, divisorPositive, nonzero, rank_eq⟩
      have divisorExact := Double.magnitude_nearestRank_tenPow small
      rw [← rank_eq] at divisorExact
      rw [scaleByTen, noShrinking, whole, shrink, Option.bind_eq_bind, Option.bind_some,
        divisor_eq, Option.bind_some,
        Double.div?_of_magnitudes positive divisorPositive exactly divisorExact nonzero]
      rfl

/-- Few digits are kept exactly, so a small power of ten is the only thing that
is rounded. -/
theorem map_toDouble_of_few (few : numeral.significand < 2 * binade)
    (lower : -22 ≤ numeral.scale) (upper : numeral.scale ≤ 22) :
    (ofNumeral? numeral).map toDouble = numeral.toDouble? := by
  have fits : numeral.significand ≤ significandLimit :=
    Nat.le_trans (Nat.le_of_lt few) (by decide)
  by_cases zero : numeral.significand = 0
  · exact map_toDouble_of_zero zero
  by_cases plain : numeral.fraction = [] ∧ numeral.exponent = none
  · exact map_toDouble_of_integer plain.1 plain.2 fits
  rcases ofNumeral?_of_scaled fits plain with ⟨x, rounded, read⟩
  rcases Double.rank_of_nearest? rounded with ⟨positive, rank_eq⟩
  have exactly : Double.magnitude x.toDouble.rank = numeral.significand * Double.unitsInOne := by
    rw [rank_eq, Double.unitsInOne, Double.mul_one_shiftLeft]
    exact Double.magnitude_nearestRank_shiftLeft 1074 few
  rw [read, scaleByTen_of_exact positive exactly lower upper,
    toDouble?_of_moderate zero lower upper, nearestScaled?_eq_map_withSign numeral.negative]

/-- A numeral that is rounded once is read alike in a document and in a rule. -/
theorem map_toDouble_of_roundsOnce (once : numeral.RoundsOnce) :
    (ofNumeral? numeral).map toDouble = numeral.toDouble? := by
  rcases once with ⟨noFraction, noExponent, fits⟩ | ⟨few, lower, upper⟩ | zero
  · exact map_toDouble_of_integer noFraction noExponent fits
  · exact map_toDouble_of_few few lower upper
  · exact map_toDouble_of_zero zero

end Json.Number

end Eligibility
