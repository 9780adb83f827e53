import Eligibility.Number.Numeral
import Eligibility.Proofs.Number.Nearest
import Mathlib.Algebra.Order.Field.Power
import Mathlib.Data.List.Induction

/-!
# The double of a decimal numeral

The double of a numeral is the one nearest to the exact value of the numeral, also
where a power of ten settles it without being computed: such a value is beyond the
doubles, or else nearest to zero because its digits cannot make up for the power.
-/

namespace Eligibility.Numeral

/-- The exact value of a numeral. -/
def value (numeral : Numeral) : ℚ :=
  (if numeral.negative then -1 else 1) * (numeral.significand * 10 ^ numeral.scale)

/-- The digits of a numeral are decimal digits. -/
def IsDecimal (numeral : Numeral) : Prop :=
  ∀ c ∈ numeral.whole ++ numeral.fraction, c.isDigit = true

theorem digitValue_lt {digit : Char} (decimal : digit.isDigit = true) : digitValue digit < 10 := by
  simp only [Char.isDigit, Bool.and_eq_true, decide_eq_true_eq, ge_iff_le,
    UInt32.le_iff_toNat_le] at decimal
  have bounds : 48 ≤ digit.toNat ∧ digit.toNat ≤ 57 := decimal
  have zero : '0'.toNat = 48 := rfl
  rw [digitValue, zero]
  omega

/-- A number has no more places than digits. -/
theorem digitsValue_lt {digits : List Char} (decimal : ∀ c ∈ digits, c.isDigit = true) :
    digitsValue digits < 10 ^ digits.length := by
  induction digits using List.reverseRecOn with
  | nil => exact Nat.one_pos
  | append_singleton digits digit ih =>
      rw [List.forall_mem_append] at decimal
      have few := ih decimal.1
      have last := digitValue_lt (decimal.2 digit List.mem_cons_self)
      rw [digitsValue_append_singleton, List.length_append, List.length_singleton, Nat.pow_succ]
      omega

variable {numeral : Numeral}

theorem abs_value (numeral : Numeral) :
    |numeral.value| = numeral.significand * 10 ^ numeral.scale := by
  have nonneg : (0 : ℚ) ≤ numeral.significand * 10 ^ numeral.scale := by positivity
  rw [value]
  split
  · rw [neg_one_mul, abs_neg, abs_of_nonneg nonneg]
  · rw [one_mul, abs_of_nonneg nonneg]

theorem two_pow_le_ten_pow : 2 ^ 1024 ≤ 10 ^ 310 := by
  decide +kernel

theorem value_nonpos (negative : numeral.negative = true) : numeral.value ≤ 0 := by
  rw [value, if_pos negative, neg_one_mul]
  exact neg_nonpos.mpr (by positivity)

theorem value_nonneg (positive : numeral.negative = false) : 0 ≤ numeral.value := by
  rw [value, positive, if_neg Bool.false_ne_true, one_mul]
  positivity

/-- From a certain power of ten on, a numeral is beyond the doubles. -/
theorem rankLimit_le_of_scale (nonzero : numeral.significand ≠ 0) (large : 310 ≤ numeral.scale) :
    rankLimit ≤ Double.nearestRankOf numeral.value := by
  apply Nat.le_of_not_lt
  rw [Double.nearestRankOf_lt_rankLimit_iff, not_lt, abs_value]
  have one_le : (1 : ℚ) ≤ numeral.significand := by
    exact_mod_cast Nat.one_le_iff_ne_zero.mpr nonzero
  have limit : ((2 ^ 1024 : Nat) : ℚ) ≤ (10 ^ 310 : Nat) := Nat.cast_le.mpr two_pow_le_ten_pow
  rw [Nat.cast_pow, Nat.cast_pow, Nat.cast_ofNat, Nat.cast_ofNat] at limit
  calc (2 : ℚ) ^ 1024 - 2 ^ 970 ≤ 2 ^ 1024 := sub_le_self _ (pow_nonneg zero_le_two _)
    _ ≤ 10 ^ 310 := limit
    _ = 10 ^ (310 : Int) := (zpow_natCast 10 310).symm
    _ ≤ 10 ^ numeral.scale := zpow_le_zpow_right₀ (by norm_num) large
    _ ≤ numeral.significand * 10 ^ numeral.scale := le_mul_of_one_le_left (by positivity) one_le

theorem nearestRankOf_ten_zpow_neg (power : Nat) :
    Double.nearestRankOf (10 ^ (-(power : Int))) =
      Double.nearestRank (1 * Double.unitsInOne) (10 ^ power) := by
  have quotient : |(10 : ℚ) ^ (-(power : Int))| = (1 : Nat) / (10 ^ power : Nat) := by
    rw [abs_of_pos (by positivity), zpow_neg, zpow_natCast]
    simp
  exact (Double.nearestRank_of_abs_eq (Nat.pow_pos Nat.ofNat_pos) quotient).symm

theorem nearestRankOf_ten_zpow : Double.nearestRankOf (10 ^ (-(330 : Nat) : Int)) = 0 := by
  rw [nearestRankOf_ten_zpow_neg]
  decide +kernel

/-- Digits do not make up for a small power of ten. -/
theorem nearestRankOf_of_scale (decimal : numeral.IsDecimal)
    (small : numeral.scale + (numeral.whole.length + numeral.fraction.length : Nat) ≤ -330) :
    Double.nearestRankOf numeral.value = 0 := by
  have few : (numeral.significand : ℚ) ≤
      10 ^ ((numeral.whole.length + numeral.fraction.length : Nat) : Int) := by
    have bound := Nat.le_of_lt (digitsValue_lt decimal)
    rw [List.length_append] at bound
    rw [zpow_natCast]
    exact_mod_cast bound
  have le : |numeral.value| ≤ |(10 : ℚ) ^ (-(330 : Nat) : Int)| := by
    calc |numeral.value| = numeral.significand * 10 ^ numeral.scale := numeral.abs_value
      _ ≤ 10 ^ ((numeral.whole.length + numeral.fraction.length : Nat) : Int) *
            10 ^ numeral.scale := mul_le_mul_of_nonneg_right few (by positivity)
      _ = 10 ^ (((numeral.whole.length + numeral.fraction.length : Nat) : Int) + numeral.scale) :=
        (zpow_add₀ (by norm_num) _ _).symm
      _ ≤ 10 ^ (-(330 : Nat) : Int) := zpow_le_zpow_right₀ (by norm_num) (by omega)
      _ = |(10 : ℚ) ^ (-(330 : Nat) : Int)| := (abs_of_pos (by positivity)).symm
  have rank_le := Double.nearestRankOf_mono le
  rw [nearestRankOf_ten_zpow] at rank_le
  exact Nat.le_zero.mp rank_le

/-- Between these powers, a numeral is rounded as a quotient. -/
theorem nearestScaled?_eq (numeral : Numeral) :
    nearestScaled? numeral.negative numeral.significand numeral.scale =
      Double.ofRank? numeral.negative (Double.nearestRankOf numeral.value) := by
  have abs_eq := numeral.abs_value
  cases scale_eq : numeral.scale with
  | ofNat power =>
      have quotient : |numeral.value| = (numeral.significand * tenPow power : Nat) / (1 : Nat) := by
        rw [abs_eq, scale_eq, Int.ofNat_eq_natCast, zpow_natCast, Nat.cast_one, div_one, tenPow,
          Nat.cast_mul]
        simp
      rw [← Double.nearestRank_of_abs_eq Nat.one_pos quotient]
      rfl
  | negSucc power =>
      have quotient : |numeral.value| = (numeral.significand : ℚ) / (tenPow (power + 1) : Nat) := by
        rw [abs_eq, scale_eq, zpow_negSucc, tenPow, div_eq_mul_inv]
        simp
      rw [← Double.nearestRank_of_abs_eq (Nat.pow_pos (by decide)) quotient]
      rfl

/-- The double of a numeral is the one nearest to its value. -/
theorem toDouble?_eq (decimal : numeral.IsDecimal) :
    numeral.toDouble? = Double.ofRank? numeral.negative (Double.nearestRankOf numeral.value) := by
  rw [toDouble?]
  split_ifs with zero large small
  · have value_eq : numeral.value = 0 := by simp [value, zero]
    rw [value_eq, Double.nearestRankOf_zero]
    exact (Double.ofRank?_rank (.zero numeral.negative)).symm
  · rw [Double.ofRank?, dif_neg (Nat.not_lt.mpr (rankLimit_le_of_scale zero large))]
  · rw [nearestRankOf_of_scale decimal (by exact_mod_cast small)]
    exact (Double.ofRank?_rank (.zero numeral.negative)).symm
  · exact nearestScaled?_eq numeral

end Eligibility.Numeral
