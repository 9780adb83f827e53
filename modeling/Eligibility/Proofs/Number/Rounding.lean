import Eligibility.Number.Rounding
import Mathlib.Tactic.Ring

/-!
# Exact roundings

A quotient has the same nearest rank in whatever terms it is written, and a
number of at most fifty-three binary places, moved up by any number of places,
is the magnitude of a rank.  So rounding such a number changes nothing, and
neither does rounding the factors of a product or the two parts of a quotient
before the product or quotient is rounded itself.
-/

namespace Eligibility

/-- A common factor does not change the nearest whole number. -/
theorem divNearest_mul_left {factor : Nat} (positive : 0 < factor) (numerator denominator : Nat) :
    divNearest (factor * numerator) (factor * denominator) = divNearest numerator denominator := by
  have rest : factor * numerator % (factor * denominator) = factor * (numerator % denominator) :=
    Nat.mul_mod_mul_left factor numerator denominator
  have below : 2 * (factor * (numerator % denominator)) < factor * denominator ↔
      2 * (numerator % denominator) < denominator := by
    rw [Nat.mul_left_comm]
    exact Nat.mul_lt_mul_left positive
  have above : factor * denominator < 2 * (factor * (numerator % denominator)) ↔
      denominator < 2 * (numerator % denominator) := by
    rw [Nat.mul_left_comm]
    exact Nat.mul_lt_mul_left positive
  simp only [divNearest, Nat.mul_div_mul_left _ _ positive, rest, below, above]

theorem divNearest_mul_self {denominator : Nat} (positive : 0 < denominator) (quotient : Nat) :
    divNearest (quotient * denominator) denominator = quotient := by
  simp [divNearest, Nat.mul_div_cancel _ positive, positive]

namespace Double

theorem unitsInOne_pos : 0 < unitsInOne := by
  decide

theorem nearestRank_mul_left {factor : Nat} (positive : 0 < factor) (numerator denominator : Nat) :
    nearestRank (factor * numerator) (factor * denominator) =
      nearestRank numerator denominator := by
  rw [nearestRank, nearestRank, Nat.mul_div_mul_left _ _ positive]
  simp only [Nat.shiftLeft_eq, Nat.mul_assoc, divNearest_mul_left positive]

/-- A quotient with excess places keeps fifty-three of them. -/
theorem binade_le_shifted {quotient : Nat} (excess : excessPlaces quotient ≠ 0) :
    binade ≤ quotient / 1 <<< excessPlaces quotient := by
  unfold excessPlaces at excess ⊢
  split at excess
  · contradiction
  · rename_i large
    have positive : quotient ≠ 0 := fun zero => large (zero ▸ by decide)
    have places : 2 ^ (quotient.log2 - 52 + 52) ≤ quotient := by
      rw [Nat.sub_add_cancel (by omega)]
      exact Nat.log2_self_le positive
    rw [if_neg large, Nat.shiftLeft_eq, Nat.one_mul, Nat.le_div_iff_mul_le (Nat.two_pow_pos _)]
    rw [Nat.pow_add, Nat.mul_comm] at places
    exact places

/-- The magnitude of a rank that counts binades and what is kept of a
quotient. -/
theorem magnitude_add {places kept : Nat} (few : kept < 2 * binade)
    (full : places ≠ 0 → binade ≤ kept) :
    magnitude (places * binade + kept) = kept <<< places := by
  have positive : 0 < binade := by decide
  by_cases small : places * binade + kept < binade
  · have none : places = 0 := by
      by_contra some
      have one : 1 * binade ≤ places * binade := Nat.mul_le_mul_right _ (Nat.pos_of_ne_zero some)
      omega
    subst none
    rw [magnitude, if_pos small, Nat.zero_mul, Nat.zero_add]
    rfl
  · have full : binade ≤ kept := by
      by_cases none : places = 0
      · subst none
        omega
      · exact full none
    obtain ⟨fraction, rfl⟩ := Nat.exists_eq_add_of_le full
    have fraction_lt : fraction < binade := by omega
    have rank_eq : places * binade + (binade + fraction) = fraction + binade * (places + 1) := by
      ring
    rw [magnitude, if_neg small, rank_eq, Nat.add_mul_mod_self_left, Nat.mod_eq_of_lt fraction_lt,
      Nat.add_mul_div_left _ _ positive, Nat.div_eq_of_lt fraction_lt, Nat.zero_add,
      Nat.add_sub_cancel]

/-- A number without digits in its excess places is its own nearest magnitude. -/
theorem magnitude_nearestRank_of_dvd {number : Nat}
    (clear : 1 <<< excessPlaces number ∣ number) : magnitude (nearestRank number 1) = number := by
  have positive : 0 < 1 <<< excessPlaces number := by
    rw [Nat.shiftLeft_eq, Nat.one_mul]
    exact Nat.two_pow_pos _
  have whole := Nat.div_mul_cancel clear
  have rounded : divNearest number (1 <<< excessPlaces number) =
      number / 1 <<< excessPlaces number := by
    have exactly := divNearest_mul_self positive (number / 1 <<< excessPlaces number)
    rwa [whole] at exactly
  rw [nearestRank, Nat.div_one, rounded,
    magnitude_add (shifted_excessPlaces_lt number) binade_le_shifted, ← mul_one_shiftLeft, whole]

/-- A number of few places that is moved up is its own nearest magnitude. -/
theorem magnitude_nearestRank_shiftLeft {kept : Nat} (shift : Nat) (few : kept < 2 * binade) :
    magnitude (nearestRank (kept <<< shift) 1) = kept <<< shift := by
  have places_le : excessPlaces (kept <<< shift) ≤ shift := by
    have bound := excessPlaces_shiftLeft_le shift (show kept < 1 <<< 53 from few)
      (Nat.le_add_right 53 shift)
    omega
  apply magnitude_nearestRank_of_dvd
  have factor : 1 <<< shift ∣ kept <<< shift := Dvd.intro_left kept (mul_one_shiftLeft kept shift)
  have divides : 1 <<< excessPlaces (kept <<< shift) ∣ 1 <<< shift := by
    rw [Nat.shiftLeft_eq 1 (excessPlaces _), Nat.shiftLeft_eq 1 shift, Nat.one_mul, Nat.one_mul]
    exact Nat.pow_dvd_pow 2 places_le
  exact Nat.dvd_trans divides factor

@[simp]
theorem nearestRank_zero (denominator : Nat) : nearestRank 0 denominator = 0 := by
  have excess : excessPlaces 0 = 0 := by decide
  rw [nearestRank, Nat.zero_div, excess]
  simp [divNearest]

/-- A whole number of units other than zero does not round to zero. -/
theorem nearestRank_pos {number : Nat} (positive : 0 < number) : 0 < nearestRank number 1 := by
  rw [nearestRank, Nat.div_one]
  cases places_eq : excessPlaces number with
  | zero =>
      have whole := divNearest_mul_self Nat.one_pos number
      rw [Nat.mul_one] at whole
      rw [Nat.zero_mul, Nat.zero_add, Nat.shiftLeft_zero, whole]
      exact positive
  | succ places =>
      have binades : 0 < (places + 1) * binade := Nat.mul_pos (Nat.succ_pos places) (by decide)
      exact Nat.lt_of_lt_of_le binades (Nat.le_add_right _ _)

end Double

namespace WideInteger

theorem eq_of_value_eq {x y : WideInteger} (same : x.value = y.value) : x = y := by
  cases x
  cases y
  cases same
  rfl

/-- A whole number of sixty-four bits is not beyond those that have a sign if it is small
enough. -/
theorem not_outside {x : WideInteger} {value : Int} (same : x.value = value)
    (small : value < 0x8000000000000000) :
    ¬ (value < -0x8000000000000000 ∨ 0x8000000000000000 ≤ value) := by
  have lower := x.lower
  omega

theorem ofInt?_value (x : WideInteger) : ofInt? x.value = some x :=
  dif_pos ⟨x.lower, x.upper⟩

theorem ofInt?_eq_some_iff {value : Int} {x : WideInteger} :
    ofInt? value = some x ↔ x.value = value := by
  constructor
  · intro known
    rw [ofInt?] at known
    split at known
    · cases known
      rfl
    · cases known
  · rintro rfl
    exact x.ofInt?_value

theorem signed?_eq_some_iff {value : Int} {x : WideInteger} :
    signed? value = some x ↔ x.value = value ∧ value < 0x8000000000000000 := by
  rw [signed?, Option.filter_eq_some_iff, ofInt?_eq_some_iff, decide_eq_true_eq]
  constructor
  · rintro ⟨rfl, small⟩
    exact ⟨rfl, small⟩
  · rintro ⟨rfl, small⟩
    exact ⟨rfl, small⟩

theorem signed?_eq_none_iff {value : Int} :
    signed? value = none ↔ value < -0x8000000000000000 ∨ 0x8000000000000000 ≤ value := by
  rw [Option.eq_none_iff_forall_ne_some]
  constructor
  · intro unknown
    by_contra inside
    have lower : -0x8000000000000000 ≤ value := by omega
    have upper : value < 0x10000000000000000 := by omega
    exact unknown ⟨value, lower, upper⟩ (signed?_eq_some_iff.mpr ⟨rfl, by omega⟩)
  · intro outside whole known
    obtain ⟨same, small⟩ := signed?_eq_some_iff.mp known
    exact not_outside same small outside

theorem nearest?_eq_toDouble (x : WideInteger) :
    Double.nearest? (x.value < 0) (x.value.natAbs * Double.unitsInOne) 1 = some x.toDouble :=
  dif_pos x.nearestRank_lt

end WideInteger

theorem Double.ofInt?_value (x : WideInteger) : ofInt? x.value = some x.toDouble :=
  x.nearest?_eq_toDouble

end Eligibility
