import Eligibility.Proofs.Number.Nearest

/-!
# The double nearest to a value

Of all finite doubles one is nearest to a value and has its sign; where two are as
near, it is the one of even rank.  A whole number is rounded to that double, unless the
number is so large that it is rounded to infinity instead.
-/

namespace Eligibility

namespace Double

/-- A double has the sign of a value, no double is nearer to the value, and if another
one is as near, then the rank is even. -/
structure IsNearestTo (x : Double) (value : ℚ) : Prop where
  sign : x.negative = decide (value < 0)
  nearest : ∀ y : Double, |x.value - value| ≤ |y.value - value|
  even_of_tie : ∀ y : Double, |x.value - value| = |y.value - value| → x.value ≠ y.value →
    x.rank % 2 = 0

/-! ## Distances -/

/-- The distance of the magnitudes of a double and of a value. -/
theorem abs_abs_value_sub (x : Double) (value : ℚ) :
    |(|x.value|) - (|value|)| =
      (distance (value.num.natAbs * unitsInOne) value.den x.rank : ℚ) /
        (unitsInOne * value.den) := by
  have unitsPositive : (0 : ℚ) < unitsInOne := by exact_mod_cast unitsInOne_pos
  have denPositive : (0 : ℚ) < value.den := by exact_mod_cast value.den_pos
  have difference : |x.value| - (|value|) =
      (magnitude x.rank * value.den - value.num.natAbs * unitsInOne) /
        (unitsInOne * value.den) := by
    rw [abs_value, abs_eq_div]
    field_simp
  rw [difference, abs_div, abs_of_pos (mul_pos unitsPositive denPositive), distance]
  simp only [Nat.cast_natAbs, Int.cast_abs, Int.cast_sub, Int.cast_mul, Nat.cast_mul,
    Int.cast_natCast, Int.cast_id]

theorem abs_value_sub {x : Double} {value : ℚ} (sign : x.negative = decide (value < 0)) :
    |x.value - value| = |(|x.value|) - (|value|)| := by
  by_cases negative : value < 0
  · rw [decide_eq_true negative] at sign
    rw [abs_of_nonpos (value_nonpos sign), abs_of_neg negative, ← abs_neg]
    ring_nf
  · rw [decide_eq_false negative] at sign
    rw [abs_of_nonneg (value_nonneg sign), abs_of_nonneg (not_lt.mp negative)]

theorem abs_value_lt_iff {x y : Double} : |x.value| < |y.value| ↔ x.rank < y.rank := by
  have positive : (0 : ℚ) < unitsInOne := by exact_mod_cast unitsInOne_pos
  rw [abs_value, abs_value, div_lt_div_iff_of_pos_right positive, Nat.cast_lt,
    magnitude_strictMono.lt_iff_lt]

/-- Only zero is halfway between the two signs of a magnitude. -/
theorem eq_zero_of_tie {x y : Double} {value : ℚ} (sameRank : y.rank = x.rank)
    (different : x.value ≠ y.value) (tie : |x.value - value| = |y.value - value|) :
    value = 0 := by
  have middle : x.value - value = -(y.value - value) :=
    (abs_eq_abs.mp tie).resolve_left fun same => different (sub_left_injective same)
  have opposite : x.value = -y.value := by
    apply (abs_eq_abs.mp _).resolve_left different
    rw [abs_value, abs_value, sameRank]
  linarith

/-! ## Rounding finds the nearest double -/

/-- The double of the rank that a value is rounded to is nearest to the value. -/
theorem isNearestTo_of_rank {x : Double} {value : ℚ} (sign : x.negative = decide (value < 0))
    (rank_eq : x.rank = nearestRankOf value) : x.IsNearestTo value := by
  have scale : (0 : ℚ) < unitsInOne * value.den := by
    exact_mod_cast Nat.mul_pos unitsInOne_pos value.den_pos
  have closest (y : Double) := distance_nearestRank_le value.den_pos
    (value.num.natAbs * unitsInOne) y.rank
  rw [← nearestRankOf, ← rank_eq] at closest
  have magnitudes (y : Double) : |(|x.value|) - (|value|)| ≤ |(|y.value|) - (|value|)| := by
    rw [abs_abs_value_sub, abs_abs_value_sub, div_le_div_iff_of_pos_right scale, Nat.cast_le]
    exact (closest y).1
  have nearest (y : Double) : |x.value - value| ≤ |y.value - value| := by
    rw [abs_value_sub sign]
    exact (magnitudes y).trans (abs_abs_sub_abs_le y.value value)
  refine ⟨sign, nearest, fun y tie different => ?_⟩
  by_cases sameRank : y.rank = x.rank
  · rw [rank_eq, eq_zero_of_tie sameRank different tie, nearestRankOf_zero]
  · rw [abs_value_sub sign] at tie
    have magnitudesTie : |(|x.value|) - (|value|)| = |(|y.value|) - (|value|)| :=
      le_antisymm (magnitudes y) (tie ▸ abs_abs_sub_abs_le y.value value)
    rw [abs_abs_value_sub, abs_abs_value_sub, div_left_inj' scale.ne', Nat.cast_inj] at magnitudesTie
    exact (closest y).2 magnitudesTie sameRank

/-! ## There is only one -/

/-- Two doubles that are nearest to a value have the same rank. -/
theorem IsNearestTo.rank_le {x y : Double} {value : ℚ} (xNearest : x.IsNearestTo value)
    (yNearest : y.IsNearestTo value) : y.rank ≤ x.rank := by
  by_contra less
  have tie : |x.value - value| = |y.value - value| :=
    le_antisymm (xNearest.nearest y) (yNearest.nearest x)
  have ahead := abs_value_lt_iff.mpr (not_le.mp less)
  have different : x.value ≠ y.value := fun same => ahead.ne (congrArg _ same)
  have xEven := xNearest.even_of_tie y tie different
  have yEven := yNearest.even_of_tie x tie.symm different.symm
  let z : Double := ⟨y.negative, x.rank + 1, lt_of_le_of_lt (not_le.mp less) y.rank_lt⟩
  have above : |x.value| < |z.value| := abs_value_lt_iff.mpr (Nat.lt_succ_self x.rank)
  have below : |z.value| < |y.value| := abs_value_lt_iff.mpr (show x.rank + 1 < y.rank by omega)
  have between := yNearest.nearest z
  have zSign : z.negative = decide (value < 0) := yNearest.sign
  rw [abs_value_sub xNearest.sign, abs_value_sub yNearest.sign] at tie
  rw [abs_value_sub yNearest.sign, abs_value_sub zSign] at between
  have middle : |x.value| - (|value|) = -(|y.value| - (|value|)) :=
    (abs_eq_abs.mp tie).resolve_left fun same => ahead.ne (sub_left_injective same)
  have farther := (le_abs_self _).trans between
  rcases abs_cases (|z.value| - (|value|)) with ⟨distance_eq, -⟩ | ⟨distance_eq, -⟩ <;>
    linarith

/-- A value has only one nearest double. -/
theorem IsNearestTo.unique {x y : Double} {value : ℚ} (xNearest : x.IsNearestTo value)
    (yNearest : y.IsNearestTo value) : x = y := by
  have sign : x.negative = y.negative := xNearest.sign.trans yNearest.sign.symm
  have rank : x.rank = y.rank :=
    Nat.le_antisymm (yNearest.rank_le xNearest) (xNearest.rank_le yNearest)
  cases x
  cases y
  cases sign
  cases rank
  rfl

/-! ## Whole numbers -/

theorem isNearestTo_intCast {x : Double} {value : Int} (sign : x.negative = decide (value < 0))
    (rank_eq : x.rank = nearestRank (value.natAbs * unitsInOne) 1) : x.IsNearestTo value := by
  apply isNearestTo_of_rank
  · rw [sign]
    exact decide_eq_decide.mpr Int.cast_lt_zero.symm
  · rw [rank_eq, nearestRankOf_intCast]

theorem isNearestTo_of_ofInt? {value : Int} {x : Double} (rounded : ofInt? value = some x) :
    x.IsNearestTo value := by
  rw [ofInt?, nearest?, ofRank?] at rounded
  split at rounded
  · cases rounded
    exact isNearestTo_intCast rfl rfl
  · cases rounded

/-- A whole number is too large for a double if it is not nearer to the greatest
doubles than to the power of two behind them. -/
theorem ofInt?_eq_none_iff {value : Int} :
    ofInt? value = none ↔ 2 ^ 1024 - 2 ^ 970 ≤ value.natAbs := by
  rw [ofInt?, nearest?, ofRank?, dite_eq_right_iff]
  simp only [reduceCtorEq, imp_false]
  rw [nearestRank_lt_rankLimit_iff Nat.one_pos, Nat.mul_one, Nat.mul_lt_mul_right unitsInOne_pos,
    Nat.not_lt]

end Double

end Eligibility
