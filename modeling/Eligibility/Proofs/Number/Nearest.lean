import Eligibility.Proofs.Number.Rounding
import Mathlib.Algebra.Order.Field.Basic
import Mathlib.Data.Rat.Lemmas
import Mathlib.Order.Monotone.Basic
import Mathlib.Tactic.FieldSimp
import Mathlib.Tactic.Linarith

/-!
# Rounding keeps the order

The ranks of doubles are cut apart halfway between two magnitudes, and a quotient
that is halfway goes to the even rank.  So a smaller quotient never has a greater
rank, a magnitude keeps its own rank, and the finite ranks end halfway between the
greatest magnitude and the power of two that would come next.  For the exact value
of a number this means that rounding may make two values alike, but never puts
them in the wrong order.
-/

namespace Eligibility

/-- A quotient is rounded to at most a whole number if it is below the middle to the
next one, or just there and the whole number is even. -/
theorem divNearest_le_iff {denominator : Nat} (positive : 0 < denominator) (numerator k : Nat) :
    divNearest numerator denominator ≤ k ↔
      2 * numerator < (2 * k + 1) * denominator ∨
        2 * numerator = (2 * k + 1) * denominator ∧ k % 2 = 0 := by
  have split := Nat.div_add_mod numerator denominator
  have rest_lt := Nat.mod_lt numerator positive
  have middle : (2 * k + 1) * denominator = 2 * (denominator * k) + denominator := by ring
  rw [middle, divNearest]
  generalize numerator / denominator = quotient at split ⊢
  generalize numerator % denominator = rest at split rest_lt ⊢
  rcases Nat.lt_trichotomy quotient k with below | same | above
  · have step := Nat.mul_le_mul_left denominator (Nat.succ_le_of_lt below)
    rw [Nat.mul_succ] at step
    split_ifs <;> omega
  · subst same
    split_ifs <;> omega
  · have step := Nat.mul_le_mul_left denominator (Nat.succ_le_of_lt above)
    rw [Nat.mul_succ] at step
    split_ifs <;> omega

/-- A whole number that is not greater than a quotient is not greater than what it is
rounded to. -/
theorem le_divNearest {numerator denominator k : Nat} (positive : 0 < denominator)
    (le : k * denominator ≤ numerator) : k ≤ divNearest numerator denominator := by
  cases k with
  | zero => exact Nat.zero_le _
  | succ k =>
      apply Nat.lt_of_not_le
      rw [divNearest_le_iff positive]
      have middle : (2 * k + 1) * denominator + denominator = 2 * ((k + 1) * denominator) := by ring
      omega

theorem divNearest_le_of_le {numerator denominator k : Nat} (positive : 0 < denominator)
    (le : numerator ≤ k * denominator) : divNearest numerator denominator ≤ k := by
  rw [divNearest_le_iff positive]
  have middle : (2 * k + 1) * denominator = 2 * (k * denominator) + denominator := by ring
  omega

namespace Double

/-! ## Magnitudes -/

/-- A rank counts binades, of which all but the first are kept full. -/
theorem exists_places_kept (rank : Nat) :
    ∃ places kept, rank = places * binade + kept ∧ kept < 2 * binade ∧
      (places ≠ 0 → binade ≤ kept) := by
  have split := Nat.div_add_mod rank binade
  have rest_lt := Nat.mod_lt rank (show 0 < binade by decide)
  cases places : rank / binade with
  | zero =>
      rw [places] at split
      exact ⟨0, rank % binade, by omega, by omega, fun some => absurd rfl some⟩
  | succ places' =>
      rw [places, Nat.mul_succ, Nat.mul_comm] at split
      exact ⟨places', binade + rank % binade, by omega, by omega, fun _ => Nat.le_add_right _ _⟩

/-- What is kept may also be as much as the next binade. -/
theorem magnitude_add_of_le {places kept : Nat} (few : kept ≤ 2 * binade)
    (full : places ≠ 0 → binade ≤ kept) :
    magnitude (places * binade + kept) = kept <<< places := by
  rcases Nat.lt_or_eq_of_le few with fewer | rfl
  · exact magnitude_add fewer full
  · have next : places * binade + 2 * binade = (places + 1) * binade + binade := by ring
    rw [next, magnitude_add (by decide) fun _ => Nat.le_refl _]
    simp only [Nat.shiftLeft_eq, Nat.pow_succ]
    ring

theorem magnitude_strictMono : StrictMono magnitude := by
  apply strictMono_nat_of_lt_succ
  intro rank
  rcases exists_places_kept rank with ⟨places, kept, rfl, few, full⟩
  have fullSucc (some : places ≠ 0) : binade ≤ kept + 1 := Nat.le_succ_of_le (full some)
  rw [Nat.add_assoc, magnitude_add few full, magnitude_add_of_le few fullSucc, Nat.shiftLeft_eq,
    Nat.shiftLeft_eq]
  exact Nat.mul_lt_mul_of_pos_right (Nat.lt_succ_self kept) (Nat.two_pow_pos places)

/-! ## The ranks that quotients are rounded to -/

theorem shiftLeft_mul (kept places denominator : Nat) :
    kept <<< places * denominator = kept * denominator <<< places := by
  rw [Nat.shiftLeft_eq, Nat.shiftLeft_eq, Nat.mul_assoc, Nat.mul_comm (2 ^ places)]

/-- A quotient is less than the binade behind that of its excess places, and if it
has any, it is not less than the binade in front. -/
theorem excessPlaces_bounds {denominator : Nat} (positive : 0 < denominator) (numerator : Nat) :
    numerator < 2 * binade * denominator <<< excessPlaces (numerator / denominator) ∧
      (excessPlaces (numerator / denominator) ≠ 0 →
        binade * denominator <<< excessPlaces (numerator / denominator) ≤ numerator) := by
  have unitPositive : 0 < denominator <<< excessPlaces (numerator / denominator) := by
    rw [Nat.shiftLeft_eq]
    exact Nat.mul_pos positive (Nat.two_pow_pos _)
  have kept_eq : numerator / denominator / 1 <<< excessPlaces (numerator / denominator) =
      numerator / denominator <<< excessPlaces (numerator / denominator) := by
    rw [Nat.div_div_eq_div_mul, mul_one_shiftLeft]
  have upper := shifted_excessPlaces_lt (numerator / denominator)
  rw [kept_eq, Nat.div_lt_iff_lt_mul unitPositive] at upper
  refine ⟨upper, fun excess => ?_⟩
  have lower := binade_le_shifted excess
  rwa [kept_eq, Nat.le_div_iff_mul_le unitPositive] at lower

/-- A quotient is rounded to at most some rank if it is below the middle between the
magnitude of that rank and the next one, or just there and the rank is even. -/
theorem nearestRank_le_iff {denominator : Nat} (positive : 0 < denominator)
    (numerator rank : Nat) :
    nearestRank numerator denominator ≤ rank ↔
      2 * numerator < (magnitude rank + magnitude (rank + 1)) * denominator ∨
        2 * numerator = (magnitude rank + magnitude (rank + 1)) * denominator ∧
          rank % 2 = 0 := by
  rcases excessPlaces_bounds positive numerator with ⟨upper, lower⟩
  rw [nearestRank, Nat.add_mul]
  generalize excessPlaces (numerator / denominator) = places at upper lower
  have unitPositive : 0 < denominator <<< places := by
    rw [Nat.shiftLeft_eq]
    exact Nat.mul_pos positive (Nat.two_pow_pos _)
  have ahead := Nat.mul_lt_mul_of_pos_right (magnitude_strictMono (Nat.lt_add_one rank)) positive
  have binade_pos : 0 < binade := by decide
  by_cases above : places * binade + 2 * binade ≤ rank
  · have rounded := divNearest_le_of_le unitPositive (Nat.le_of_lt upper)
    have reached := Nat.mul_le_mul_right denominator (magnitude_strictMono.monotone above)
    rw [magnitude_add_of_le (Nat.le_refl _) (fun _ => by omega), shiftLeft_mul] at reached
    omega
  by_cases below : places ≠ 0 ∧ rank < places * binade + binade
  · rcases below with ⟨some, below⟩
    have rounded := le_divNearest unitPositive (lower some)
    have reached := Nat.mul_le_mul_right denominator
      (magnitude_strictMono.monotone (show rank + 1 ≤ _ from below))
    rw [magnitude_add_of_le (by omega) (fun _ => Nat.le_refl _), shiftLeft_mul] at reached
    have lower := lower some
    omega
  · have reached : places * binade ≤ rank := by
      by_cases none : places = 0
      · rw [none, Nat.zero_mul]
        exact Nat.zero_le _
      · omega
    obtain ⟨kept, rfl⟩ := Nat.exists_eq_add_of_le reached
    have even : (places * binade + kept) % 2 = kept % 2 := by
      rw [Nat.add_mod, Nat.mul_mod, show binade % 2 = 0 from rfl]
      simp
    have middle : kept * denominator <<< places + (kept + 1) * denominator <<< places =
        (2 * kept + 1) * denominator <<< places := by ring
    rw [Nat.add_le_add_iff_left, Nat.add_assoc, magnitude_add_of_le (by omega) (by omega),
      magnitude_add_of_le (by omega) (by omega), shiftLeft_mul, shiftLeft_mul, middle, even,
      divNearest_le_iff unitPositive]

/-- The distance of a rank from a quotient, in terms of the denominator. -/
def distance (numerator denominator rank : Nat) : Nat :=
  ((magnitude rank * denominator : Nat) - (numerator : Int)).natAbs

/-- No magnitude is nearer to a quotient than the one that it is rounded to, and if
another one is as near, the rank is even. -/
theorem distance_nearestRank_le {denominator : Nat} (positive : 0 < denominator)
    (numerator rank : Nat) :
    distance numerator denominator (nearestRank numerator denominator) ≤
        distance numerator denominator rank ∧
      (distance numerator denominator (nearestRank numerator denominator) =
          distance numerator denominator rank →
        rank ≠ nearestRank numerator denominator → nearestRank numerator denominator % 2 = 0) := by
  have below := (nearestRank_le_iff positive numerator _).mp (Nat.le_refl _)
  have above (less : rank < nearestRank numerator denominator) :=
    mt (nearestRank_le_iff positive numerator (nearestRank numerator denominator - 1)).mpr
      (by omega)
  generalize nearestRank numerator denominator = nearest at below above
  have mono := magnitude_strictMono
  rw [distance, distance]
  rcases Nat.lt_trichotomy rank nearest with less | rfl | greater
  · have next := Nat.mul_le_mul_right denominator (mono.monotone (Nat.le_sub_one_of_lt less))
    have own := Nat.mul_lt_mul_of_pos_right (mono less) positive
    have reached := above less
    rw [Nat.sub_add_cancel (by omega), Nat.add_mul] at reached
    omega
  · simp
  · have next := Nat.mul_le_mul_right denominator
      (mono.monotone (show nearest + 1 ≤ rank from greater))
    have own := Nat.mul_lt_mul_of_pos_right (mono greater) positive
    rw [Nat.add_mul] at below
    omega

/-- A quotient that is not greater than another one is not rounded to a greater rank. -/
theorem nearestRank_mono {numerator denominator numerator' denominator' : Nat}
    (positive : 0 < denominator) (positive' : 0 < denominator')
    (le : numerator * denominator' ≤ numerator' * denominator) :
    nearestRank numerator denominator ≤ nearestRank numerator' denominator' := by
  have own := (nearestRank_le_iff positive' numerator' _).mp (Nat.le_refl _)
  rw [nearestRank_le_iff positive]
  generalize nearestRank numerator' denominator' = rank at own
  generalize magnitude rank + magnitude (rank + 1) = middle at own
  have twice : 2 * numerator * denominator' ≤ 2 * numerator' * denominator := by
    rw [Nat.mul_assoc, Nat.mul_assoc]
    exact Nat.mul_le_mul_left 2 le
  have swap : middle * denominator' * denominator = middle * denominator * denominator' := by ring
  rcases own with below | ⟨halfway, even⟩
  · have scaled := Nat.mul_lt_mul_of_pos_right below positive
    rw [swap] at scaled
    exact .inl (Nat.lt_of_mul_lt_mul_right (Nat.lt_of_le_of_lt twice scaled))
  · rw [halfway, swap] at twice
    rcases Nat.lt_or_eq_of_le (Nat.le_of_mul_le_mul_right twice positive') with below | same
    · exact .inl below
    · exact .inr ⟨same, even⟩

/-- The magnitude of a rank is rounded to that rank. -/
theorem nearestRank_magnitude (rank : Nat) : nearestRank (magnitude rank) 1 = rank := by
  have mono := magnitude_strictMono
  apply Nat.le_antisymm
  · rw [nearestRank_le_iff Nat.one_pos]
    have ahead := mono (Nat.lt_add_one rank)
    omega
  · cases rank with
    | zero => exact Nat.zero_le _
    | succ rank =>
        apply Nat.lt_of_not_le
        rw [nearestRank_le_iff Nat.one_pos]
        have ahead := mono (Nat.lt_add_one rank)
        omega

theorem magnitude_add_magnitude_rankLimit :
    magnitude (rankLimit - 1) + magnitude rankLimit =
      2 * ((2 ^ 1024 - 2 ^ 970) * unitsInOne) := by
  decide +kernel

/-- The finite ranks are those of the quotients below the middle between the greatest finite
magnitude and the one that would come next.  The middle itself goes to the rank of
infinity because the greatest finite rank is odd. -/
theorem nearestRank_lt_rankLimit_iff {denominator : Nat} (positive : 0 < denominator)
    (numerator : Nat) :
    nearestRank numerator denominator < rankLimit ↔
      numerator < (2 ^ 1024 - 2 ^ 970) * unitsInOne * denominator := by
  have limit : rankLimit = rankLimit - 1 + 1 := by decide
  have odd : (rankLimit - 1) % 2 = 1 := by decide
  have middle := magnitude_add_magnitude_rankLimit
  rw [limit, Nat.lt_add_one_iff, nearestRank_le_iff positive, ← limit, middle, odd]
  generalize (2 ^ 1024 - 2 ^ 970) * unitsInOne = overflow
  rw [Nat.mul_assoc]
  omega

/-! ## Exact values -/

/-- The exact value of a double. -/
def value (x : Double) : ℚ :=
  x.units / unitsInOne

/-- The rank that the magnitude of an exact value is rounded to. -/
def nearestRankOf (value : ℚ) : Nat :=
  nearestRank (value.num.natAbs * unitsInOne) value.den

/-- What an exact value is rounded to, counted in the least positive magnitude. -/
def nearestUnits (value : ℚ) : Int :=
  if value < 0 then -(magnitude (nearestRankOf value) : Int) else magnitude (nearestRankOf value)

@[simp]
theorem nearestRankOf_zero : nearestRankOf 0 = 0 := by
  simp [nearestRankOf]

theorem abs_eq_div (value : ℚ) : |value| = (value.num.natAbs : ℚ) / value.den := by
  conv_lhs => rw [← Rat.num_div_den value]
  rw [abs_div, ← Int.cast_abs, Int.abs_eq_natAbs, Int.cast_natCast, Nat.abs_cast]

/-- Any quotient that is the magnitude of a value has the rank of that value. -/
theorem nearestRank_of_abs_eq {value : ℚ} {numerator denominator : Nat}
    (positive : 0 < denominator) (abs_eq : |value| = (numerator : ℚ) / denominator) :
    nearestRank (numerator * unitsInOne) denominator = nearestRankOf value := by
  have crossed : numerator * value.den = value.num.natAbs * denominator := by
    rw [abs_eq_div, div_eq_div_iff (by exact_mod_cast value.den_ne_zero)
      (by exact_mod_cast positive.ne')] at abs_eq
    exact_mod_cast abs_eq.symm
  have scaled : numerator * unitsInOne * value.den =
      value.num.natAbs * unitsInOne * denominator := by
    rw [Nat.mul_right_comm, crossed, Nat.mul_right_comm]
  exact Nat.le_antisymm (nearestRank_mono positive value.den_pos (Nat.le_of_eq scaled))
    (nearestRank_mono value.den_pos positive (Nat.le_of_eq scaled.symm))

theorem nearestRankOf_mono {value other : ℚ} (le : |value| ≤ |other|) :
    nearestRankOf value ≤ nearestRankOf other := by
  apply nearestRank_mono value.den_pos other.den_pos
  rw [abs_eq_div, abs_eq_div, div_le_div_iff₀ (by exact_mod_cast value.den_pos)
    (by exact_mod_cast other.den_pos)] at le
  have crossed : value.num.natAbs * other.den ≤ other.num.natAbs * value.den := by
    exact_mod_cast le
  rw [Nat.mul_right_comm, Nat.mul_right_comm other.num.natAbs]
  exact Nat.mul_le_mul_right _ crossed

/-- Rounding keeps the order of exact values. -/
theorem nearestUnits_mono {value other : ℚ} (le : value ≤ other) :
    nearestUnits value ≤ nearestUnits other := by
  rw [nearestUnits, nearestUnits]
  split_ifs with negative otherNegative otherNegative
  · have magnitudes := magnitude_strictMono.monotone (nearestRankOf_mono
      (show |other| ≤ |value| by rw [abs_of_neg negative, abs_of_neg otherNegative]; linarith))
    omega
  · omega
  · exact absurd (lt_of_le_of_lt le otherNegative) negative
  · have magnitudes := magnitude_strictMono.monotone (nearestRankOf_mono
      (show |value| ≤ |other| by
        rw [abs_of_nonneg (not_lt.mp negative), abs_of_nonneg (not_lt.mp otherNegative)]
        exact le))
    omega

theorem lt_of_nearestUnits_lt {value other : ℚ}
    (less : nearestUnits value < nearestUnits other) : value < other :=
  not_le.mp fun le => not_lt.mpr (nearestUnits_mono le) less

/-- A double is what an exact value is rounded to if it has the rank for it and its sign
does not contradict that of the value. -/
theorem units_eq_nearestUnits {x : Double} {value : ℚ} (rank_eq : x.rank = nearestRankOf value)
    (negative : x.negative = true → value ≤ 0) (positive : x.negative = false → 0 ≤ value) :
    x.units = nearestUnits value := by
  rw [units, nearestUnits, rank_eq]
  cases sign : x.negative with
  | true =>
      rcases lt_or_eq_of_le (negative sign) with below | rfl
      · rw [if_pos rfl, if_pos below]
      · simp
  | false => rw [if_neg Bool.false_ne_true, if_neg (not_lt.mpr (positive sign))]

theorem abs_value (x : Double) : |x.value| = (magnitude x.rank : ℚ) / unitsInOne := by
  have abs_units : |(x.units : ℚ)| = magnitude x.rank := by
    rw [units]
    split_ifs <;> simp
  rw [value, abs_div, abs_units, Nat.abs_cast]

theorem nearestRankOf_value (x : Double) : nearestRankOf x.value = x.rank := by
  rw [← nearestRank_of_abs_eq unitsInOne_pos x.abs_value, Nat.mul_comm]
  have common := nearestRank_mul_left unitsInOne_pos (magnitude x.rank) 1
  rw [Nat.mul_one] at common
  rw [common, nearestRank_magnitude]

theorem value_nonpos {x : Double} (sign : x.negative = true) : x.value ≤ 0 := by
  have positive : (0 : ℚ) < unitsInOne := by exact_mod_cast unitsInOne_pos
  rw [value, units, if_pos sign]
  exact div_nonpos_of_nonpos_of_nonneg (by simp) positive.le

theorem value_nonneg {x : Double} (sign : x.negative = false) : 0 ≤ x.value := by
  have positive : (0 : ℚ) < unitsInOne := by exact_mod_cast unitsInOne_pos
  rw [value, units, sign, if_neg Bool.false_ne_true]
  exact div_nonneg (by simp) positive.le

theorem nearestUnits_value (x : Double) : nearestUnits x.value = x.units :=
  (units_eq_nearestUnits x.nearestRankOf_value.symm value_nonpos value_nonneg).symm

theorem natCast_two_pow_sub {low high : Nat} (le : low ≤ high) :
    ((2 ^ high - 2 ^ low : Nat) : ℚ) = 2 ^ high - 2 ^ low := by
  rw [Nat.cast_sub (Nat.pow_le_pow_right Nat.two_pos le), Nat.cast_pow, Nat.cast_pow,
    Nat.cast_ofNat]

/-- A value has a finite rank exactly if it is nearer to the greatest doubles than to
the power of two behind them. -/
theorem nearestRankOf_lt_rankLimit_iff (value : ℚ) :
    nearestRankOf value < rankLimit ↔ |value| < 2 ^ 1024 - 2 ^ 970 := by
  have overflow := natCast_two_pow_sub (show 970 ≤ 1024 by decide)
  rw [nearestRankOf, nearestRank_lt_rankLimit_iff value.den_pos, ← overflow, abs_eq_div,
    div_lt_iff₀ (by exact_mod_cast value.den_pos)]
  generalize 2 ^ 1024 - 2 ^ 970 = overflow
  rw [Nat.mul_right_comm, Nat.mul_lt_mul_right unitsInOne_pos]
  exact_mod_cast Iff.rfl

/-! ## Values without rounding -/

/-- A value that is the exact value of a double. -/
def IsExact (value : ℚ) : Prop :=
  ∃ x : Double, x.value = value

theorem IsExact.abs_lt {value : ℚ} (exactly : IsExact value) : |value| < 2 ^ 1024 - 2 ^ 970 := by
  rcases exactly with ⟨x, rfl⟩
  rw [← nearestRankOf_lt_rankLimit_iff, nearestRankOf_value]
  exact x.rank_lt

theorem value_lt_value_iff {x y : Double} : x.value < y.value ↔ x.units < y.units := by
  have positive : (0 : ℚ) < unitsInOne := by exact_mod_cast unitsInOne_pos
  rw [value, value, div_lt_div_iff_of_pos_right positive, Int.cast_lt]

theorem nearestUnits_lt_iff {value other : ℚ} (exactly : IsExact value)
    (otherExactly : IsExact other) : nearestUnits value < nearestUnits other ↔ value < other := by
  rcases exactly with ⟨x, rfl⟩
  rcases otherExactly with ⟨y, rfl⟩
  rw [nearestUnits_value, nearestUnits_value, value_lt_value_iff]

end Double

/-! ## Whole numbers -/

theorem Double.nearestRankOf_intCast (n : Int) :
    nearestRankOf n = nearestRank (n.natAbs * unitsInOne) 1 := by
  have quotient : |(n : ℚ)| = (n.natAbs : ℚ) / (1 : Nat) := by
    rw [Nat.cast_one, div_one, Nat.cast_natAbs, Int.cast_abs]
  exact (nearestRank_of_abs_eq Nat.one_pos quotient).symm

/-- A whole number of sixty-four bits has the units that its value is rounded to. -/
theorem WideInteger.units_toDouble (n : WideInteger) :
    n.toDouble.units = Double.nearestUnits n.value := by
  apply Double.units_eq_nearestUnits (Double.nearestRankOf_intCast n.value).symm
  · intro sign
    have negative : n.value < 0 := of_decide_eq_true sign
    exact_mod_cast negative.le
  · intro sign
    have positive : ¬ n.value < 0 := of_decide_eq_false sign
    exact_mod_cast not_lt.mp positive

theorem Double.magnitude_nearestRank_of_le {number : Nat} (few : number ≤ 2 ^ 53) :
    magnitude (nearestRank (number * unitsInOne) 1) = number * unitsInOne := by
  rw [unitsInOne, mul_one_shiftLeft]
  rcases Nat.lt_or_eq_of_le few with fewer | rfl
  · exact magnitude_nearestRank_shiftLeft 1074 fewer
  · have moved : (2 ^ 53) <<< 1074 = binade <<< 1075 := by decide +kernel
    rw [moved]
    exact magnitude_nearestRank_shiftLeft 1075 (by decide)

/-- A whole number up to the fifty-third power of two is the value of a double. -/
theorem WideInteger.value_toDouble {n : WideInteger} (few : n.value.natAbs ≤ 2 ^ 53) :
    n.toDouble.value = n.value := by
  have nonzero : (Double.unitsInOne : ℚ) ≠ 0 := by exact_mod_cast Double.unitsInOne_pos.ne'
  have units_eq : n.toDouble.units = n.value * Double.unitsInOne := by
    have magnitude_eq : Double.magnitude n.toDouble.rank = n.value.natAbs * Double.unitsInOne :=
      Double.magnitude_nearestRank_of_le few
    have sign : n.toDouble.negative = decide (n.value < 0) := rfl
    rw [Double.units, magnitude_eq, sign, Nat.cast_mul]
    generalize (Double.unitsInOne : Int) = unit
    split
    · rename_i negative
      rw [← neg_mul, Int.ofNat_natAbs_of_nonpos (of_decide_eq_true negative).le, neg_neg]
    · rename_i positive
      rw [Int.natAbs_of_nonneg (by simpa using positive)]
  rw [Double.value, units_eq, Int.cast_mul, Int.cast_natCast, mul_div_cancel_right₀ _ nonzero]

theorem Double.isExact_of_abs_le {n : Int} (few : |n| ≤ 2 ^ 53) : IsExact n := by
  have lower := neg_le_of_abs_le few
  have upper := le_of_abs_le few
  let wide : WideInteger := ⟨n, by omega, by omega⟩
  exact ⟨wide.toDouble, WideInteger.value_toDouble (show n.natAbs ≤ 2 ^ 53 by omega)⟩

end Eligibility
