import Eligibility.Number.Double

/-!
# Rounding to the nearest double

A quotient of two natural numbers, counted in the least positive magnitude, is
rounded to the nearest rank, and a tie goes to the even one.  The ranks go on
beyond the finite doubles, so a quotient too large for them simply has a rank
that is not finite.  Products and quotients of doubles and whole numbers are
exact quotients in this sense, rounded once.
-/

namespace Eligibility

/-- A quotient rounded to the nearest whole number, a tie to the even one. -/
def divNearest (numerator denominator : Nat) : Nat :=
  let quotient := numerator / denominator
  let twiceRest := 2 * (numerator % denominator)
  if twiceRest < denominator then quotient
  else if denominator < twiceRest then quotient + 1
  else quotient + quotient % 2

/-- Rounding to a whole number goes up by at most one. -/
theorem divNearest_le (numerator denominator : Nat) :
    divNearest numerator denominator ≤ numerator / denominator + 1 := by
  unfold divNearest
  dsimp only
  split
  · exact Nat.le_succ _
  · split
    · exact Nat.le_refl _
    · exact Nat.add_le_add_left (Nat.le_of_lt_succ (Nat.mod_lt _ Nat.two_pos)) _

/-- A power of ten. -/
def tenPow (power : Nat) : Nat :=
  Nat.pow 10 power

namespace Double

/-- How many binary places a quotient has beyond the fifty-three that a
magnitude keeps. -/
def excessPlaces (quotient : Nat) : Nat :=
  if quotient < 2 * binade then 0 else quotient.log2 - 52

/-- The rank of the magnitude nearest to a quotient, a tie to the even rank. -/
def nearestRank (numerator denominator : Nat) : Nat :=
  let places := excessPlaces (numerator / denominator)
  places * binade + divNearest numerator (denominator <<< places)

/-- The double nearest to a quotient, unless that is too large for one. -/
def nearest? (negative : Bool) (numerator denominator : Nat) : Option Double :=
  ofRank? negative (nearestRank numerator denominator)

/-- How many times the least positive magnitude goes into one. -/
def unitsInOne : Nat :=
  1 <<< 1074

/-- The double nearest to a whole number, unless that is too large for one. -/
def ofInt? (value : Int) : Option Double :=
  nearest? (value < 0) (value.natAbs * unitsInOne) 1

/-- The double nearest to the product of two doubles. -/
def mul? (x y : Double) : Option Double :=
  nearest? (x.negative != y.negative) (magnitude x.rank * magnitude y.rank) unitsInOne

/-- The double nearest to the quotient of two doubles, of which the divisor is
not zero. -/
def div? (x y : Double) : Option Double :=
  if y.isZero then none
  else nearest? (x.negative != y.negative) (magnitude x.rank * unitsInOne) (magnitude y.rank)

/-! ## Whole numbers of few places have a finite rank -/

theorem mul_one_shiftLeft (n shift : Nat) : n * 1 <<< shift = n <<< shift := by
  rw [Nat.shiftLeft_eq, Nat.shiftLeft_eq, Nat.one_mul]

/-- A quotient without its excess places has at most fifty-three. -/
theorem shifted_excessPlaces_lt (quotient : Nat) :
    quotient / 1 <<< excessPlaces quotient < 2 * binade := by
  rw [Nat.shiftLeft_eq, Nat.one_mul]
  unfold excessPlaces
  split
  · rename_i small
    rw [Nat.pow_zero, Nat.div_one]
    exact small
  · rename_i large
    have positive : quotient ≠ 0 := fun zero => large (zero ▸ by decide)
    have places : 53 ≤ quotient.log2 :=
      (Nat.le_log2 positive).mpr (Nat.le_trans (by decide) (Nat.not_lt.mp large))
    have bound : quotient < 2 ^ (quotient.log2 + 1) := Nat.lt_log2_self
    rw [show quotient.log2 + 1 = quotient.log2 - 52 + 53 by omega, Nat.pow_add] at bound
    exact Nat.lt_of_lt_of_eq (Nat.div_lt_of_lt_mul bound) (by decide)

/-- A number of few places that is moved up has few excess places. -/
theorem excessPlaces_shiftLeft_le {n places : Nat} (shift : Nat) (small : n < 1 <<< places)
    (enough : 53 ≤ places + shift) :
    excessPlaces (n <<< shift) ≤ places + shift - 53 := by
  unfold excessPlaces
  split
  · exact Nat.zero_le _
  · rename_i large
    have positive : n <<< shift ≠ 0 := fun zero => large (zero ▸ by decide)
    have product : n <<< shift < 2 ^ (places + shift) := by
      rw [Nat.shiftLeft_eq, Nat.one_mul] at small
      rw [Nat.shiftLeft_eq, Nat.pow_add]
      exact Nat.mul_lt_mul_of_pos_right small (Nat.two_pow_pos shift)
    have fewer := (Nat.log2_lt positive).mpr product
    omega

/-- The rank of a quotient is bounded by its number of binary places. -/
theorem nearestRank_le (numerator denominator : Nat) :
    nearestRank numerator denominator ≤
      (excessPlaces (numerator / denominator) + 2) * binade := by
  have rounded := divNearest_le numerator
    (denominator <<< excessPlaces (numerator / denominator))
  have kept := shifted_excessPlaces_lt (numerator / denominator)
  rw [Nat.div_div_eq_div_mul, mul_one_shiftLeft] at kept
  unfold nearestRank
  rw [Nat.add_mul]
  exact Nat.add_le_add_left (Nat.le_trans rounded kept) _

end Double

/-- A whole number of sixty-four bits, signed or unsigned. -/
structure WideInteger where
  value : Int
  lower : -0x8000000000000000 ≤ value
  upper : value < 0x10000000000000000
deriving DecidableEq, Repr

namespace WideInteger

/-- A whole number of sixty-four bits, if it is one. -/
def ofInt? (value : Int) : Option WideInteger :=
  if range : -0x8000000000000000 ≤ value ∧ value < 0x10000000000000000 then
    some ⟨value, range.1, range.2⟩
  else none

/-- A whole number that sixty-four bits hold with a sign, if it is one. -/
def signed? (value : Int) : Option WideInteger :=
  (ofInt? value).filter (·.value < 0x8000000000000000)

/-- Every whole number of sixty-four bits has a finite rank. -/
theorem nearestRank_lt (x : WideInteger) :
    Double.nearestRank (x.value.natAbs * Double.unitsInOne) 1 < rankLimit := by
  have small : x.value.natAbs < 1 <<< 64 := by
    have lower := x.lower
    have upper := x.upper
    exact Nat.lt_of_lt_of_eq (show x.value.natAbs < 0x10000000000000000 by omega) rfl
  have places := Double.excessPlaces_shiftLeft_le 1074 small (by decide)
  have bound := Double.nearestRank_le (x.value.natAbs * Double.unitsInOne) 1
  rw [Nat.div_one, Double.unitsInOne, Double.mul_one_shiftLeft] at bound
  rw [Double.unitsInOne, Double.mul_one_shiftLeft]
  have scaled := Nat.mul_le_mul_right binade (Nat.add_le_add_right places 2)
  exact Nat.lt_of_le_of_lt (Nat.le_trans bound scaled) (by decide)

/-- The double nearest to a whole number of sixty-four bits. -/
def toDouble (x : WideInteger) : Double :=
  ⟨x.value < 0, Double.nearestRank (x.value.natAbs * Double.unitsInOne) 1, x.nearestRank_lt⟩

end WideInteger

end Eligibility
