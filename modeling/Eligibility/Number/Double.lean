/-!
# Finite binary64 numbers

A finite double is a sign together with the rank of its magnitude: the number
of smaller magnitudes, which is also what its bits say once the sign bit is
taken away.  Every magnitude is a whole multiple of the least positive one, so a
double has an exact integer value in that unit.  Order is the order of these
values; both zeros have the value zero, so they compare as equal although they
are different numbers.
-/

namespace Eligibility

/-- The number of ranks from one power of two to the next, which is the
fifty-second power of two. -/
def binade : Nat :=
  0x10000000000000

/-- The ranks of the finite magnitudes are those below this bound; the bound
itself is the rank that infinity would have. -/
def rankLimit : Nat :=
  2047 * binade

/-- The bit that the sign adds to a rank. -/
def signBit : Nat :=
  2048 * binade

/-- A finite binary64 number. -/
structure Double where
  /-- Whether the sign bit is set, which zero also may have. -/
  negative : Bool
  /-- The place of the magnitude among the finite magnitudes. -/
  rank : Nat
  rank_lt : rank < rankLimit
deriving DecidableEq, Repr

namespace Double

/-- The magnitude of a given rank, counted in the least positive magnitude. -/
def magnitude (rank : Nat) : Nat :=
  if rank < binade then rank else (binade + rank % binade) <<< (rank / binade - 1)

/-- The value of a double, counted in the least positive magnitude. -/
def units (x : Double) : Int :=
  if x.negative then -(magnitude x.rank : Int) else magnitude x.rank

/-- The zero of a given sign. -/
def zero (negative : Bool) : Double :=
  ⟨negative, 0, by decide⟩

/-- Whether a double is one of the two zeros. -/
def isZero (x : Double) : Bool :=
  x.rank == 0

/-- The double of the same magnitude with a given sign. -/
def withSign (x : Double) (negative : Bool) : Double :=
  { x with negative }

/-- The exact order of the values of two doubles. -/
def order (x y : Double) : Ordering :=
  compare x.units y.units

/-- The double of a given sign and rank, if the rank is finite. -/
def ofRank? (negative : Bool) (rank : Nat) : Option Double :=
  if rank_lt : rank < rankLimit then some ⟨negative, rank, rank_lt⟩ else none

/-- The bits of a double, read as a number. -/
def bits (x : Double) : Nat :=
  if x.negative then signBit + x.rank else x.rank

@[simp]
theorem magnitude_zero : magnitude 0 = 0 :=
  rfl

@[simp]
theorem units_zero (negative : Bool) : (zero negative).units = 0 := by
  cases negative <;> rfl

@[simp]
theorem ofRank?_rank (x : Double) : ofRank? x.negative x.rank = some x :=
  dif_pos x.rank_lt

end Double

/-- What sixty-four bits stand for as a binary64 number. -/
inductive ExtendedDouble
  | finite (value : Double)
  | infinite (negative : Bool)
  | notANumber
deriving DecidableEq, Repr

namespace ExtendedDouble

/-- The number that sixty-four bits stand for. -/
def ofBits (bits : Nat) : ExtendedDouble :=
  let negative := signBit ≤ bits
  match Double.ofRank? negative (bits % signBit) with
  | some value => .finite value
  | none => if bits % signBit = rankLimit then .infinite negative else .notANumber

end ExtendedDouble

end Eligibility
