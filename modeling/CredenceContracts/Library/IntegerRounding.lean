import Mathlib.Algebra.Order.Floor.Ring
import Mathlib.Tactic.Linarith
import Mathlib.Tactic.Ring

/-!
# Rounding to integers

Three ways to round the elements of an ordered field, each symmetric about zero.  A
symmetric way is determined by what it does to the quotients of natural numbers, and
there it is a matter of the quotient and the remainder.
-/

namespace IntegerRounding

variable {K : Type} [Field K] [LinearOrder K] [IsStrictOrderedRing K] [FloorRing K]

/-- Where a value between two integers goes. -/
inductive Direction where
  | towardZero
  | awayFromZero
  /-- To the nearest integer, and from the middle away from zero. -/
  | nearest
  deriving DecidableEq, Repr

/-- The integer that a value is rounded to. -/
def Direction.round (direction : Direction) (value : K) : Int :=
  match direction with
  | .towardZero => if 0 ≤ value then ⌊value⌋ else ⌈value⌉
  | .awayFromZero => if 0 ≤ value then ⌈value⌉ else ⌊value⌋
  | .nearest => if 0 ≤ value then ⌊value + 1 / 2⌋ else ⌈value - 1 / 2⌉

/-- What the direction makes of a quotient of natural numbers. -/
def Direction.quotient (direction : Direction) (numerator divisor : Nat) : Nat :=
  match direction with
  | .towardZero => numerator / divisor
  | .awayFromZero =>
      if numerator % divisor = 0 then numerator / divisor else numerator / divisor + 1
  | .nearest =>
      if numerator % divisor * 2 ≥ divisor then numerator / divisor + 1
      else numerator / divisor

variable {direction : Direction}

theorem round_zero : direction.round (0 : K) = 0 := by
  cases direction with
  | towardZero => simp [Direction.round]
  | awayFromZero => simp [Direction.round]
  | nearest =>
      have half : ⌊(1 / 2 : K)⌋ = 0 := by
        rw [Int.floor_eq_iff]
        norm_num
      simpa [Direction.round] using half

theorem round_neg_of_pos {value : K} (positive : 0 < value) :
    direction.round (-value) = -direction.round value := by
  have negative : ¬0 ≤ -value := by simpa using positive
  cases direction with
  | towardZero =>
      rw [Direction.round, if_neg negative, Direction.round, if_pos positive.le, Int.ceil_neg]
  | awayFromZero =>
      rw [Direction.round, if_neg negative, Direction.round, if_pos positive.le, Int.floor_neg]
  | nearest =>
      rw [Direction.round, if_neg negative, Direction.round, if_pos positive.le]
      rw [← Int.ceil_neg]
      congr 1
      ring

/-- Every direction is symmetric about zero. -/
theorem round_neg {value : K} : direction.round (-value) = -direction.round value := by
  rcases lt_trichotomy value 0 with negative | rfl | positive
  · have opposite : direction.round (-(-value)) = -direction.round (-value) :=
      round_neg_of_pos (neg_pos.mpr negative)
    rw [neg_neg] at opposite
    rw [opposite, neg_neg]
  · simp [round_zero]
  · exact round_neg_of_pos positive

section Quotients

variable {numerator divisor : Nat}

/-- The share of the divisor that a division leaves. -/
def fraction (K : Type) [Field K] (numerator divisor : Nat) : K :=
  ((numerator % divisor : Nat) : K) / divisor

omit [LinearOrder K] [FloorRing K] [IsStrictOrderedRing K] in
theorem div_eq_add_fraction [CharZero K] (positive : 0 < divisor) :
    (numerator / divisor : K) =
      ((numerator / divisor : Nat) : Int) + fraction K numerator divisor := by
  have nonzero : (divisor : K) ≠ 0 := by exact_mod_cast positive.ne'
  rw [fraction, div_eq_iff nonzero, add_mul, div_mul_cancel₀ _ nonzero, Int.cast_natCast]
  exact_mod_cast (Nat.div_add_mod' numerator divisor).symm

omit [FloorRing K] in
theorem fraction_nonneg : 0 ≤ fraction K numerator divisor := by
  unfold fraction
  positivity

omit [FloorRing K] in
theorem fraction_lt_one (positive : 0 < divisor) : fraction K numerator divisor < 1 := by
  have cast : (0 : K) < divisor := by exact_mod_cast positive
  rw [fraction, div_lt_one cast]
  exact_mod_cast Nat.mod_lt numerator positive

omit [FloorRing K] in
theorem fraction_pos_iff (positive : 0 < divisor) :
    0 < fraction K numerator divisor ↔ numerator % divisor ≠ 0 := by
  have cast : (0 : K) < divisor := by exact_mod_cast positive
  rw [fraction, lt_div_iff₀ cast, zero_mul, ← Nat.pos_iff_ne_zero]
  exact Nat.cast_pos

omit [FloorRing K] in
theorem half_le_fraction_iff (positive : 0 < divisor) :
    1 / 2 ≤ fraction K numerator divisor ↔ numerator % divisor * 2 ≥ divisor := by
  have cast : (0 : K) < divisor := by exact_mod_cast positive
  rw [fraction, le_div_iff₀ cast, one_div_mul_eq_div, div_le_iff₀ two_pos]
  exact_mod_cast Iff.rfl

/-- The rounding of a quotient of natural numbers is decided by its remainder. -/
theorem round_div (positive : 0 < divisor) :
    direction.round (numerator / divisor : K) = direction.quotient numerator divisor := by
  have nonneg : (0 : K) ≤ numerator / divisor := by positivity
  have below : fraction K numerator divisor < 1 := fraction_lt_one positive
  have least : 0 ≤ fraction K numerator divisor := fraction_nonneg
  cases direction with
  | towardZero =>
      rw [Direction.round, if_pos nonneg, div_eq_add_fraction positive, Int.floor_intCast_add,
        Int.floor_eq_zero_iff.mpr ⟨least, below⟩, add_zero, Direction.quotient]
  | awayFromZero =>
      rw [Direction.round, if_pos nonneg, div_eq_add_fraction positive, Int.ceil_intCast_add,
        Direction.quotient]
      split
      · rename_i exact
        have none : fraction K numerator divisor = 0 := by simp [fraction, exact]
        rw [none, Int.ceil_zero, add_zero]
      · rename_i left
        have some := (fraction_pos_iff (K := K) positive).mpr left
        have up : ⌈fraction K numerator divisor⌉ = 1 :=
          Int.ceil_eq_iff.mpr ⟨by simpa using some, by simpa using below.le⟩
        rw [up, Nat.cast_add_one]
  | nearest =>
      rw [Direction.round, if_pos nonneg, div_eq_add_fraction positive, add_assoc,
        Int.floor_intCast_add, Direction.quotient]
      split
      · rename_i upper
        have large := (half_le_fraction_iff (K := K) positive).mpr upper
        have up : ⌊fraction K numerator divisor + 1 / 2⌋ = 1 :=
          Int.floor_eq_iff.mpr ⟨by push_cast; linarith, by push_cast; linarith⟩
        rw [up, Nat.cast_add_one]
      · rename_i lower
        have small := not_le.mp fun large =>
          lower ((half_le_fraction_iff (K := K) positive).mp large)
        have down : ⌊fraction K numerator divisor + 1 / 2⌋ = 0 :=
          Int.floor_eq_iff.mpr ⟨by push_cast; linarith, by push_cast; linarith⟩
        rw [down, add_zero]

end Quotients

end IntegerRounding
