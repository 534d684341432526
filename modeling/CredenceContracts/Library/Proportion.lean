import Mathlib.Algebra.Order.BigOperators.Group.List
import Mathlib.Algebra.Order.Ring.Int
import Mathlib.Tactic.Linarith
import Mathlib.Tactic.Ring

/-!
# Splitting an amount in proportion

An amount taken from a pool of two parts is split by rounding the first part's
share down and letting the second part bear the rest.  Rounding down never
overdraws the first part, and the rest never overdraws the second, although it
is rounded up.  Shares of the parts of an amount fall short of the share of the whole
amount by one unit for each cut at most, and so do functions composed of shares by
what their roundings add up to.
-/

namespace Proportion

variable {part whole amount : Int}

/-- The share of `amount` that `part` of `whole` bears, rounded down. -/
def share (part amount whole : Int) : Int :=
  part * amount / whole

@[simp] theorem share_zero_part : share 0 amount whole = 0 := by
  simp [share]

@[simp] theorem share_zero_amount : share part 0 whole = 0 := by
  simp [share]

theorem share_whole (positive : 0 < whole) : share part whole whole = part :=
  Int.mul_ediv_cancel part positive.ne'

theorem share_nonneg (partNonneg : 0 ≤ part) (contained : part ≤ whole)
    (amountNonneg : 0 ≤ amount) : 0 ≤ share part amount whole :=
  Int.ediv_nonneg (mul_nonneg partNonneg amountNonneg) (partNonneg.trans contained)

theorem share_le_amount (partNonneg : 0 ≤ part) (contained : part ≤ whole)
    (amountNonneg : 0 ≤ amount) : share part amount whole ≤ amount := by
  rcases (partNonneg.trans contained).eq_or_lt with rfl | positive
  · simpa [share] using amountNonneg
  · apply Int.ediv_le_of_le_mul positive
    rw [mul_comm amount whole]
    exact mul_le_mul_of_nonneg_right contained amountNonneg

theorem share_le_part (partNonneg : 0 ≤ part) (contained : part ≤ whole)
    (bounded : amount ≤ whole) : share part amount whole ≤ part := by
  rcases (partNonneg.trans contained).eq_or_lt with rfl | positive
  · simpa [share] using partNonneg
  · apply Int.ediv_le_of_le_mul positive
    exact mul_le_mul_of_nonneg_left bounded partNonneg

/-- What the rounded share leaves of the amount fits in the other part. -/
theorem rest_le_complement (partNonneg : 0 ≤ part) (contained : part ≤ whole)
    (bounded : amount ≤ whole) :
    amount - share part amount whole ≤ whole - part := by
  rcases (partNonneg.trans contained).eq_or_lt with rfl | positive
  · simp only [share, Int.ediv_zero]
    linarith
  · have covered : amount - (whole - part) ≤ share part amount whole := by
      rw [share, Int.le_ediv_iff_mul_le positive]
      -- the two sides differ by the product of the two complements
      have complements : 0 ≤ (whole - part) * (whole - amount) :=
        mul_nonneg (by linarith) (by linarith)
      linarith
    linarith

/-- A share can be taken of the whole multiples and of the remainder apart, without ever
forming the product of both amounts. -/
theorem share_split (positive : 0 < whole) :
    part / whole * amount + part % whole * amount / whole = share part amount whole := by
  have divided : part * amount = part % whole * amount + part / whole * amount * whole := by
    calc part * amount
        = (part % whole + whole * (part / whole)) * amount := by rw [Int.emod_add_mul_ediv]
      _ = part % whole * amount + part / whole * amount * whole := by ring
  rw [share, divided, Int.add_mul_ediv_right _ _ positive.ne', add_comm]

section Cutting

variable {other : Int}

theorem share_mono_part (amountNonneg : 0 ≤ amount) (positive : 0 < whole)
    (smaller : part ≤ other) : share part amount whole ≤ share other amount whole :=
  Int.ediv_le_ediv positive (mul_le_mul_of_nonneg_right smaller amountNonneg)

/-- The shares of two parts together are the share of their sum, or one less. -/
theorem share_add_bounds (positive : 0 < whole) :
    share part amount whole + share other amount whole ≤ share (part + other) amount whole ∧
      share (part + other) amount whole ≤
        share part amount whole + share other amount whole + 1 := by
  have first := Int.ediv_mul_le (part * amount) positive.ne'
  have second := Int.ediv_mul_le (other * amount) positive.ne'
  have firstRest := Int.lt_ediv_add_one_mul_self (part * amount) positive
  have secondRest := Int.lt_ediv_add_one_mul_self (other * amount) positive
  unfold share
  constructor
  · rw [Int.le_ediv_iff_mul_le positive]
    linarith
  · rw [← Int.lt_add_one_iff, Int.ediv_lt_iff_lt_mul positive]
    linarith

/-- A larger part bears at most as much more as it is larger. -/
theorem share_add_le (positive : 0 < whole) (bounded : amount ≤ whole)
    (otherNonneg : 0 ≤ other) :
    share (part + other) amount whole ≤ share part amount whole + other := by
  have rest := Int.lt_ediv_add_one_mul_self (part * amount) positive
  have more : other * amount ≤ other * whole := mul_le_mul_of_nonneg_left bounded otherNonneg
  unfold share
  rw [← Int.lt_add_one_iff, Int.ediv_lt_iff_lt_mul positive]
  linarith

end Cutting

/-- On nonnegative values the function is nonnegative, and of a sum it is the sum of
its values or exceeds it by the slack at most. -/
structure AdditiveWithin (slack : Int) (function : Int → Int) : Prop where
  nonneg : ∀ {value : Int}, 0 ≤ value → 0 ≤ function value
  le_add : ∀ {first second : Int}, 0 ≤ first → 0 ≤ second →
    function first + function second ≤ function (first + second)
  add_le : ∀ {first second : Int}, 0 ≤ first → 0 ≤ second →
    function (first + second) ≤ function first + function second + slack

namespace AdditiveWithin

variable {slack outerSlack : Int} {function outer : Int → Int}

theorem of_share (amountNonneg : 0 ≤ amount) (positive : 0 < whole) :
    AdditiveWithin 1 (share · amount whole) where
  nonneg := fun partNonneg => Int.ediv_nonneg (mul_nonneg partNonneg amountNonneg) positive.le
  le_add := fun _ _ => (share_add_bounds positive).1
  add_le := fun _ _ => (share_add_bounds positive).2

theorem monotone (additive : AdditiveWithin slack function) {smaller larger : Int}
    (smallerNonneg : 0 ≤ smaller) (below : smaller ≤ larger) :
    function smaller ≤ function larger := by
  have restNonneg : 0 ≤ larger - smaller := sub_nonneg.mpr below
  have parts := additive.le_add smallerNonneg restNonneg
  have rest := additive.nonneg restNonneg
  rw [add_sub_cancel] at parts
  linarith

/-- The slacks of two functions add up, where the outer one grows no faster than its
argument. -/
theorem comp (additive : AdditiveWithin slack function)
    (outside : AdditiveWithin outerSlack outer)
    (slow : ∀ {value more : Int}, 0 ≤ more → outer (value + more) ≤ outer value + more)
    (slackNonneg : 0 ≤ slack) :
    AdditiveWithin (slack + outerSlack) (outer ∘ function) where
  nonneg := fun valueNonneg => outside.nonneg (additive.nonneg valueNonneg)
  le_add := by
    intro first second firstNonneg secondNonneg
    have parts := additive.le_add firstNonneg secondNonneg
    have sumNonneg := add_nonneg (additive.nonneg firstNonneg) (additive.nonneg secondNonneg)
    exact (outside.le_add (additive.nonneg firstNonneg) (additive.nonneg secondNonneg)).trans
      (outside.monotone sumNonneg parts)
  add_le := by
    intro first second firstNonneg secondNonneg
    have sumNonneg := additive.nonneg (add_nonneg firstNonneg secondNonneg)
    calc outer (function (first + second))
        ≤ outer (function first + function second + slack) :=
          outside.monotone sumNonneg (additive.add_le firstNonneg secondNonneg)
      _ ≤ outer (function first + function second) + slack := slow slackNonneg
      _ ≤ outer (function first) + outer (function second) + (slack + outerSlack) := by
          have parts := outside.add_le (additive.nonneg firstNonneg)
            (additive.nonneg secondNonneg)
          linarith

/-- Cut into several pieces, a value loses the slack at most at each cut. -/
theorem sum_bounds (additive : AdditiveWithin slack function) {pieces : List Int}
    (cut : pieces ≠ []) (nonneg : ∀ piece ∈ pieces, 0 ≤ piece) :
    (pieces.map function).sum ≤ function pieces.sum ∧
      function pieces.sum ≤ (pieces.map function).sum + slack * (pieces.length - 1) := by
  induction pieces with
  | nil => exact absurd rfl cut
  | cons piece rest ih =>
      rcases eq_or_ne rest [] with rfl | remaining
      · simp
      · obtain ⟨pieceNonneg, restNonneg⟩ := List.forall_mem_cons.mp nonneg
        obtain ⟨low, high⟩ := ih remaining restNonneg
        have sumNonneg : 0 ≤ rest.sum := List.sum_nonneg restNonneg
        have joined := additive.le_add pieceNonneg sumNonneg
        have joint := additive.add_le pieceNonneg sumNonneg
        simp only [List.map_cons, List.sum_cons, List.length_cons]
        push_cast
        constructor <;> linarith

end AdditiveWithin

end Proportion
