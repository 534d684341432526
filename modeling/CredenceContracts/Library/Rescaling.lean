import Mathlib.Algebra.Order.Ring.Int
import Mathlib.Data.Int.ConditionallyCompleteOrder
import Mathlib.Order.ConditionallyCompleteLattice.Basic
import Mathlib.Order.GaloisConnection.Basic

/-!
# Two units of one quantity

A fine unit goes a fixed number of times into a coarse one.  Amounts become finer by a
multiplication, which loses nothing, and coarser by a division, which loses less than one
coarse unit.
-/

namespace Rescaling

variable {scale coarse other fine : Int}

/-- A coarse amount in the fine unit. -/
def finer (scale coarse : Int) : Int :=
  coarse * scale

/-- The whole coarse units in a fine amount. -/
def coarser (scale fine : Int) : Int :=
  fine / scale

/-- A coarse amount is in a fine one exactly when it is among its whole units. -/
theorem galoisConnection (positive : 0 < scale) :
    GaloisConnection (finer scale) (coarser scale) :=
  fun _ _ => (Int.le_ediv_iff_mul_le positive).symm

@[simp] theorem finer_zero : finer scale 0 = 0 :=
  zero_mul scale

theorem finer_add : finer scale (coarse + other) = finer scale coarse + finer scale other :=
  add_mul coarse other scale

theorem finer_strictMono (positive : 0 < scale) : StrictMono (finer scale) :=
  fun _ _ less => mul_lt_mul_of_pos_right less positive

theorem finer_nonneg (positive : 0 < scale) (nonneg : 0 ≤ coarse) : 0 ≤ finer scale coarse :=
  mul_nonneg nonneg positive.le

/-- In the finer unit an amount is not a smaller number. -/
theorem le_finer (positive : 0 < scale) (nonneg : 0 ≤ coarse) : coarse ≤ finer scale coarse :=
  le_mul_of_one_le_right nonneg positive

theorem coarser_nonneg (positive : 0 < scale) (nonneg : 0 ≤ fine) : 0 ≤ coarser scale fine :=
  (galoisConnection positive).le_u (by simpa using nonneg)

/-- An amount that became finer is found again. -/
theorem coarser_finer (positive : 0 < scale) : coarser scale (finer scale coarse) = coarse :=
  (finer_strictMono positive).injective ((galoisConnection positive).l_u_l_eq_l coarse)

/-- What the whole units of an amount make up is not more than the amount. -/
theorem finer_coarser_le (positive : 0 < scale) : finer scale (coarser scale fine) ≤ fine :=
  (galoisConnection positive).l_u_le fine

/-- The rest of a division is less than one coarse unit. -/
theorem lt_finer_coarser_add (positive : 0 < scale) :
    fine < finer scale (coarser scale fine) + scale := by
  have next : ¬finer scale (coarser scale fine + 1) ≤ fine := fun within =>
    (lt_add_one _).not_ge (((galoisConnection positive) _ _).mp within)
  rw [finer_add, finer, finer, one_mul] at next
  exact not_le.mp next

end Rescaling
