import CredenceContracts.Bond.Funds
import CredenceContracts.Library.Proportion

/-!
# The early-exit penalty

The penalty is a share of a share, each rounded down, and nothing at all where one of
the two products leaves the signed word.  While both fit it is the exact penalty,
which grows with the amount and with the remaining time, is within the amount, and
loses two units at most where an amount is cut in two.
-/

namespace CredenceBond

open MachineInt Proportion

/-- The penalty over unbounded integers. -/
def exactPenalty (amount : Int) (remaining duration penaltyBps : Nat) : Int :=
  share (share amount penaltyBps 10000) remaining duration

/-- Both products of the penalty fit in the signed word. -/
def PenaltyFits (amount : Int) (remaining penaltyBps : Nat) : Prop :=
  FitsI128 (amount * penaltyBps) ∧ FitsI128 (share amount penaltyBps 10000 * remaining)

instance {amount : Int} {remaining penaltyBps : Nat} :
    Decidable (PenaltyFits amount remaining penaltyBps) :=
  inferInstanceAs (Decidable (_ ∧ _))

variable {amount : Int} {remaining duration penaltyBps : Nat}

section Exact

theorem charge_nonneg (nonnegative : 0 ≤ amount) : 0 ≤ share amount penaltyBps 10000 :=
  (AdditiveWithin.of_share (Int.natCast_nonneg penaltyBps) (by decide)).nonneg nonnegative

/-- A smaller amount and a shorter remaining time fit as well. -/
theorem PenaltyFits.mono {smaller : Int} {shorter : Nat}
    (fits : PenaltyFits amount remaining penaltyBps) (nonnegative : 0 ≤ smaller)
    (below : smaller ≤ amount) (earlier : shorter ≤ remaining) :
    PenaltyFits smaller shorter penaltyBps := by
  have rate : (0 : Int) ≤ penaltyBps := Int.natCast_nonneg _
  have charges : share smaller penaltyBps 10000 ≤ share amount penaltyBps 10000 :=
    share_mono_part rate (by decide) below
  have charge : 0 ≤ share smaller penaltyBps 10000 := charge_nonneg nonnegative
  constructor
  · exact FitsI128.zero.between fits.1 (mul_nonneg nonnegative rate)
      (mul_le_mul_of_nonneg_right below rate)
  · exact FitsI128.zero.between fits.2 (mul_nonneg charge (Int.natCast_nonneg _))
      (mul_le_mul charges (Int.ofNat_le.mpr earlier) (Int.natCast_nonneg _)
        (charge.trans charges))

/-- The exact penalty of a sum exceeds the penalties of its parts by two at most, one
for each rounding. -/
theorem exactPenalty_additive (positive : 0 < duration) (within : remaining ≤ duration) :
    AdditiveWithin 2 (exactPenalty · remaining duration penaltyBps) := by
  have charging : AdditiveWithin 1 (share · penaltyBps 10000) :=
    .of_share (Int.natCast_nonneg _) (by decide)
  have lasting : AdditiveWithin 1 (share · remaining duration) :=
    .of_share (Int.natCast_nonneg _) (Int.ofNat_lt.mpr positive)
  exact charging.comp lasting
    (share_add_le (Int.ofNat_lt.mpr positive) (Int.ofNat_le.mpr within)) (by decide)

theorem share_le_self {rate whole : Int} (nonnegative : 0 ≤ amount) (positive : 0 < whole)
    (bounded : rate ≤ whole) : share amount rate whole ≤ amount := by
  have grown : share (0 + amount) rate whole ≤ share 0 rate whole + amount :=
    share_add_le positive bounded nonnegative
  simpa using grown

theorem exactPenalty_bounds (nonnegative : 0 ≤ amount) (positive : 0 < duration)
    (within : remaining ≤ duration) (rate : penaltyBps ≤ 10000) :
    0 ≤ exactPenalty amount remaining duration penaltyBps ∧
      exactPenalty amount remaining duration penaltyBps ≤ amount := by
  refine ⟨(exactPenalty_additive positive within).nonneg nonnegative, ?_⟩
  calc exactPenalty amount remaining duration penaltyBps
      ≤ share amount penaltyBps 10000 :=
        share_le_self (charge_nonneg nonnegative) (Int.ofNat_lt.mpr positive)
          (Int.ofNat_le.mpr within)
    _ ≤ amount := share_le_self nonnegative (by decide) (by exact_mod_cast rate)

/-- A larger amount with more time to run bears no smaller penalty. -/
theorem exactPenalty_mono {smaller : Int} {shorter : Nat} (positive : 0 < duration)
    (nonnegative : 0 ≤ smaller) (below : smaller ≤ amount) (earlier : shorter ≤ remaining) :
    exactPenalty smaller shorter duration penaltyBps ≤
      exactPenalty amount remaining duration penaltyBps := by
  have whole : (0 : Int) < duration := Int.ofNat_lt.mpr positive
  calc exactPenalty smaller shorter duration penaltyBps
      ≤ share (share smaller penaltyBps 10000) remaining duration :=
        Int.ediv_le_ediv whole (mul_le_mul_of_nonneg_left (Int.ofNat_le.mpr earlier)
          (charge_nonneg nonnegative))
    _ ≤ exactPenalty amount remaining duration penaltyBps :=
        share_mono_part (Int.natCast_nonneg _) whole
          (share_mono_part (Int.natCast_nonneg _) (by decide) below)

/-- A penalty whose products do not fit is not zero: the products are larger than any
duration. -/
theorem exactPenalty_pos (nonnegative : 0 ≤ amount) (positive : 0 < duration)
    (bounded : duration < 2 ^ 64) (running : 0 < remaining)
    (overflows : ¬PenaltyFits amount remaining penaltyBps) :
    0 < exactPenalty amount remaining duration penaltyBps := by
  have charge : 0 ≤ share amount penaltyBps 10000 := charge_nonneg nonnegative
  have time : (1 : Int) ≤ remaining := by exact_mod_cast running
  have scaled : share amount penaltyBps 10000 ≤ share amount penaltyBps 10000 * remaining :=
    le_mul_of_one_le_right charge time
  have short : (duration : Int) < 2 ^ 64 := by exact_mod_cast bounded
  have large : (duration : Int) ≤ share amount penaltyBps 10000 * remaining := by
    by_contra! small
    have gross : 0 ≤ amount * penaltyBps := mul_nonneg nonnegative (Int.natCast_nonneg _)
    have rest := Int.lt_ediv_add_one_mul_self (amount * penaltyBps) (by decide : (0 : Int) < 10000)
    unfold share at *
    refine overflows ⟨?_, ?_⟩
    · unfold FitsI128
      omega
    · unfold FitsI128 share
      omega
  have whole : (0 : Int) < duration := Int.ofNat_lt.mpr positive
  refine Int.lt_of_lt_of_le Int.one_pos ?_
  exact (Int.le_ediv_iff_mul_le whole).mpr (by linarith)

end Exact

section Computed

/-- The contract computes the exact penalty, or none where a product does not fit. -/
theorem calculatePenalty_eq (nonnegative : 0 ≤ amount) :
    calculatePenalty amount remaining duration penaltyBps =
      if PenaltyFits amount remaining penaltyBps then
        exactPenalty amount remaining duration penaltyBps
      else 0 := by
  have charge : 0 ≤ share amount penaltyBps 10000 := charge_nonneg nonnegative
  have gross : (amount * penaltyBps).tdiv 10000 = share amount penaltyBps 10000 :=
    Int.tdiv_eq_ediv_of_nonneg (mul_nonneg nonnegative (Int.natCast_nonneg _))
  have net : (share amount penaltyBps 10000 * remaining).tdiv duration =
      exactPenalty amount remaining duration penaltyBps :=
    Int.tdiv_eq_ediv_of_nonneg (mul_nonneg charge (Int.natCast_nonneg _))
  unfold calculatePenalty PenaltyFits i128OrZero
  by_cases first : FitsI128 (amount * penaltyBps)
  · by_cases second : FitsI128 (share amount penaltyBps 10000 * remaining)
    · simp only [first, second, if_true, and_self, gross, net]
      split
      · rename_i instantly
        simp [exactPenalty, share, instantly]
      · rfl
    · simp [first, second, gross]
  · simp [first, FitsI128.zero]

/-- The computed penalty of an exit before the end is exact exactly when its products
fit. -/
theorem calculatePenalty_eq_exact_iff (nonnegative : 0 ≤ amount) (positive : 0 < duration)
    (bounded : duration < 2 ^ 64) (running : 0 < remaining) :
    calculatePenalty amount remaining duration penaltyBps =
        exactPenalty amount remaining duration penaltyBps ↔
      PenaltyFits amount remaining penaltyBps := by
  rw [calculatePenalty_eq nonnegative]
  split
  · rename_i fits
    exact iff_of_true rfl fits
  · rename_i overflows
    exact iff_of_false (exactPenalty_pos nonnegative positive bounded running overflows).ne
      overflows

theorem calculatePenalty_bounds (nonnegative : 0 ≤ amount) (positive : 0 < duration)
    (within : remaining ≤ duration) (rate : penaltyBps ≤ 10000) :
    0 ≤ calculatePenalty amount remaining duration penaltyBps ∧
      calculatePenalty amount remaining duration penaltyBps ≤ amount := by
  rw [calculatePenalty_eq nonnegative]
  split
  · exact exactPenalty_bounds nonnegative positive within rate
  · exact ⟨le_rfl, nonnegative⟩

/-- Where the penalty of all the pieces together fits, the pieces bear the exact one. -/
theorem calculatePenalty_pieces {pieces : List Int} (nonneg : ∀ piece ∈ pieces, 0 ≤ piece)
    (fits : PenaltyFits pieces.sum remaining penaltyBps) :
    pieces.map (calculatePenalty · remaining duration penaltyBps) =
      pieces.map (exactPenalty · remaining duration penaltyBps) := by
  refine List.map_congr_left fun piece member => ?_
  have within : piece ≤ pieces.sum := List.single_le_sum nonneg piece member
  rw [calculatePenalty_eq (nonneg piece member),
    if_pos (fits.mono (nonneg piece member) within le_rfl)]

/-- Cut into pieces, an amount bears no more than in one, and less by two units at most
for each cut. -/
theorem calculatePenalty_sum_bounds {pieces : List Int} (positive : 0 < duration)
    (within : remaining ≤ duration) (cut : pieces ≠ [])
    (nonneg : ∀ piece ∈ pieces, 0 ≤ piece)
    (fits : PenaltyFits pieces.sum remaining penaltyBps) :
    (pieces.map (calculatePenalty · remaining duration penaltyBps)).sum ≤
        calculatePenalty pieces.sum remaining duration penaltyBps ∧
      calculatePenalty pieces.sum remaining duration penaltyBps ≤
        (pieces.map (calculatePenalty · remaining duration penaltyBps)).sum +
          2 * (pieces.length - 1) := by
  rw [calculatePenalty_pieces nonneg fits, calculatePenalty_eq (List.sum_nonneg nonneg),
    if_pos fits]
  exact (exactPenalty_additive positive within).sum_bounds cut nonneg

end Computed

end CredenceBond
