import CredenceContracts.Math.MulDiv
import Mathlib.Algebra.Order.Ring.Abs

/-!
# Basis points of an amount

The plain path multiplies within the word and then divides, so it fails where the product
does not fit.  The path over 256-bit words has the same result where both have one.
-/

namespace CredenceMath

open Soroban MachineInt
open IntegerRounding (Direction)

def subI128 (a b : Int) (msg : String) : Outcome Int :=
  checkedI128 (a - b) (.panicked msg)

def mulI128 (a b : Int) (msg : String) : Outcome Int :=
  checkedI128 (a * b) (.panicked msg)

def divI128 (a b : Int) (msg : String) : Outcome Int :=
  checkedDivI128 a b (.panicked msg)

/-- A basis-point percentage of an amount, truncated. -/
def bps (amount : Int) (bps : Nat) (mulMsg divMsg : String) : Outcome Int := do
  let numerator ← mulI128 amount bps mulMsg
  divI128 numerator bpsDenominator divMsg

/-- Split an amount into a fee and what is left of it. -/
def splitBps (amount : Int) (bpsValue : Nat) (mulMsg divMsg subMsg : String) :
    Outcome (Int × Int) := do
  let fee ← bps amount bpsValue mulMsg divMsg
  let net ← subI128 amount fee subMsg
  return (fee, net)

section Truncation

variable {amount fee net : Int} {bpsValue : Nat}

/-- The truncated percentage, by its sign and its absolute value. -/
theorem tdiv_eq_signed (amount : Int) (bpsValue : Nat) :
    (amount * bpsValue).tdiv 10000 =
      amount.sign * ((amount.natAbs * bpsValue / 10000 : Nat) : Int) := by
  obtain ⟨size, rfl | rfl⟩ := amount.eq_nat_or_neg
  · rcases size.eq_zero_or_pos with rfl | positive
    · simp
    · have sign : (size : Int).sign = 1 := Int.sign_eq_one_of_pos (by exact_mod_cast positive)
      rw [sign, one_mul, Int.natAbs_natCast]
      exact_mod_cast Int.ofNat_tdiv (size * bpsValue) 10000
  · rcases size.eq_zero_or_pos with rfl | positive
    · simp
    · have sign : (-(size : Int)).sign = -1 :=
        Int.sign_eq_neg_one_of_neg (by simpa using positive)
      rw [sign, Int.natAbs_neg, Int.natAbs_natCast, neg_mul, Int.neg_tdiv, neg_one_mul]
      exact_mod_cast congrArg (- ·) (Int.ofNat_tdiv (size * bpsValue) 10000)

/-- A rounded percentage, by its sign and its absolute value. -/
theorem round_eq_signed (mode : Rounding) (amount : Int) (bpsValue : Nat) :
    mode.direction.round (exactQuotient amount bpsValue bpsDenominator) =
      amount.sign * (magnitude amount bpsValue bpsDenominator mode : Int) := by
  rw [round_exactQuotient mode (by decide)]
  have sign : negative amount bpsValue bpsDenominator = decide (amount < 0) := by
    have nonneg : ¬(bpsValue : Int) < 0 := Int.not_lt.mpr (Int.natCast_nonneg bpsValue)
    simp [negative, bpsDenominator, nonneg]
  rw [sign]
  rcases lt_trichotomy amount 0 with below | rfl | above
  · simp [below, Int.sign_eq_neg_one_of_neg below]
  · cases mode <;> simp [magnitude, Rounding.direction, Direction.quotient, bpsDenominator]
  · simp [not_lt.mpr above.le, Int.sign_eq_one_of_pos above]

/-- The fee lies between zero and the ten-thousandth part of the product. -/
theorem tdiv_between (fits : FitsI128 (amount * bpsValue)) :
    ∃ part : Nat, part < 2 ^ 114 ∧ (amount * bpsValue).tdiv 10000 = amount.sign * part := by
  refine ⟨_, ?_, tdiv_eq_signed amount bpsValue⟩
  have product := natAbs_le fits
  rw [Int.natAbs_mul, Int.natAbs_natCast] at product
  omega

theorem bps_eq_ok {mulMsg divMsg : String} :
    bps amount bpsValue mulMsg divMsg = .ok fee ↔
      FitsI128 (amount * bpsValue) ∧ fee = (amount * bpsValue).tdiv 10000 := by
  simp only [bps, mulI128, divI128, bpsDenominator, Outcome.bind_eq_ok, checkedI128_eq_ok,
    checkedDivI128_eq_ok]
  constructor
  · rintro ⟨_, ⟨fits, rfl⟩, -, -, same⟩
    exact ⟨fits, same⟩
  · rintro ⟨fits, rfl⟩
    refine ⟨_, ⟨fits, rfl⟩, by decide, ?_, rfl⟩
    obtain ⟨part, small, same⟩ := tdiv_between fits
    rw [same]
    rcases Int.sign_trichotomy amount with sign | sign | sign <;> rw [sign] <;>
      unfold FitsI128 <;> omega

/-- The fee of an amount in range leaves an amount in range. -/
theorem fits_net (amountFits : FitsI128 amount) (fits : FitsI128 (amount * bpsValue)) :
    FitsI128 (amount - (amount * bpsValue).tdiv 10000) := by
  obtain ⟨part, small, same⟩ := tdiv_between fits
  rw [same]
  unfold FitsI128 at amountFits ⊢
  rcases lt_trichotomy amount 0 with below | rfl | above
  · rw [Int.sign_eq_neg_one_of_neg below]
    omega
  · simp
  · rw [Int.sign_eq_one_of_pos above]
    omega

theorem splitBps_eq_ok {mulMsg divMsg subMsg : String} (amountFits : FitsI128 amount) :
    splitBps amount bpsValue mulMsg divMsg subMsg = .ok (fee, net) ↔
      FitsI128 (amount * bpsValue) ∧ fee = (amount * bpsValue).tdiv 10000 ∧
        net = amount - fee := by
  simp only [splitBps, subI128, Outcome.bind_eq_ok, bps_eq_ok, checkedI128_eq_ok,
    Outcome.pure_eq_ok, Prod.mk.injEq]
  constructor
  · rintro ⟨_, ⟨fits, rfl⟩, _, ⟨-, rfl⟩, rfl, rfl⟩
    exact ⟨fits, rfl, rfl⟩
  · rintro ⟨fits, rfl, rfl⟩
    exact ⟨_, ⟨fits, rfl⟩, _, ⟨fits_net amountFits fits, rfl⟩, rfl, rfl⟩

end Truncation

section Agreement

variable {Word : Type} {words : U256 Word} {value : Word → Nat}
variable {amount : Int} {bpsValue : Nat} {msg : String}

theorem fits_bpsValue (narrow : bpsValue < 2 ^ 32) : FitsI128 bpsValue := by
  unfold FitsI128
  omega

/-- No mode takes more than the whole amount of what is at most that. -/
theorem magnitude_le (amount : Int) (atMost : bpsValue ≤ 10000) (mode : Rounding) :
    magnitude amount bpsValue bpsDenominator mode ≤ amount.natAbs := by
  have scaled : amount.natAbs * bpsValue ≤ amount.natAbs * 10000 :=
    Nat.mul_le_mul_left _ atMost
  rw [magnitude, Int.natAbs_natCast, show bpsDenominator.natAbs = 10000 from rfl]
  generalize amount.natAbs * bpsValue = product at scaled
  cases mode with
  | down =>
      simp only [Rounding.direction, Direction.quotient]
      omega
  | up | nearest =>
      simp only [Rounding.direction, Direction.quotient]
      split_ifs <;> omega

/-- Up to the whole amount the signed part fits. -/
theorem fits_signed_part (amountFits : FitsI128 amount) (atMost : bpsValue ≤ 10000)
    (mode : Rounding) :
    FitsI128 (amount.sign * (magnitude amount bpsValue bpsDenominator mode : Int)) := by
  have bounded := magnitude_le amount atMost mode
  unfold FitsI128 at amountFits ⊢
  rcases lt_trichotomy amount 0 with below | rfl | above
  · rw [Int.sign_eq_neg_one_of_neg below]
    omega
  · simp
  · rw [Int.sign_eq_one_of_pos above]
    omega

/-- The wide path has the signed part as its result where that fits. -/
theorem wide_eq_ok (exact : words.Exact value) (amountFits : FitsI128 amount)
    (narrow : bpsValue < 2 ^ 32) (mode : Rounding) {result : Int} :
    mulDivI128 words amount bpsValue bpsDenominator mode msg = .ok result ↔
      FitsI128 (amount.sign * (magnitude amount bpsValue bpsDenominator mode : Int)) ∧
        result = amount.sign * (magnitude amount bpsValue bpsDenominator mode : Int) := by
  rw [mulDivI128_eq exact amountFits (fits_bpsValue narrow) (by decide), round_eq_signed]
  have nonzero : bpsDenominator ≠ 0 := by decide
  simp only [nonzero, ne_eq, not_false_eq_true, true_and]
  split <;> simp_all [eq_comm]

theorem signed_down :
    amount.sign * (magnitude amount bpsValue bpsDenominator .down : Int) =
      (amount * bpsValue).tdiv 10000 := by
  rw [tdiv_eq_signed, magnitude, Int.natAbs_natCast]
  rfl

theorem signed_up :
    amount.sign * (magnitude amount bpsValue bpsDenominator .up : Int) =
      if bpsDenominator ∣ amount * bpsValue then (amount * bpsValue).tdiv 10000
      else (amount * bpsValue).tdiv 10000 + amount.sign := by
  have divides : bpsDenominator ∣ amount * bpsValue ↔
      amount.natAbs * bpsValue % 10000 = 0 := by
    rw [← Int.natAbs_dvd_natAbs, Int.natAbs_mul, Int.natAbs_natCast, ← Nat.dvd_iff_mod_eq_zero]
    rfl
  rw [tdiv_eq_signed, magnitude, Int.natAbs_natCast,
    show bpsDenominator.natAbs = 10000 from rfl]
  simp only [Rounding.direction, Direction.quotient, divides]
  split
  · rfl
  · push_cast
    ring

/-- The plain path has a result where the product fits, and there it is that of the wide
path: the fee and the rest make up the amount, and rounding up gives one unit more away
from zero unless the division is exact.  Up to the whole amount the wide path always has a
result, of which fee and rest are parts. -/
theorem split_bps_agrees (exact : words.Exact value) (amountFits : FitsI128 amount)
    (narrow : bpsValue < 2 ^ 32) (msg mulMsg divMsg subMsg : String) :
    ((∃ fee net, splitBps amount bpsValue mulMsg divMsg subMsg = .ok (fee, net)) ↔
      FitsI128 (amount * bpsValue)) ∧
    (∀ fee net, splitBps amount bpsValue mulMsg divMsg subMsg = .ok (fee, net) →
      fee + net = amount ∧
        mulDivI128 words amount bpsValue bpsDenominator .down msg = .ok fee ∧
        bpsRoundUp words amount bpsValue msg =
          .ok (if bpsDenominator ∣ amount * bpsValue then fee else fee + amount.sign)) ∧
    (bpsValue ≤ 10000 → ∃ part : Nat, part ≤ amount.natAbs ∧
      mulDivI128 words amount bpsValue bpsDenominator .down msg = .ok (amount.sign * part)) := by
  refine ⟨?_, ?_, ?_⟩
  · simp only [splitBps_eq_ok amountFits]
    exact ⟨fun ⟨_, _, fits, _⟩ => fits, fun fits => ⟨_, _, fits, rfl, rfl⟩⟩
  · rintro fee net split
    obtain ⟨fits, rfl, rfl⟩ := (splitBps_eq_ok amountFits).mp split
    obtain ⟨part, small, same⟩ := tdiv_between fits
    have near (extra : Int) (within : extra.natAbs ≤ 1) :
        FitsI128 ((amount * bpsValue).tdiv 10000 + extra) := by
      rw [same]
      unfold FitsI128
      rcases Int.sign_trichotomy amount with sign | sign | sign <;> rw [sign] <;> omega
    refine ⟨by ring, ?_, ?_⟩
    · rw [wide_eq_ok exact amountFits narrow, signed_down]
      exact ⟨by simpa using near 0 (by simp), rfl⟩
    · rw [bpsRoundUp, wide_eq_ok exact amountFits narrow, signed_up]
      refine ⟨?_, rfl⟩
      split
      · simpa using near 0 (by simp)
      · apply near
        rcases Int.sign_trichotomy amount with sign | sign | sign <;> simp [sign]
  · intro atMost
    refine ⟨magnitude amount bpsValue bpsDenominator .down,
      magnitude_le amount atMost .down, (wide_eq_ok exact amountFits narrow .down).mpr ⟨?_, rfl⟩⟩
    exact fits_signed_part amountFits atMost .down

/-- A product that does not fit, of which the wide path still takes a half. -/
theorem split_bps_agrees_sample :
    (¬∃ fee net, splitBps (2 ^ 126) 5000 "mul" "div" "sub" = .ok (fee, net)) ∧
      ∃ part : Nat, mulDivI128 wrappingWords (2 ^ 126) (5000 : Nat) bpsDenominator .down "wide" =
        .ok ((2 ^ 126 : Int).sign * part) := by
  obtain ⟨split, -, wide⟩ := split_bps_agrees wrappingWords_exact
    (show FitsI128 (2 ^ 126) by decide) (show 5000 < 2 ^ 32 by decide) "wide" "mul" "div" "sub"
  obtain ⟨part, -, taken⟩ := wide (by decide)
  refine ⟨fun succeeds => ?_, part, taken⟩
  exact absurd (split.mp succeeds) (by decide)

end Agreement

end CredenceMath
