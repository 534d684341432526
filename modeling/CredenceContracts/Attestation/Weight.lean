import CredenceContracts.Attestation.Contract
import CredenceContracts.Bond.Spec
import CredenceContracts.Library.Proportion

/-!
# The weight of an attestation

A weight is the share of the attester's stake that the configured multiplier names,
rounded down and kept between 1 and the configured maximum.  The code splits the product
at the denominator, saturates and narrows its result; none of this changes the value.
-/

namespace Attestations

open Soroban MachineInt
open CredenceBond (maxWeightMultiplierBps maxAttestationWeight WeightConfig setWeightConfig)
open Proportion (share)

section Formula

/-- The documented formula, in integers without bounds. -/
def documentedWeight (stake : Int) (multiplierBps maxWeight : Nat) : Int :=
  max 1 (min (share (max stake 0) (min multiplierBps maxWeightMultiplierBps) bpsDenominator)
    (min maxWeight maxAttestationWeight))

theorem documentedWeight_of_nonpos {stake : Int} {multiplierBps maxWeight : Nat}
    (nonpos : stake ≤ 0) : documentedWeight stake multiplierBps maxWeight = 1 := by
  simp [documentedWeight, max_eq_right nonpos]

/-- A larger stake never weighs less. -/
theorem documentedWeight_mono {smaller larger : Int} {multiplierBps maxWeight : Nat}
    (below : smaller ≤ larger) :
    documentedWeight smaller multiplierBps maxWeight ≤
      documentedWeight larger multiplierBps maxWeight := by
  have stakes : max smaller 0 ≤ max larger 0 := max_le_max_right 0 below
  have shares :
      share (max smaller 0) (min multiplierBps maxWeightMultiplierBps) bpsDenominator ≤
        share (max larger 0) (min multiplierBps maxWeightMultiplierBps) bpsDenominator :=
    Proportion.share_mono_part (by positivity) (by decide) stakes
  exact max_le_max_left 1 (min_le_min_right _ shares)

end Formula

section Arithmetic

variable {stake : Nat} {multiplier : Nat}

theorem saturatingU128_of_lt {exact : Nat} (fits : exact < 2 ^ 128) :
    saturatingU128 exact = exact := by
  unfold saturatingU128
  omega

/-- Neither product and not their sum saturates. -/
theorem split_product_fits (fits : stake < 2 ^ 127) (bounded : multiplier ≤ 10000) :
    stake / 10000 * multiplier + stake % 10000 * multiplier / 10000 < 2 ^ 128 ∧
      stake % 10000 * multiplier < 2 ^ 128 := by
  have whole : stake / 10000 * multiplier ≤ stake / 10000 * 10000 :=
    Nat.mul_le_mul_left _ bounded
  have rest : stake % 10000 * multiplier ≤ 9999 * 10000 :=
    Nat.mul_le_mul (by omega) bounded
  omega

/-- The split product is the share of the stake, without saturation. -/
theorem split_product_eq (fits : stake < 2 ^ 127)
    (bounded : multiplier ≤ maxWeightMultiplierBps) :
    (saturatingU128 (saturatingU128 (stake / bpsDenominator * multiplier) +
      saturatingU128 (stake % bpsDenominator * multiplier) / bpsDenominator) : Int) =
        share stake multiplier bpsDenominator := by
  obtain ⟨sum, rest⟩ := split_product_fits fits bounded
  have whole : stake / 10000 * multiplier < 2 ^ 128 := by omega
  rw [bpsDenominator, saturatingU128_of_lt whole, saturatingU128_of_lt rest,
    saturatingU128_of_lt sum, ← Proportion.share_split (by decide)]
  push_cast
  rfl

/-- A weight within the cap is not changed by the narrowing. -/
theorem narrowed_weight {weight : Nat} (bounded : weight ≤ maxAttestationWeight) :
    wrappingU32 weight = weight := by
  unfold maxAttestationWeight at bounded
  unfold wrappingU32
  omega

/-- The caps, which are applied twice, and the lower bound clamp the product. -/
theorem clamped_eq {raw maxWeight : Nat} :
    max (wrappingU32 (min (min raw (min (min maxWeight maxAttestationWeight)
      maxAttestationWeight)) maxAttestationWeight)) defaultAttestationWeight =
        max 1 (min raw (min maxWeight maxAttestationWeight)) := by
  rw [narrowed_weight (min_le_right _ _), defaultAttestationWeight]
  omega

end Arithmetic

section Weights

variable {storage : Storage} {attester : Address} {multiplierBps maxWeight : Nat}

/-- What the admin set is stored within its limits. -/
def configured (multiplierBps maxWeight : Nat) : WeightConfig where
  multiplierBps := min multiplierBps maxWeightMultiplierBps
  maxWeight := min maxWeight maxAttestationWeight

/-- The computed weight is the documented one. -/
theorem computeWeight_eq
    (config : storage.bond.weightConfig = configured multiplierBps maxWeight)
    (fits : FitsI128 (storage.attesterStake attester)) :
    (computeWeight storage attester : Int) =
      documentedWeight (storage.attesterStake attester) multiplierBps maxWeight := by
  unfold computeWeight
  rw [config]
  generalize storage.attesterStake attester = stake at fits ⊢
  by_cases nonpos : stake ≤ 0
  · rw [documentedWeight_of_nonpos nonpos]
    simp [nonpos, defaultAttestationWeight]
  · obtain ⟨amount, rfl⟩ := Int.eq_ofNat_of_zero_le (le_of_not_ge nonpos)
    have small : amount < 2 ^ 127 := by
      have := fits.2
      omega
    have multiplier : min (min multiplierBps maxWeightMultiplierBps) maxWeightMultiplierBps =
        min multiplierBps maxWeightMultiplierBps := by
      simp
    simp only [configured, nonpos, if_false, Int.toNat_natCast, multiplier]
    rw [clamped_eq, Nat.cast_max, Nat.cast_min, split_product_eq small (min_le_right _ _),
      documentedWeight, max_eq_left (Int.natCast_nonneg amount)]
    push_cast
    rfl

/-- Under a configuration that was set, the computed weight is the documented one for
every stake, and a larger stake never weighs less. -/
theorem attestation_weight_exact {env : Env} {admin : Address}
    {bond stored : CredenceBond.Storage}
    (done : setWeightConfig env bond admin multiplierBps maxWeight = .ok stored) :
    (∀ (storage : Storage) (attester : Address),
      storage.bond.weightConfig = stored.weightConfig →
        FitsI128 (storage.attesterStake attester) →
          (computeWeight storage attester : Int) =
            documentedWeight (storage.attesterStake attester) multiplierBps maxWeight) ∧
      ∀ (first second : Storage) (attester other : Address),
        first.bond.weightConfig = stored.weightConfig →
          second.bond.weightConfig = stored.weightConfig →
            FitsI128 (first.attesterStake attester) → FitsI128 (second.attesterStake other) →
              first.attesterStake attester ≤ second.attesterStake other →
                computeWeight first attester ≤ computeWeight second other := by
  have config : stored.weightConfig = configured multiplierBps maxWeight := by
    rw [(CredenceBond.setWeightConfig_ok done).2]
    rfl
  rw [config]
  refine ⟨fun storage attester same fits => computeWeight_eq same fits, ?_⟩
  intro first second attester other firstSame secondSame firstFits secondFits below
  rw [← Int.ofNat_le]
  calc (computeWeight first attester : Int)
      = documentedWeight (first.attesterStake attester) multiplierBps maxWeight :=
        computeWeight_eq firstSame firstFits
    _ ≤ documentedWeight (second.attesterStake other) multiplierBps maxWeight :=
        documentedWeight_mono below
    _ = computeWeight second other := (computeWeight_eq secondSame secondFits).symm

/-- A contract in which every attester has the same stake. -/
def staked (bond : CredenceBond.Storage) (stake : Int) : Storage :=
  { Storage.deployed with
    bond := bond
    attesterStake := fun _ => stake }

/-- Both values are set above their limits; the largest stake weighs the maximum, and a
negative one 1. -/
theorem attestation_weight_exact_sample :
    ∃ stored, setWeightConfig (.signedByAll ⟨0⟩ 0) { CredenceBond.Storage.deployed with
          admin := some ⟨1⟩ } ⟨1⟩ 20000 5000000 = .ok stored ∧
      (computeWeight (staked stored (2 ^ 127 - 1)) ⟨2⟩ : Int) =
          documentedWeight (2 ^ 127 - 1) 20000 5000000 ∧
        (computeWeight (staked stored (-5)) ⟨2⟩ : Int) =
            documentedWeight (-5) 20000 5000000 ∧
          computeWeight (staked stored (-5)) ⟨2⟩ ≤
            computeWeight (staked stored (2 ^ 127 - 1)) ⟨3⟩ ∧
          documentedWeight (2 ^ 127 - 1) 20000 5000000 = 1000000 := by
  obtain ⟨stored, done⟩ : ∃ stored, setWeightConfig (.signedByAll ⟨0⟩ 0)
      { CredenceBond.Storage.deployed with admin := some ⟨1⟩ } ⟨1⟩ 20000 5000000 =
        .ok stored :=
    Outcome.exists_of_isOk rfl
  obtain ⟨exact, mono⟩ := attestation_weight_exact done
  have high : FitsI128 (2 ^ 127 - 1) := by decide
  have low : FitsI128 (-5) := by decide
  have below : (-5 : Int) ≤ 2 ^ 127 - 1 := by decide
  exact ⟨stored, done, exact (staked stored (2 ^ 127 - 1)) ⟨2⟩ rfl high,
    exact (staked stored (-5)) ⟨2⟩ rfl low,
    mono (staked stored (-5)) (staked stored (2 ^ 127 - 1)) ⟨2⟩ ⟨3⟩ rfl rfl low high below,
    by decide⟩

end Weights

end Attestations
