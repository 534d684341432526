import CredenceContracts.Bond.Change

/-!
# Reading the bond

Three views read the stored bond: its tier alone, a description for an identity and a
snapshot of its status.  Each derives the tier and the available amount itself, the
snapshot from the bonded amount and the others from what slashing left of it.
-/

namespace CredenceBond

open Soroban MachineInt Transition
open Outcome (unwrapOr)

/-- Read-only snapshot of a single identity's bond state. -/
structure BondStateView where
  identity : Address
  bondedAmount : Int
  slashedAmount : Int
  availableAmount : Int
  bondStart : Nat
  bondDuration : Nat
  active : Bool
  isRolling : Bool
  withdrawalRequestedAt : Nat
  noticePeriodDuration : Nat
  tier : BondTier
  deriving DecidableEq, Repr

/-- The bond that a view describes. -/
def BondStateView.bond (view : BondStateView) : IdentityBond where
  identity := view.identity
  bondedAmount := view.bondedAmount
  bondStart := view.bondStart
  bondDuration := view.bondDuration
  slashedAmount := view.slashedAmount
  active := view.active
  isRolling := view.isRolling
  withdrawalRequestedAt := view.withdrawalRequestedAt
  noticePeriodDuration := view.noticePeriodDuration

/-- Emergency mode configuration. -/
structure EmergencyConfig where
  governance : Address
  treasury : Address
  emergencyFeeBps : Nat
  enabled : Bool
  deriving DecidableEq, Repr

/-- The entries that only the status snapshot reads. -/
structure StatusEntries where
  cooldownPeriod : Option Nat
  emergencyConfig : Option EmergencyConfig
  deriving DecidableEq, Repr

/-- Stable snapshot of bond status for backend consumption. -/
structure BondStatusSnapshot where
  tier : BondTier
  cooldownRemainingSecs : Nat
  emergencyMode : Bool
  availableBalance : Int
  snapshotTimestamp : Nat
  deriving DecidableEq, Repr

section Views

variable (storage : Storage)

def getIdentityState : Outcome IdentityBond :=
  unwrapOr storage.bond (.contract .bondNotFound)

/-- The tier of the available amount. -/
def getTier : Outcome BondTier := do
  let bond ← getIdentityState storage
  return getTierForAmount storage (saturatingI128 bond.stake)

/-- The stored bond, if it belongs to the identity. -/
def describeBond (identity : Address) : Option BondStateView := do
  let bond ← storage.bond
  if bond.identity ≠ identity then
    none
  else
    let availableAmount := saturatingI128 bond.stake
    let tier := getTierForAmount storage availableAmount
    some {
      identity := bond.identity
      bondedAmount := bond.bondedAmount
      slashedAmount := bond.slashedAmount
      availableAmount
      bondStart := bond.bondStart
      bondDuration := bond.bondDuration
      active := bond.active
      isRolling := bond.isRolling
      withdrawalRequestedAt := bond.withdrawalRequestedAt
      noticePeriodDuration := bond.noticePeriodDuration
      tier }

/-- The status of the stored bond.  The tier is that of the bonded amount. -/
def getBondStatusSnapshot (env : Env) (entries : StatusEntries) :
    Outcome BondStatusSnapshot := do
  let bond ← unwrapOr storage.bond (.panicked "no bond")
  let now := env.timestamp
  let cooldownPeriod := entries.cooldownPeriod.getD 0
  let requestedAt := bond.withdrawalRequestedAt
  return {
    tier := getTierForAmount storage bond.bondedAmount
    cooldownRemainingSecs :=
      if requestedAt = 0 ∨ cooldownPeriod = 0 then
        0
      else
        saturatingU64 (requestedAt + cooldownPeriod) - now
    emergencyMode := (entries.emergencyConfig.map EmergencyConfig.enabled).getD false
    availableBalance := i128OrZero bond.stake
    snapshotTimestamp := now }

end Views

section Thresholds

/-- The amounts at which the tier changes: each threshold, or a larger one of a lower
tier. -/
def TierThresholds.cuts (thresholds : TierThresholds) : List Int :=
  [ thresholds.bronzeMax,
    max thresholds.bronzeMax thresholds.silverMax,
    max (max thresholds.bronzeMax thresholds.silverMax) thresholds.goldMax ]

/-- A tier begins above the smaller of two amounts and not above the larger one. -/
def TierBetween (storage : Storage) (first second : Int) : Prop :=
  ∃ cut ∈ (storage.tierThresholds.getD defaultTierThresholds).cuts,
    min first second < cut ∧ cut ≤ max first second

instance (storage : Storage) (first second : Int) :
    Decidable (TierBetween storage first second) :=
  List.decidableBEx _ _

/-- Two amounts are of one tier exactly when no tier begins between them. -/
theorem getTierForAmount_eq_iff {storage : Storage} {first second : Int} :
    getTierForAmount storage first = getTierForAmount storage second ↔
      ¬TierBetween storage first second := by
  unfold getTierForAmount TierBetween
  generalize storage.tierThresholds.getD defaultTierThresholds = thresholds
  simp only [TierThresholds.cuts, List.mem_cons, List.not_mem_nil, or_false, exists_eq_or_imp,
    exists_eq_left]
  split_ifs <;> simp only [true_iff, false_iff, not_not] <;> omega

end Thresholds

section Agreement

variable {storage : Storage} {bond : IdentityBond}

/-- The available amount of a sound bond is its stake, neither saturated nor dropped. -/
theorem IdentityBond.Sound.available (sound : bond.Sound) :
    saturatingI128 bond.stake = bond.stake ∧ i128OrZero bond.stake = bond.stake := by
  obtain ⟨nonnegative, within, bounded⟩ := sound
  unfold saturatingI128 i128OrZero FitsI128 IdentityBond.stake
  omega

theorem getTier_of_bond (sound : bond.Sound) (found : storage.bond = some bond) :
    getTier storage = .ok (getTierForAmount storage bond.stake) := by
  rw [getTier, getIdentityState, found, ← sound.available.1]
  rfl

theorem describeBond_of_bond (found : storage.bond = some bond) :
    ∃ view, describeBond storage bond.identity = some view ∧ view.bond = bond ∧
      view.availableAmount = saturatingI128 bond.stake ∧
        view.tier = getTierForAmount storage (saturatingI128 bond.stake) := by
  simp [describeBond, found, BondStateView.bond]

theorem getBondStatusSnapshot_of_bond (env : Env) (entries : StatusEntries)
    (found : storage.bond = some bond) :
    ∃ snapshot, getBondStatusSnapshot storage env entries = .ok snapshot ∧
      snapshot.tier = getTierForAmount storage bond.bondedAmount ∧
        snapshot.availableBalance = i128OrZero bond.stake := by
  simp [getBondStatusSnapshot, found, unwrapOr, bind, Except.bind, pure, Except.pure]

/-- The three views of the bond of an identity give one tier, and two of them one
available amount. -/
def ViewsAgree (storage : Storage) (env : Env) (entries : StatusEntries)
    (identity : Address) : Prop :=
  ∃ tier view snapshot, getTier storage = .ok tier ∧
    describeBond storage identity = some view ∧
      getBondStatusSnapshot storage env entries = .ok snapshot ∧
        view.tier = tier ∧ snapshot.tier = tier ∧
          view.availableAmount = snapshot.availableBalance

/-- The views of a sound bond agree if and only if no tier begins between its stake and
its bonded amount. -/
theorem viewsAgree_iff (sound : bond.Sound) (found : storage.bond = some bond) (env : Env)
    (entries : StatusEntries) :
    ViewsAgree storage env entries bond.identity ↔
      ¬TierBetween storage bond.stake bond.bondedAmount := by
  have tier := getTier_of_bond sound found
  obtain ⟨view, described, -, available, viewed⟩ := describeBond_of_bond found
  obtain ⟨snapshot, taken, snapped, balance⟩ := getBondStatusSnapshot_of_bond env entries found
  rw [sound.available.1] at available viewed
  rw [sound.available.2] at balance
  rw [← getTierForAmount_eq_iff]
  constructor
  · rintro ⟨read, _, other, same, -, again, -, agrees, -⟩
    obtain rfl := Except.ok.inj (taken.symm.trans again)
    obtain rfl := Except.ok.inj (tier.symm.trans same)
    exact agrees.symm.trans snapped
  · intro same
    exact ⟨_, view, snapshot, tier, described, taken, viewed, snapped.trans same.symm,
      available.trans balance.symm⟩

variable {Ledger : Type} {ext : Externals Ledger} {self : Address}
variable {start final : State Ledger} {trace : List (Event (State Ledger) Label)}

/-- In every state that a run reaches, the three views of the stored bond agree if and only
if no tier begins above its available amount and not above its bonded amount. -/
theorem views_agree_iff (guarded : ext.Guarded self) (unbonded : start.storage.bond = none)
    (run : Run (Step ext self) start trace final) (found : final.storage.bond = some bond)
    (env : Env) (entries : StatusEntries) :
    ViewsAgree final.storage env entries bond.identity ↔
      ¬TierBetween final.storage bond.stake bond.bondedAmount :=
  viewsAgree_iff (Storage.Sound.of_run guarded unbonded run bond found) found env entries

end Agreement

section Sample

/-- A user who can bond enough for the second tier. -/
def silverSample : State ReferenceLedger :=
  { bondSample with
    ledger :=
      { holding := fun _ account => if account = ⟨5⟩ then 2000000000000000000000 else 0
        approved := fun _ _ _ => 2000000000000000000000 } }

/-- The least bond of the second tier, and a slash of one unit. -/
def slashedOnce : List Label :=
  [ { env := .signedBy ⟨5⟩ ⟨0⟩ 0
      act := .call (.createBond ⟨5⟩ 1000000000000000000000 60 false 0) },
    { env := .signedBy ⟨1⟩ ⟨0⟩ 1, act := .call (.slash ⟨1⟩ 1) } ]

def statusSample : StatusEntries where
  cooldownPeriod := some 3600
  emergencyConfig := none

/-- Before the slash the views agree. -/
theorem views_agree_sample :
    ∃ trace final bond, Run (Step Externals.reference ⟨0⟩) silverSample trace final ∧
      final.storage.bond = some bond ∧
        ViewsAgree final.storage (.signedByAll ⟨0⟩ 5) statusSample bond.identity := by
  have run : Run (Step Externals.reference ⟨0⟩) silverSample
      (record (next Externals.reference ⟨0⟩) silverSample (slashedOnce.take 1))
      ((slashedOnce.take 1).foldl (advance (next Externals.reference ⟨0⟩)) silverSample) :=
    run_of_record step_of_next (by decide +kernel)
  exact ⟨_, _, _, run, rfl, (views_agree_iff (guarded_reference ⟨0⟩) rfl run rfl _ _).mpr
    (by decide +kernel)⟩

/-- The bond that lost one unit is in the first tier for two views, and in the second one
for the snapshot. -/
theorem snapshot_tier_differs :
    ∃ trace final bond, Run (Step Externals.reference ⟨0⟩) silverSample trace final ∧
      final.storage.bond = some bond ∧ bond.stake = 999999999999999999999 ∧
        getTier final.storage = .ok .bronze ∧
          (getBondStatusSnapshot final.storage (.signedByAll ⟨0⟩ 5) statusSample).map
              BondStatusSnapshot.tier = .ok .silver ∧
            ¬ViewsAgree final.storage (.signedByAll ⟨0⟩ 5) statusSample bond.identity := by
  have run : Run (Step Externals.reference ⟨0⟩) silverSample
      (record (next Externals.reference ⟨0⟩) silverSample slashedOnce)
      (slashedOnce.foldl (advance (next Externals.reference ⟨0⟩)) silverSample) :=
    run_of_record step_of_next (by decide +kernel)
  have sound := Storage.Sound.of_run (guarded_reference ⟨0⟩) rfl run
  refine ⟨_, _, _, run, rfl, by decide +kernel, by decide +kernel, by decide +kernel, ?_⟩
  rw [viewsAgree_iff (sound _ rfl) rfl, not_not]
  decide +kernel

end Sample

end CredenceBond
