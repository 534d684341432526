import CredenceContracts.Bond.ClaimSpec
import CredenceContracts.Bond.Contract

/-!
# What each bond operation does

One lemma for each operation says what its success took and what state it left;
the legs say what moved on the token ledger.
-/

namespace CredenceBond

open Soroban MachineInt

section Checks

variable {storage : Storage} {result : Unit}

@[simp] theorem validateBondAmount_eq_ok {amount : Int} :
    validateBondAmount amount = .ok result ↔
      minBondAmount ≤ amount ∧ amount ≤ maxBondAmount := by
  simp only [validateBondAmount, Outcome.bind_eq_ok, Outcome.rejectIf_eq_ok, not_lt]
  constructor
  · rintro ⟨-, -, -, low, high⟩
    exact ⟨low, high⟩
  · rintro ⟨low, high⟩
    have positive : 0 ≤ minBondAmount := by decide
    exact ⟨(), positive.trans low, (), low, high⟩

/-- The check after a write passes a bond that is slashed within its amount and whose
owner's attestations are counted right. -/
theorem assertSelfConsistent_iff {bond : IdentityBond} (stored : storage.bond = some bond) :
    assertSelfConsistent storage = .ok () ↔
      (0 ≤ bond.slashedAmount ∧ bond.slashedAmount ≤ bond.bondedAmount) ∧
        ∀ count, storage.subjectAttestationCount bond.identity = some count →
          (storage.subjectAttestations bond.identity).length = count := by
  simp only [assertSelfConsistent, stored, Outcome.bind_eq_ok, Outcome.rejectIf_eq_ok]
  cases counted : storage.subjectAttestationCount bond.identity with
  | none => simp; omega
  | some count => simp; omega

theorem assertSelfConsistent_ok {bond : IdentityBond} (stored : storage.bond = some bond)
    (passed : assertSelfConsistent storage = .ok result) :
    0 ≤ bond.slashedAmount ∧ bond.slashedAmount ≤ bond.bondedAmount :=
  ((assertSelfConsistent_iff stored).mp passed).1

@[simp] theorem acquireLock_eq_ok {locked : Storage} :
    acquireLock storage = .ok locked ↔
      storage.locked = false ∧ locked = { storage with locked := true } := by
  simp [acquireLock]

@[simp] theorem ownedBond_eq_ok {identity : Address} {bond : IdentityBond} :
    ownedBond storage identity = .ok bond ↔
      storage.bond = some bond ∧ bond.identity = identity := by
  simp only [ownedBond, Outcome.bind_eq_ok, Outcome.unwrapOr_eq_ok, Outcome.rejectIf_eq_ok,
    Outcome.pure_eq_ok, ne_eq, not_not]
  constructor
  · rintro ⟨_, stored, -, owner, rfl⟩
    exact ⟨stored, owner⟩
  · rintro ⟨stored, owner⟩
    exact ⟨bond, stored, (), owner, rfl⟩

@[simp] theorem requireStoredAdmin_eq_ok {admin : Address} :
    requireStoredAdmin storage admin = .ok result ↔ storage.admin = some admin := by
  simp [requireStoredAdmin]

/-- The events of a tier change. -/
def tierEvents (env : Env) (identity : Address) (oldTier newTier : BondTier) :
    List BondEvent :=
  if oldTier = newTier then
    []
  else
    [.tierChanged identity newTier, .tierChangedV2 identity oldTier newTier env.timestamp]

theorem emitTierChangeIfNeeded_events (env : Env) (storage : Storage) (identity : Address)
    (oldTier newTier : BondTier) :
    emitTierChangeIfNeeded env storage identity oldTier newTier =
      { storage with events := storage.events ++ tierEvents env identity oldTier newTier } := by
  unfold emitTierChangeIfNeeded tierEvents
  split
  · simp
  · simp [Storage.publish]

/-- Tier events are all that a tier change leaves. -/
theorem emitTierChangeIfNeeded_eq (env : Env) (storage : Storage) (identity : Address)
    (oldTier newTier : BondTier) :
    ∃ events, emitTierChangeIfNeeded env storage identity oldTier newTier =
      { storage with events } :=
  ⟨_, emitTierChangeIfNeeded_events env storage identity oldTier newTier⟩

end Checks

section Legs

variable {Ledger : Type} {token : TokenInterface Ledger} {env : Env} {storage : Storage}
variable {ledger after : Ledger} {asset : Address} {amount : Int}

/-- An accepted payment moved the amount in the bond token, and the contract's own
balance fell by it. -/
theorem transferFromContract_ok {recipient : Address} (exact : token.Exact)
    (configured : storage.bondToken = some asset)
    (sent : transferFromContract token env storage ledger recipient amount = .ok after) :
    token.Moves asset env.currentContractAddress recipient amount ledger after ∧
      token.balance after asset env.currentContractAddress =
        token.balance ledger asset env.currentContractAddress - amount := by
  simp only [transferFromContract, Outcome.bind_eq_ok, Outcome.rejectIf_eq_ok] at sent
  obtain ⟨-, -, sent⟩ := sent
  split at sent
  · rename_i nothing
    obtain rfl : after = ledger := by simpa using sent
    exact ⟨fun account => by simp [nothing], by omega⟩
  · simp only [getToken, configured, Outcome.bind_eq_ok, Outcome.unwrapOr_eq_ok,
      Outcome.rejectIf_eq_ok, checkedI128_eq_ok, Outcome.pure_eq_ok, Option.some.injEq,
      ne_eq, not_not] at sent
    obtain ⟨_, rfl, moved, transferred, _, ⟨-, rfl⟩, -, measured, rfl⟩ := sent
    exact ⟨exact.transfer transferred, by omega⟩

/-- An accepted deposit raised the contract's own balance by the amount, and was
transferred from its owner where there was any. -/
theorem transferIntoContract_ok {owner : Address}
    (configured : storage.bondToken = some asset)
    (received : transferIntoContract token env storage ledger owner amount = .ok after) :
    token.balance after asset env.currentContractAddress =
        token.balance ledger asset env.currentContractAddress + amount ∧
      0 ≤ amount ∧ (0 < amount → token.transferFrom ledger asset env.currentContractAddress
        owner env.currentContractAddress amount = some after) := by
  simp only [transferIntoContract, Outcome.bind_eq_ok, Outcome.rejectIf_eq_ok,
    not_lt] at received
  obtain ⟨-, nonnegative, received⟩ := received
  split at received
  · rename_i nothing
    obtain rfl : after = ledger := by simpa using received
    exact ⟨by omega, nonnegative, fun positive => absurd nothing positive.ne'⟩
  · simp only [getToken, configured, Outcome.bind_eq_ok, Outcome.unwrapOr_eq_ok,
      Outcome.rejectIf_eq_ok, checkedI128_eq_ok, Outcome.pure_eq_ok, Option.some.injEq,
      ne_eq, not_not] at received
    obtain ⟨_, rfl, -, -, -, -, moved, transferred, _, ⟨-, rfl⟩, -, measured, rfl⟩ := received
    exact ⟨by omega, nonnegative, fun _ => transferred⟩

theorem receiveDeposit_transfer {identity : Address}
    (configured : storage.bondToken = some asset)
    (received : receiveDeposit token env storage ledger identity amount = .ok after) :
    token.balance after asset env.currentContractAddress =
        token.balance ledger asset env.currentContractAddress + amount ∧
      0 ≤ amount ∧ (0 < amount → token.transferFrom ledger asset env.currentContractAddress
        identity env.currentContractAddress amount = some after) := by
  simp only [receiveDeposit, configured, Option.isSome_some, if_true] at received
  exact transferIntoContract_ok configured received

/-- A deposit that moves exactly its amount is another account's. -/
theorem receiveDeposit_ok {identity : Address} (exact : token.Exact)
    (configured : storage.bondToken = some asset)
    (received : receiveDeposit token env storage ledger identity amount = .ok after) :
    token.balance after asset env.currentContractAddress =
        token.balance ledger asset env.currentContractAddress + amount ∧
      0 ≤ amount ∧ (0 < amount → identity ≠ env.currentContractAddress) := by
  obtain ⟨raised, nonnegative, transferred⟩ := receiveDeposit_transfer configured received
  refine ⟨raised, nonnegative, fun positive same => ?_⟩
  have moves := exact.transferFrom (transferred positive) env.currentContractAddress
  simp only [same, if_true] at moves
  omega

/-- A payment reads nothing of the storage but the token. -/
theorem transferFromContract_congr {recipient : Address} {other : Storage}
    (same : other.bondToken = storage.bondToken) :
    transferFromContract token env other ledger recipient amount =
      transferFromContract token env storage ledger recipient amount := by
  simp [transferFromContract, getToken, same]

@[simp] theorem transferFromContract_zero {recipient : Address} :
    transferFromContract token env storage ledger recipient 0 = .ok ledger := rfl

theorem whenPositive_eq_ok {α : Type} {unchanged result : α} {step : Outcome α} :
    whenPositive amount unchanged step = .ok result ↔
      0 < amount ∧ step = .ok result ∨ amount ≤ 0 ∧ result = unchanged := by
  unfold whenPositive
  split
  · rename_i positive
    simp [positive]
  · rename_i nonpositive
    simp only [Outcome.pure_eq_ok, nonpositive, false_and, false_or]
    exact ⟨fun same => ⟨not_lt.mp nonpositive, same⟩, And.right⟩

/-- A payment of a nonnegative amount that is skipped at zero is that payment. -/
theorem whenPositive_transfer_ok {recipient : Address} (nonnegative : 0 ≤ amount)
    (sent : whenPositive amount ledger
      (transferFromContract token env storage ledger recipient amount) = .ok after) :
    transferFromContract token env storage ledger recipient amount = .ok after := by
  rcases whenPositive_eq_ok.mp sent with ⟨-, paid⟩ | ⟨nonpositive, rfl⟩
  · exact paid
  · obtain rfl : amount = 0 := le_antisymm nonpositive nonnegative
    exact transferFromContract_zero

theorem whenPositive_source_ok {state charged : State Ledger} {recipient : Address}
    {source : FundSource} (nonnegative : 0 ≤ amount)
    (sent : whenPositive amount state
      (transferFromContractWithSource token env state recipient amount source) = .ok charged) :
    transferFromContract token env state.storage state.ledger recipient amount =
        .ok charged.ledger ∧
      ∃ events, charged.storage = { state.storage with events } := by
  rcases whenPositive_eq_ok.mp sent with ⟨positive, paid⟩ | ⟨nonpositive, rfl⟩
  · simp only [transferFromContractWithSource, Outcome.bind_eq_ok, Outcome.pure_eq_ok,
      positive, if_true] at paid
    obtain ⟨ledger, moved, rfl⟩ := paid
    exact ⟨moved, _, rfl⟩
  · obtain rfl : amount = 0 := le_antisymm nonpositive nonnegative
    exact ⟨transferFromContract_zero, charged.storage.events, rfl⟩

end Legs

section Configuration

variable {Ledger : Type} {ext : Externals Ledger} {env : Env} {storage stored : Storage}
variable {admin : Address}

/-- The stored admin authorised the call. -/
def AdminAuthorized (env : Env) (storage : Storage) : Prop :=
  ∃ admin, storage.admin = some admin ∧ env.authorized admin = true

/-- Who signs alone and is not the admin does not speak for the admin. -/
theorem AdminAuthorized.not_signedBy {signer self : Address} {timestamp : Nat}
    (stored : storage.admin = some admin) (stranger : admin ≠ signer) :
    ¬AdminAuthorized (.signedBy signer self timestamp) storage := by
  rintro ⟨other, found, signed⟩
  obtain rfl := Option.some.inj (stored.symm.trans found)
  exact stranger (by simpa [Env.signedBy] using signed)

@[simp] theorem initializeBond_eq_ok :
    initializeBond env storage admin = .ok stored ↔
      env.authorized admin = true ∧ stored = { storage with admin := some admin } := by
  simp [initializeBond]

theorem setToken_ok {asset : Address} (done : setToken env storage admin asset = .ok stored) :
    AdminAuthorized env storage ∧ stored = { storage with bondToken := some asset } := by
  simp only [setToken, Outcome.bind_eq_ok, Outcome.unwrapOr_eq_ok, requireAuth_eq_ok,
    Outcome.rejectIf_eq_ok, Outcome.pure_eq_ok, ne_eq, not_not] at done
  obtain ⟨_, stored, _, authorized, _, rfl, _, -, rfl⟩ := done
  exact ⟨⟨admin, stored, authorized⟩, rfl⟩

theorem transferAdmin_ok {newAdmin : Address}
    (done : transferAdmin ext env storage admin newAdmin = .ok stored) :
    AdminAuthorized env storage ∧
      stored = ({ storage with admin := some newAdmin }).publish
        (.adminTransferred admin newAdmin) := by
  simp only [transferAdmin, Outcome.bind_eq_ok, requireAuth_eq_ok, requireStoredAdmin_eq_ok,
    Outcome.pure_eq_ok] at done
  obtain ⟨_, authorized, _, -, _, stored, _, -, _, -, rfl⟩ := done
  exact ⟨⟨admin, stored, authorized⟩, rfl⟩

theorem setEarlyExitConfig_ok {treasury : Address} {penaltyBps : Nat}
    (done : setEarlyExitConfig env storage admin treasury penaltyBps = .ok stored) :
    AdminAuthorized env storage ∧
      stored = ({ storage with
        earlyExitConfig := some { treasury, penaltyBps } }).publish
          (.earlyExitConfigSet treasury penaltyBps) := by
  simp only [setEarlyExitConfig, Outcome.bind_eq_ok, requireAuth_eq_ok,
    requireStoredAdmin_eq_ok, Outcome.pure_eq_ok] at done
  obtain ⟨_, authorized, _, stored, _, -, rfl⟩ := done
  exact ⟨⟨admin, stored, authorized⟩, rfl⟩

theorem setLiquidationTreasury_ok {treasury : Address}
    (done : setLiquidationTreasury env storage admin treasury = .ok stored) :
    AdminAuthorized env storage ∧
      stored = ({ storage with liquidationTreasury := some treasury }).publish
        (.liquidationTreasurySet treasury) := by
  simp only [setLiquidationTreasury, Outcome.bind_eq_ok, requireAuth_eq_ok,
    requireStoredAdmin_eq_ok, Outcome.pure_eq_ok] at done
  obtain ⟨_, authorized, _, stored, rfl⟩ := done
  exact ⟨⟨admin, stored, authorized⟩, rfl⟩

theorem setSlashTreasury_ok {treasury : Address}
    (done : setSlashTreasury env storage admin treasury = .ok stored) :
    AdminAuthorized env storage ∧
      stored = ({ storage with slashTreasury := some treasury }).publish
        (.slashTreasurySet treasury) := by
  simp only [setSlashTreasury, Outcome.bind_eq_ok, requireAuth_eq_ok,
    requireStoredAdmin_eq_ok, Outcome.pure_eq_ok] at done
  obtain ⟨_, authorized, _, stored, rfl⟩ := done
  exact ⟨⟨admin, stored, authorized⟩, rfl⟩

theorem setWeightConfig_ok {multiplierBps maxWeight : Nat}
    (done : setWeightConfig env storage admin multiplierBps maxWeight = .ok stored) :
    AdminAuthorized env storage ∧ stored = { storage with
      weightConfig := {
        multiplierBps := min multiplierBps maxWeightMultiplierBps
        maxWeight := min maxWeight maxAttestationWeight } } := by
  simp only [setWeightConfig, Outcome.bind_eq_ok, Outcome.unwrapOr_eq_ok, requireAuth_eq_ok,
    Outcome.rejectIf_eq_ok, Outcome.pure_eq_ok, ne_eq, not_not] at done
  obtain ⟨_, stored, _, authorized, _, rfl, rfl⟩ := done
  exact ⟨⟨admin, stored, authorized⟩, rfl⟩

end Configuration

section Deposits

variable {Ledger : Type} {ext : Externals Ledger} {env : Env} {state after : State Ledger}
variable {identity : Address} {amount : Int}

theorem createBond_ok {duration noticePeriodDuration : Nat} {isRolling : Bool}
    (done : createBond ext env state identity amount duration isRolling noticePeriodDuration =
      .ok after) :
    env.authorized identity = true ∧ minBondAmount ≤ amount ∧ amount ≤ maxBondAmount ∧
      receiveDeposit ext.token env state.storage state.ledger identity amount =
        .ok after.ledger ∧
      after.storage = { state.storage with
        bond := some
          { identity
            bondedAmount := amount
            bondStart := env.timestamp
            bondDuration := duration
            slashedAmount := 0
            active := true
            isRolling
            withdrawalRequestedAt := 0
            noticePeriodDuration }
        events := after.storage.events } := by
  simp only [createBond, Outcome.bind_eq_ok, requireAuth_eq_ok, validateBondAmount_eq_ok,
    Outcome.pure_eq_ok] at done
  obtain ⟨_, authorized, _, received, _, -, _, ⟨low, high⟩, _, -, _, -, rfl⟩ := done
  obtain ⟨events, emitted⟩ := emitTierChangeIfNeeded_eq env _ identity .bronze
    (getTierForAmount state.storage amount)
  rw [emitted]
  exact ⟨authorized, low, high, received, rfl⟩

/-- The end of a created bond is a timestamp. -/
theorem createBond_end {duration noticePeriodDuration : Nat} {isRolling : Bool}
    (done : createBond ext env state identity amount duration isRolling noticePeriodDuration =
      .ok after) :
    env.timestamp + duration < 2 ^ 64 := by
  simp only [createBond, Outcome.bind_eq_ok, checkedU64_eq_ok] at done
  obtain ⟨_, -, _, -, _, ⟨fits, -⟩, -⟩ := done
  exact fits

theorem topUp_ok (done : topUp ext env state identity amount = .ok after) :
    ∃ bond, state.storage.bond = some bond ∧ bond.identity = identity ∧
      env.authorized identity = true ∧
      bond.slashedAmount ≤ bond.bondedAmount + amount ∧
      bond.bondedAmount + amount ≤ maxBondAmount ∧
      receiveDeposit ext.token env state.storage state.ledger identity amount =
        .ok after.ledger ∧
      after.storage = { state.storage with
        bond := some { bond with bondedAmount := bond.bondedAmount + amount }
        events := after.storage.events } := by
  simp only [topUp, Outcome.bind_eq_ok, requireAuth_eq_ok, ownedBond_eq_ok,
    validateBondAmount_eq_ok, checkedI128_eq_ok, Outcome.pure_eq_ok] at done
  obtain ⟨_, authorized, bond, ⟨stored, rfl⟩, _, received, _, ⟨-, rfl⟩, _, ⟨-, high⟩, _, -, _,
    consistent, rfl⟩ := done
  obtain ⟨events, emitted⟩ := emitTierChangeIfNeeded_eq env { state.storage with
    bond := some { bond with bondedAmount := bond.bondedAmount + amount } } bond.identity
    (getTierForAmount state.storage (saturatingI128 bond.stake))
    (getTierForAmount state.storage (saturatingI128
      { bond with bondedAmount := bond.bondedAmount + amount }.stake))
  rw [emitted] at consistent ⊢
  have within := (assertSelfConsistent_ok rfl consistent).2
  exact ⟨bond, stored, rfl, authorized, within, high, received, rfl⟩

end Deposits

section Exits

variable {Ledger : Type} {ext : Externals Ledger} {env : Env} {state after : State Ledger}
variable {identity : Address} {amount : Int}

/-- The lock-up of a bond is over. -/
def IdentityBond.Matured (bond : IdentityBond) (now : Nat) : Prop :=
  bond.bondStart + bond.bondDuration ≤ now

/-- A withdrawal was requested and its notice period is over. -/
def IdentityBond.Noticed (bond : IdentityBond) (now : Nat) : Prop :=
  bond.withdrawalRequestedAt ≠ 0 ∧
    bond.withdrawalRequestedAt + bond.noticePeriodDuration ≤ now

theorem requireNotice_eq_ok {bond : IdentityBond} {otherwise : Outcome Unit} {result : Unit} :
    requireNotice env bond otherwise = .ok result ↔
      if bond.isRolling = true then
        bond.withdrawalRequestedAt + bond.noticePeriodDuration < 2 ^ 64 ∧
          bond.Noticed env.timestamp
      else otherwise = .ok result := by
  unfold requireNotice
  split
  · simp only [Outcome.bind_eq_ok, Outcome.rejectIf_eq_ok, checkedU64_eq_ok, not_lt,
      IdentityBond.Noticed, exists_const]
    constructor
    · rintro ⟨requested, _, ⟨fits, rfl⟩, elapsed⟩
      exact ⟨fits, requested, elapsed⟩
    · rintro ⟨fits, requested, elapsed⟩
      exact ⟨requested, _, ⟨fits, rfl⟩, elapsed⟩
  · exact Iff.rfl

theorem requireNotice_ok {bond : IdentityBond} {otherwise : Outcome Unit} {result : Unit}
    (admitted : requireNotice env bond otherwise = .ok result) (rolling : bond.isRolling = true) :
    bond.Noticed env.timestamp := by
  rw [requireNotice_eq_ok, if_pos rolling] at admitted
  exact admitted.2

theorem withdraw_ok (done : withdraw env state identity amount = .ok after) :
    ∃ bond, state.storage.bond = some bond ∧ bond.identity = identity ∧
      env.authorized identity = true ∧ bond.Matured env.timestamp ∧
      (bond.isRolling = true → bond.Noticed env.timestamp) ∧ amount ≤ bond.stake ∧
      FitsI128 (bond.bondedAmount - amount) ∧ after.ledger = state.ledger ∧
      after.storage = { state.storage with
        bond := some { bond with bondedAmount := bond.bondedAmount - amount }
        events := after.storage.events } := by
  simp only [withdraw, Outcome.bind_eq_ok, requireAuth_eq_ok, ownedBond_eq_ok,
    Outcome.rejectIf_eq_ok, checkedI128_eq_ok, checkedU64_eq_ok, Outcome.pure_eq_ok,
    not_lt] at done
  obtain ⟨_, authorized, bond, ⟨stored, owner⟩, _, ⟨-, rfl⟩, _, matured, _, noticed, _, ⟨-, rfl⟩,
    _, within, _, ⟨fits, rfl⟩, _, -, _, -, rfl⟩ := done
  obtain ⟨events, emitted⟩ := emitTierChangeIfNeeded_eq env state.storage bond.identity
    (getTierForAmount state.storage bond.bondedAmount)
    (getTierForAmount state.storage (saturatingI128
      { bond with bondedAmount := bond.bondedAmount - amount }.stake))
  rw [emitted]
  exact ⟨bond, stored, owner, authorized, matured, requireNotice_ok noticed, within, fits, rfl,
    rfl⟩

/-- The penalty for leaving a bond with an amount now. -/
def earlyExitPenalty (env : Env) (bond : IdentityBond) (config : EarlyExitConfig)
    (amount : Int) : Int :=
  calculatePenalty amount (saturatingU64 (bond.bondStart + bond.bondDuration) - env.timestamp)
    bond.bondDuration config.penaltyBps

theorem withdrawEarly_ok (done : withdrawEarly ext env state identity amount = .ok after) :
    ∃ bond config middle, state.storage.bond = some bond ∧ bond.identity = identity ∧
      state.storage.earlyExitConfig = some config ∧ amount ≤ bond.stake ∧
      0 ≤ earlyExitPenalty env bond config amount ∧
      earlyExitPenalty env bond config amount ≤ amount ∧
      transferFromContract ext.token env state.storage state.ledger config.treasury
        (earlyExitPenalty env bond config amount) = .ok middle ∧
      transferFromContract ext.token env state.storage middle identity
        (amount - earlyExitPenalty env bond config amount) = .ok after.ledger ∧
      after.storage = { state.storage with
        locked := false
        bond := some { bond with bondedAmount := bond.bondedAmount - amount }
        events := after.storage.events } := by
  simp only [withdrawEarly, Outcome.bind_eq_ok, acquireLock_eq_ok, ownedBond_eq_ok,
    Outcome.rejectIf_eq_ok, Outcome.unwrapOr_eq_ok, checkedI128_eq_ok, Outcome.pure_eq_ok,
    not_lt] at done
  obtain ⟨_, ⟨-, rfl⟩, bond, ⟨stored, rfl⟩, _, ⟨-, rfl⟩, _, within, _, -, config, configured,
    _, ⟨-, rfl⟩, _, ⟨-, rfl⟩, _, split, _, ⟨-, rfl⟩, _, -, charged, first, ledger, second,
    _, -, rfl⟩ := done
  have bounds : 0 ≤ earlyExitPenalty env bond config amount ∧
      earlyExitPenalty env bond config amount ≤ amount := by
    unfold earlyExitPenalty
    omega
  obtain ⟨events, emitted⟩ := emitTierChangeIfNeeded_eq env
    ({ state.storage with locked := true }.publish
      (.earlyExitPenalty bond.identity amount (earlyExitPenalty env bond config amount)
        config.treasury)) bond.identity
    (getTierForAmount state.storage bond.bondedAmount)
    (getTierForAmount state.storage (bond.bondedAmount - amount))
  obtain ⟨paidPenalty, later, charges⟩ := whenPositive_source_ok bounds.1 first
  have paidRest := whenPositive_transfer_ok (sub_nonneg.mpr bounds.2) second
  have frame : charged.storage = { state.storage with
      locked := true
      bond := some { bond with bondedAmount := bond.bondedAmount - amount }
      events := later } := by
    rw [charges]
    exact congrArg (fun storage : Storage => { storage with
      bond := some { bond with bondedAmount := bond.bondedAmount - amount }
      events := later }) emitted
  refine ⟨bond, config, charged.ledger, stored, rfl, configured, within, bounds.1, bounds.2,
    ?_, ?_, ?_⟩
  · rw [← paidPenalty]
    exact (transferFromContract_congr (congrArg Storage.bondToken emitted)).symm
  · rw [← paidRest]
    exact (transferFromContract_congr (by rw [frame])).symm
  · rw [frame]
    rfl

theorem withdrawBond_ok {withdrawn : Int}
    (done : withdrawBond ext env state identity = .ok (after, withdrawn)) :
    ∃ bond notified, state.storage.bond = some bond ∧ bond.identity = identity ∧
      env.authorized identity = true ∧
      (bond.isRolling = true → bond.Noticed env.timestamp) ∧ bond.slashedAmount = 0 ∧
      withdrawn = wrappingI128 bond.stake ∧
      notify ext (state.store { state.storage with
        locked := true
        bond := some { bond with bondedAmount := 0, active := false } })
        "on_withdraw" withdrawn = .ok notified ∧
      after = notified.store (releaseLock notified.storage) := by
  simp only [withdrawBond, Outcome.bind_eq_ok, requireAuth_eq_ok, acquireLock_eq_ok,
    ownedBond_eq_ok, Outcome.rejectIf_eq_ok, Outcome.pure_eq_ok, Prod.mk.injEq] at done
  obtain ⟨_, authorized, _, ⟨-, rfl⟩, bond, ⟨stored, owner⟩, _, -, _, noticed, _, consistent,
    notified, told, rfl, rfl⟩ := done
  obtain ⟨low, high⟩ := assertSelfConsistent_ok rfl consistent
  have unslashed : bond.slashedAmount = 0 := le_antisymm high low
  exact ⟨bond, notified, stored, owner, authorized, requireNotice_ok noticed, unslashed, rfl,
    told, rfl⟩

end Exits

section Terms

variable {env : Env} {storage stored : Storage} {identity admin : Address}

theorem requestWithdrawal_ok (done : requestWithdrawal env storage identity = .ok stored) :
    ∃ bond, storage.bond = some bond ∧ bond.identity = identity ∧
      env.authorized identity = true ∧ bond.isRolling = true ∧
      stored = { storage with
        bond := some { bond with withdrawalRequestedAt := env.timestamp }
        events := stored.events } := by
  simp only [requestWithdrawal, Outcome.bind_eq_ok, requireAuth_eq_ok, ownedBond_eq_ok,
    Outcome.rejectIf_eq_ok, Outcome.pure_eq_ok] at done
  obtain ⟨_, authorized, bond, ⟨found, owner⟩, _, rolling, _, -, _, -, rfl⟩ := done
  exact ⟨bond, found, owner, authorized, by simpa using rolling, rfl⟩

/-- A renewal moves the start of a bond without a request, or does nothing. -/
theorem renewIfRolling_ok (done : renewIfRolling env storage identity = .ok stored) :
    stored = storage ∨ ∃ bond, storage.bond = some bond ∧ bond.identity = identity ∧
      env.authorized identity = true ∧
      stored = { storage with
        bond := some { bond with bondStart := env.timestamp, withdrawalRequestedAt := 0 }
        events := stored.events } := by
  simp only [renewIfRolling, Outcome.bind_eq_ok, requireAuth_eq_ok, ownedBond_eq_ok] at done
  obtain ⟨_, authorized, bond, ⟨found, owner⟩, done⟩ := done
  split at done
  · exact .inl (by simpa using done)
  · obtain ⟨_, -, done⟩ := Outcome.bind_eq_ok.mp done
    split at done
    · exact .inl (by simpa using done)
    · simp only [Outcome.bind_eq_ok, Outcome.pure_eq_ok] at done
      obtain ⟨_, -, rfl⟩ := done
      exact .inr ⟨bond, found, owner, authorized, rfl⟩

theorem extendDuration_ok {additionalDuration : Nat}
    (done : extendDuration env storage identity additionalDuration = .ok stored) :
    ∃ bond, storage.bond = some bond ∧ bond.identity = identity ∧
      env.authorized identity = true ∧
      stored = { storage with
        bond := some { bond with bondDuration := bond.bondDuration + additionalDuration } } := by
  simp only [extendDuration, Outcome.bind_eq_ok, requireAuth_eq_ok, ownedBond_eq_ok,
    checkedU64_eq_ok, Outcome.pure_eq_ok] at done
  obtain ⟨_, authorized, bond, ⟨found, owner⟩, _, ⟨-, rfl⟩, _, -, _, -, rfl⟩ := done
  exact ⟨bond, found, owner, authorized, rfl⟩

/-- The end of an extended bond is a timestamp. -/
theorem extendDuration_end {bond : IdentityBond} {additionalDuration : Nat}
    (found : storage.bond = some bond)
    (done : extendDuration env storage identity additionalDuration = .ok stored) :
    bond.bondStart + (bond.bondDuration + additionalDuration) < 2 ^ 64 := by
  simp only [extendDuration, Outcome.bind_eq_ok, ownedBond_eq_ok, checkedU64_eq_ok] at done
  obtain ⟨_, -, other, ⟨stored, -⟩, _, ⟨-, rfl⟩, _, ⟨fits, -⟩, -⟩ := done
  obtain rfl := Option.some.inj (found.symm.trans stored)
  exact fits

theorem liquidate_ok (done : liquidate env storage admin = .ok stored) :
    AdminAuthorized env storage ∧ ∃ bond, storage.bond = some bond ∧
      stored = { storage with
        locked := false
        bond := some { bond with active := false }
        liquidated := Function.update storage.liquidated bond.identity true
        events := stored.events } := by
  simp only [liquidate, Outcome.bind_eq_ok, requireAuth_eq_ok, acquireLock_eq_ok,
    Outcome.unwrapOr_eq_ok, requireStoredAdmin_eq_ok, Outcome.pure_eq_ok] at done
  obtain ⟨_, authorized, _, ⟨-, rfl⟩, bond, found, _, stored, _, -, _, -, _, -, rfl⟩ := done
  exact ⟨⟨admin, stored, authorized⟩, bond, found, rfl⟩

/-- Expiring claims leaves everything but the claims alone. -/
theorem expireClaimsBounded_frame {user : Address} {maxIter count : Nat}
    (done : expireClaimsBounded env storage user maxIter = .ok (stored, count)) :
    ∃ claims events, stored = { storage with claims, events } := by
  simp only [expireClaimsBounded] at done
  split at done
  · obtain ⟨rfl, -⟩ := Prod.mk.inj (Except.ok.inj done)
    exact ⟨_, _, rfl⟩
  · rcases pruneClaims_ok done with ⟨-, rfl⟩ | rfl
    · exact ⟨_, _, rfl⟩
    · exact ⟨_, _, rfl⟩

end Terms

section Slashing

variable {Ledger : Type} {ext : Externals Ledger} {env : Env} {state after : State Ledger}
variable {admin : Address} {amount : Int}

/-- What a slash takes from a bond: the amount, within the stake. -/
def slashedPart (bond : IdentityBond) (amount : Int) : Int :=
  min bond.stake amount

/-- The rest of the stake that a slash wipes out beside its amount. -/
def slashedDust (bond : IdentityBond) (amount : Int) : Int :=
  if bond.stake - slashedPart bond amount ≤ dustThreshold then
    bond.stake - slashedPart bond amount
  else 0

/-- The claim that a slash adds. -/
def slashReward (bond : IdentityBond) (amount : Int) : Int :=
  (slashedPart bond amount).tdiv 10

theorem slashedPart_eq (bond : IdentityBond) (amount : Int) :
    (if bond.stake < amount then bond.stake else amount) = slashedPart bond amount := by
  unfold slashedPart
  split <;> omega

/-- What a slash leaves of a stake is compared with the dust as it is. -/
theorem slashedRest_eq {bond : IdentityBond} (fits : FitsI128 bond.stake)
    (nonnegative : 0 ≤ amount) :
    wrappingI128 (bond.bondedAmount - (bond.slashedAmount + slashedPart bond amount)) =
      bond.stake - slashedPart bond amount := by
  have bounds : slashedPart bond amount ≤ bond.stake ∧
      bond.stake - slashedPart bond amount ≤ max bond.stake 0 := by
    unfold slashedPart
    omega
  have same : bond.bondedAmount - (bond.slashedAmount + slashedPart bond amount) =
      bond.stake - slashedPart bond amount := by
    unfold IdentityBond.stake
    omega
  have high : FitsI128 (max bond.stake 0) := by
    unfold FitsI128 at fits ⊢
    omega
  rw [same, wrappingI128_of_fits (FitsI128.zero.between high (by omega) bounds.2)]

theorem slashedTotal_eq (bond : IdentityBond) (amount : Int) :
    (if bond.stake - slashedPart bond amount ≤ dustThreshold then bond.bondedAmount
      else bond.slashedAmount + slashedPart bond amount) =
        bond.slashedAmount + slashedPart bond amount + slashedDust bond amount := by
  unfold slashedDust IdentityBond.stake
  split <;> omega

theorem addSlashReward_ok {storage rewarded : Storage}
    (done : addSlashReward env storage admin amount = .ok rewarded) :
    (∃ slashCounter events claims, rewarded =
        { storage with slashCounter, claims, events }) ∧
      (0 < amount.tdiv 10 ∧ (∃ claim, claim.amount = amount.tdiv 10 ∧
          claim.claimId = storage.claims.claimCounter + 1 ∧ claim.processed = false ∧
            rewarded.claims = storage.claims.withClaim admin claim) ∨
        amount.tdiv 10 ≤ 0 ∧ rewarded.claims = storage.claims) := by
  simp only [addSlashReward] at done
  rcases whenPositive_eq_ok.mp done with ⟨positive, added⟩ | ⟨none, rfl⟩
  · obtain ⟨⟨_, claimId⟩, added, rfl⟩ := Outcome.map_eq_ok.mp added
    obtain ⟨-, -, -, -, rfl⟩ := addPendingClaim_eq_ok.mp added
    exact ⟨⟨_, _, _, rfl⟩, .inl ⟨positive, _, rfl, rfl, rfl, rfl⟩⟩
  · exact ⟨⟨_, _, _, rfl⟩, .inr ⟨none, rfl⟩⟩

/-- Nothing slashed, nothing rewarded. -/
theorem tenth_nonpos {part : Int} (none : part ≤ 0) : part.tdiv 10 ≤ 0 := by
  have negated := Int.tdiv_nonneg (neg_nonneg.mpr none) (by decide : (0 : Int) ≤ 10)
  rw [Int.neg_tdiv] at negated
  exact neg_nonneg.mp negated

theorem rewarding_ok {storage rewarded : Storage} {part : Int}
    (done : whenPositive part storage (addSlashReward env storage admin part) = .ok rewarded) :
    (∃ slashCounter events claims, rewarded =
        { storage with slashCounter, claims, events }) ∧
      (0 < part.tdiv 10 ∧ (∃ claim, claim.amount = part.tdiv 10 ∧
          claim.claimId = storage.claims.claimCounter + 1 ∧ claim.processed = false ∧
            rewarded.claims = storage.claims.withClaim admin claim) ∨
        part.tdiv 10 ≤ 0 ∧ rewarded.claims = storage.claims) := by
  rcases whenPositive_eq_ok.mp done with ⟨-, added⟩ | ⟨none, rfl⟩
  · exact addSlashReward_ok added
  · exact ⟨⟨_, _, _, rfl⟩, .inr ⟨tenth_nonpos none, rfl⟩⟩

/-- A reward publishes that its claim was added, and nothing else. -/
theorem rewarding_events {storage rewarded : Storage} {part : Int}
    (done : whenPositive part storage (addSlashReward env storage admin part) = .ok rewarded) :
    rewarded.events = storage.events ∨ ∃ claimType reward sourceId,
      rewarded.events = (storage.publish (.claimAdded admin claimType reward sourceId)).events := by
  rcases whenPositive_eq_ok.mp done with ⟨-, rewards⟩ | ⟨-, rfl⟩
  · simp only [addSlashReward] at rewards
    rcases whenPositive_eq_ok.mp rewards with ⟨-, added⟩ | ⟨-, rfl⟩
    · obtain ⟨⟨_, _⟩, added, rfl⟩ := Outcome.map_eq_ok.mp added
      obtain ⟨-, -, -, -, rfl⟩ := addPendingClaim_eq_ok.mp added
      exact .inr ⟨_, _, _, rfl⟩
    · exact .inl rfl
  · exact .inl rfl

/-- The bond after a slash. -/
def IdentityBond.slashedBy (bond : IdentityBond) (amount : Int) : IdentityBond :=
  { bond with
    slashedAmount := bond.slashedAmount + slashedPart bond amount + slashedDust bond amount }

/-- The storage after a slash is recorded, before its reward and its effect. -/
def slashLogged (env : Env) (storage : Storage) (bond : IdentityBond) (amount : Int) :
    Storage :=
  appendSlashHistory env
    (emitTierChangeIfNeeded env storage bond.identity
      (getTierForAmount storage (saturatingI128 bond.stake))
      (getTierForAmount storage (saturatingI128 (bond.slashedBy amount).stake)))
    bond.identity (slashedPart bond amount) "admin_slash" (bond.slashedBy amount).slashedAmount

theorem slashLogged_eq (env : Env) (storage : Storage) (bond : IdentityBond) (amount : Int) :
    ∃ slashRecord slashCount events, slashLogged env storage bond amount =
      { storage with slashRecord, slashCount, events } := by
  obtain ⟨events, emitted⟩ := emitTierChangeIfNeeded_eq env storage bond.identity
    (getTierForAmount storage (saturatingI128 bond.stake))
    (getTierForAmount storage (saturatingI128 (bond.slashedBy amount).stake))
  rw [slashLogged, emitted]
  exact ⟨_, _, _, rfl⟩

theorem slash_eq_ok :
    slash ext env state admin amount = .ok after ↔
      0 ≤ amount ∧ state.storage.admin = some admin ∧
        state.storage.lastCollateralIncreaseLedger ≠ some env.sequence ∧
          ∃ bond, state.storage.bond = some bond ∧ FitsI128 bond.stake ∧
            FitsI128 (bond.slashedAmount + slashedPart bond amount) ∧
              ∃ rewarded, whenPositive (slashedPart bond amount)
                  (slashLogged env state.storage bond amount)
                  (addSlashReward env (slashLogged env state.storage bond amount) admin
                    (slashedPart bond amount)) = .ok rewarded ∧
                assertSelfConsistent { rewarded with bond := some (bond.slashedBy amount) } =
                    .ok () ∧
                  ∃ ledger, whenPositive (slashedPart bond amount) state.ledger
                      (transferSlashedFundsToTreasury ext env
                        (state.store { rewarded with bond := some (bond.slashedBy amount) })
                        (slashedPart bond amount)) = .ok ledger ∧
                    after = {
                      storage :=
                        ({ rewarded with bond := some (bond.slashedBy amount) }.publish
                          (.bondSlashed bond.identity (slashedPart bond amount)
                            (bond.slashedBy amount).slashedAmount)).publish
                          (.bondSlashedV2 bond.identity (slashedPart bond amount)
                            (bond.slashedBy amount).slashedAmount env.timestamp admin
                            "Slashed by admin"
                            (bond.bondedAmount ≤ (bond.slashedBy amount).slashedAmount))
                      ledger } := by
  simp only [slash, Outcome.bind_eq_ok, Outcome.rejectIf_eq_ok, Outcome.unwrapOr_eq_ok,
    checkedI128_eq_ok, Outcome.pure_eq_ok, ne_eq, not_not, not_lt]
  constructor
  · rintro ⟨_, nonnegative, _, named, _, rfl, _, other, bond, found, _, ⟨fits, rfl⟩, _,
      ⟨total, rfl⟩, rest⟩
    simp only [slashedPart_eq, slashedRest_eq fits nonnegative, slashedTotal_eq] at total rest
    obtain ⟨rewarded, rewards, _, consistent, ledger, sent, rfl⟩ := rest
    exact ⟨nonnegative, named, other, bond, found, fits, total, rewarded, rewards, consistent,
      ledger, sent, rfl⟩
  · rintro ⟨nonnegative, named, other, bond, found, fits, total, rewarded, rewards, consistent,
      ledger, sent, rfl⟩
    refine ⟨(), nonnegative, admin, named, (), rfl, (), other, bond, found, _, ⟨fits, rfl⟩, _,
      ⟨by rwa [slashedPart_eq], rfl⟩, ?_⟩
    simp only [slashedPart_eq, slashedRest_eq fits nonnegative, slashedTotal_eq]
    exact ⟨rewarded, rewards, (), consistent, ledger, sent, rfl⟩

theorem slash_ok (done : slash ext env state admin amount = .ok after) :
    ∃ bond, state.storage.bond = some bond ∧ 0 ≤ amount ∧ state.storage.admin = some admin ∧
      (0 < slashedPart bond amount ∧ (∃ treasury asset,
          state.storage.slashTreasury = some treasury ∧ state.storage.bondToken = some asset ∧
            ext.token.transfer state.ledger asset env.currentContractAddress treasury
              (slashedPart bond amount) = some after.ledger) ∨
        slashedPart bond amount ≤ 0 ∧ after.ledger = state.ledger) ∧
      (0 < slashReward bond amount ∧ (∃ claim, claim.amount = slashReward bond amount ∧
          claim.claimId = state.storage.claims.claimCounter + 1 ∧ claim.processed = false ∧
            after.storage.claims = state.storage.claims.withClaim admin claim) ∨
        slashReward bond amount ≤ 0 ∧ after.storage.claims = state.storage.claims) ∧
      bond.slashedAmount + slashedPart bond amount + slashedDust bond amount ≤
        bond.bondedAmount ∧
      0 ≤ bond.slashedAmount + slashedPart bond amount + slashedDust bond amount ∧
      after.storage = { state.storage with
        bond := some { bond with
          slashedAmount := bond.slashedAmount + slashedPart bond amount +
            slashedDust bond amount }
        claims := after.storage.claims
        slashCounter := after.storage.slashCounter
        slashCount := after.storage.slashCount
        slashRecord := after.storage.slashRecord
        events := after.storage.events } := by
  obtain ⟨nonnegative, stored, -, bond, found, -, -, rewarded, rewards, consistent, ledger, sent,
    rfl⟩ := slash_eq_ok.mp done
  obtain ⟨slashRecord, slashCount, events, logged⟩ :=
    slashLogged_eq env state.storage bond amount
  rw [logged] at rewards
  obtain ⟨⟨slashCounter, added, claims, frame⟩, claimed⟩ := rewarding_ok rewards
  have within := assertSelfConsistent_ok rfl consistent
  refine ⟨bond, found, nonnegative, stored, ?_, claimed, within.2, within.1, ?_⟩
  · rcases whenPositive_eq_ok.mp sent with ⟨positive, moved⟩ | ⟨none, rfl⟩
    · simp only [transferSlashedFundsToTreasury, Outcome.bind_eq_ok, Outcome.unwrapOr_eq_ok,
        calling_eq_ok, frame] at moved
      obtain ⟨treasury, configured, asset, token, moved⟩ := moved
      exact .inl ⟨positive, treasury, asset, configured, token, moved⟩
    · exact .inr ⟨none, rfl⟩
  · rw [frame]
    rfl

/-- Recording an idempotency key changes nothing else. -/
theorem checkAndRecord_ok {storage recorded : Storage} {operation : String}
    {idempotencySalt : Bytes}
    (done : checkAndRecord ext storage admin operation idempotencySalt = .ok recorded) :
    ∃ idempotencyKey, recorded = { storage with idempotencyKey } := by
  unfold checkAndRecord at done
  split at done
  · exact ⟨storage.idempotencyKey, by simpa using done⟩
  · simp only [Outcome.bind_eq_ok, Outcome.pure_eq_ok] at done
    obtain ⟨-, -, rfl⟩ := done
    exact ⟨_, rfl⟩

theorem slashBond_ok {idempotencySalt : Bytes} {total : Int}
    (done : slashBond ext env state admin amount idempotencySalt = .ok (after, total)) :
    ∃ bond notified idempotencyKey, state.storage.bond = some bond ∧ bond.active = true ∧
      env.authorized admin = true ∧ state.storage.admin = some admin ∧
      total = wrappingI128 (bond.slashedAmount + amount) ∧
      0 ≤ total ∧ total ≤ bond.bondedAmount ∧
      notify ext (state.store { state.storage with
        idempotencyKey
        locked := true
        bond := some { bond with slashedAmount := total } }) "on_slash" amount =
          .ok notified ∧
      after = notified.store (releaseLock notified.storage) := by
  simp only [slashBond, Outcome.bind_eq_ok, requireAuth_eq_ok, acquireLock_eq_ok,
    requireStoredAdmin_eq_ok, Outcome.unwrapOr_eq_ok, Outcome.rejectIf_eq_ok,
    Outcome.pure_eq_ok, Prod.mk.injEq] at done
  obtain ⟨_, authorized, _, recorded, _, ⟨-, rfl⟩, _, stored, bond, found, _, active, _, -,
    _, consistent, notified, told, rfl, rfl⟩ := done
  obtain ⟨idempotencyKey, rfl⟩ := checkAndRecord_ok recorded
  obtain ⟨low, high⟩ := assertSelfConsistent_ok rfl consistent
  exact ⟨bond, notified, idempotencyKey, found, by simpa using active, authorized, stored, rfl,
    low, high, told, rfl⟩

theorem collectFees_ok {idempotencySalt : Bytes} {fees : Int}
    (done : collectFees ext env state admin idempotencySalt = .ok (after, fees)) :
    AdminAuthorized env state.storage ∧ ∃ idempotencyKey notified,
      notify ext (state.store { state.storage with
        idempotencyKey
        locked := true
        fees := 0 }) "on_collect" fees = .ok notified ∧
      after = notified.store (releaseLock notified.storage) := by
  simp only [collectFees, Outcome.bind_eq_ok, requireAuth_eq_ok, acquireLock_eq_ok,
    requireStoredAdmin_eq_ok, Outcome.pure_eq_ok, Prod.mk.injEq] at done
  obtain ⟨_, authorized, _, recorded, _, ⟨-, rfl⟩, _, stored, notified, told, rfl, rfl⟩ := done
  obtain ⟨idempotencyKey, rfl⟩ := checkAndRecord_ok recorded
  exact ⟨⟨admin, stored, authorized⟩, idempotencyKey, notified, told, rfl⟩

end Slashing

section Callbacks

variable {Ledger : Type} {ext : Externals Ledger} {self : Address}
variable {state after : State Ledger}

/-- The host rejects re-entry, so a callback cannot write the storage, and the
contract's own tokens leave only in its own calls. -/
def Externals.Guarded (ext : Externals Ledger) (self : Address) : Prop :=
  ∀ {address : Address} {function : String} {argument : Int} {before after : State Ledger},
    ext.callback address function argument before = some after →
      after.storage = before.storage ∧ ∀ asset,
        ext.token.balance before.ledger asset self ≤ ext.token.balance after.ledger asset self

theorem notify_ok (guarded : ext.Guarded self) {function : String} {argument : Int}
    (told : notify ext state function argument = .ok after) :
    after.storage = state.storage ∧ ∀ asset,
      ext.token.balance state.ledger asset self ≤ ext.token.balance after.ledger asset self := by
  unfold notify at told
  split at told
  · obtain rfl : after = state := by simpa using told
    exact ⟨rfl, fun _ => le_rfl⟩
  · exact guarded (calling_eq_ok.mp told)

/-- A notification before the lock is released leaves the storage as it was. -/
theorem notify_released (guarded : ext.Guarded self) {function : String} {argument : Int}
    (told : notify ext state function argument = .ok after) :
    (after.store (releaseLock after.storage)).storage = releaseLock state.storage :=
  congrArg releaseLock (notify_ok guarded told).1

end Callbacks

section Sample

/-- The reference token and a callback contract that does nothing. -/
def Externals.reference : Externals ReferenceLedger where
  token := ReferenceLedger.token
  callback := fun _ _ _ state => some state
  strkey := fun address => "G" ++ toString address.key
  contractId := fun address => [UInt8.ofNat address.key]
  symbolBytes := fun name => name.toUTF8.toList
  sha256 := id

theorem guarded_reference (self : Address) : Externals.reference.Guarded self := by
  rintro address function argument before _ ⟨⟩
  exact ⟨rfl, fun _ => le_rfl⟩

/-- A configured contract without a bond, which one user approved to spend what
the user holds. -/
def bondSample : State ReferenceLedger where
  storage := { Storage.deployed with
    admin := some ⟨1⟩
    bondToken := some ⟨9⟩
    slashTreasury := some ⟨7⟩
    earlyExitConfig := some { treasury := ⟨8⟩, penaltyBps := 500 } }
  ledger :=
    { holding := fun _ account => if account = ⟨5⟩ then 3000000000000000000 else 0
      approved := fun _ _ _ => 3000000000000000000 }

end Sample

end CredenceBond
