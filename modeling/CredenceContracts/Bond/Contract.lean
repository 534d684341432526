import CredenceContracts.Bond.Funds
import CredenceContracts.Library.Run

/-!
# The bond contract

One bond at a time is created, topped up, slashed and closed.  Every entry point
that writes the bond, its configuration or the claims is here, in the order of
its own checks; those for attestations, attesters, pausing and the grace window
leave all of these entries alone, and the emergency drain always fails, for no
entry point stores the configuration that it reads.  Entry points that return the
bond return the one they stored, and a registration with a registry is that
contract's.
-/

namespace CredenceBond

open Soroban MachineInt
open Outcome (rejectIf unwrapOr)

/-- What the contract calls outside: the token, the callback contract that the
guarded entry points notify, and the encodings and the hash of the host. -/
structure Externals (Ledger : Type) where
  token : TokenInterface Ledger
  callback : Address → String → Int → State Ledger → Option (State Ledger)
  strkey : Address → String
  contractId : Address → Bytes
  symbolBytes : String → Bytes
  sha256 : Bytes → Bytes

/-- Take a step for a positive amount only. -/
def whenPositive {α : Type} (amount : Int) (unchanged : α) (step : Outcome α) : Outcome α :=
  if 0 < amount then step else return unchanged

section EntryPoints

variable {Ledger : Type} (ext : Externals Ledger) (env : Env) (state : State Ledger)

/-- The state once its storage was replaced. -/
def State.store (storage : Storage) : State Ledger :=
  { state with storage }

section Configuration

variable (storage : Storage)

def initializeBond (admin : Address) : Outcome Storage := do
  requireAuth env admin
  return { storage with admin := some admin }

def setToken (admin asset : Address) : Outcome Storage := do
  let stored ← unwrapOr storage.admin (.panicked "not initialized")
  requireAuth env admin
  rejectIf (admin ≠ stored) (.panicked "not admin")
  rejectIf (asset ∉ storage.acceptedTokens) (.contract .unauthorizedToken)
  return { storage with bondToken := some asset }

def zeroStrkey : String :=
  "AAAAAAAAAAAAAAAAAAAAAAAAAAAAAAAAAAAAAAAAAAAA"

def transferAdmin (currentAdmin newAdmin : Address) : Outcome Storage := do
  requireAuth env currentAdmin
  requireAuth env newAdmin
  requireStoredAdmin storage currentAdmin
  rejectIf (currentAdmin = newAdmin) (.contract .adminUnchanged)
  rejectIf (ext.strkey newAdmin = zeroStrkey) (.contract .invalidAdminAddress)
  return ({ storage with admin := some newAdmin }).publish
    (.adminTransferred currentAdmin newAdmin)

def setEarlyExitConfig (admin treasury : Address) (penaltyBps : Nat) : Outcome Storage := do
  requireAuth env admin
  requireStoredAdmin storage admin
  rejectIf (10000 < penaltyBps) (.panicked "penalty_bps must be <= 10000")
  return ({ storage with
    earlyExitConfig := some { treasury, penaltyBps } }).publish
      (.earlyExitConfigSet treasury penaltyBps)

def setLiquidationTreasury (admin treasury : Address) : Outcome Storage := do
  requireAuth env admin
  requireStoredAdmin storage admin
  return ({ storage with liquidationTreasury := some treasury }).publish
    (.liquidationTreasurySet treasury)

def setSlashTreasury (admin treasury : Address) : Outcome Storage := do
  requireAuth env admin
  requireStoredAdmin storage admin
  return ({ storage with slashTreasury := some treasury }).publish
    (.slashTreasurySet treasury)

def maxWeightMultiplierBps : Nat :=
  10000

def maxAttestationWeight : Nat :=
  1000000

/-- Both values are cut down to their limits, not rejected. -/
def setWeightConfig (admin : Address) (multiplierBps maxWeight : Nat) : Outcome Storage := do
  let stored ← unwrapOr storage.admin (.contract .notInitialized)
  requireAuth env admin
  rejectIf (admin ≠ stored) (.contract .notAdmin)
  return { storage with
    weightConfig := {
      multiplierBps := min multiplierBps maxWeightMultiplierBps
      maxWeight := min maxWeight maxAttestationWeight } }

def setCallback (address : Address) : Storage :=
  { storage with callback := some address }

def depositFees (amount : Int) : Storage :=
  { storage with fees := wrappingI128 (storage.fees + amount) }

end Configuration

section Deposits

/-- Store a new bond for an identity, whatever bond was stored before. -/
def createBond (identity : Address) (amount : Int) (duration : Nat) (isRolling : Bool)
    (noticePeriodDuration : Nat) : Outcome (State Ledger) := do
  requireAuth env identity
  let ledger ← receiveDeposit ext.token env state.storage state.ledger identity amount
  let _ ← checkedU64 (env.timestamp + duration)
    (.panicked "bond end timestamp would overflow")
  validateBondAmount amount
  validateLeverage amount state.storage.maxLeverage
  let bond : IdentityBond :=
    { identity
      bondedAmount := amount
      bondStart := env.timestamp
      bondDuration := duration
      slashedAmount := 0
      active := true
      isRolling
      withdrawalRequestedAt := 0
      noticePeriodDuration }
  let tier := getTierForAmount state.storage amount
  let storage := emitTierChangeIfNeeded env { state.storage with bond := some bond } identity
    .bronze tier
  assertSelfConsistent storage
  return { storage, ledger }

def topUp (identity : Address) (amount : Int) : Outcome (State Ledger) := do
  requireAuth env identity
  let bond ← ownedBond state.storage identity
  let ledger ← receiveDeposit ext.token env state.storage state.ledger bond.identity amount
  let newBondedAmount ← checkedI128 (bond.bondedAmount + amount) (.contract .overflow)
  let oldTier := getTierForAmount state.storage (saturatingI128 bond.stake)
  validateBondAmount newBondedAmount
  validateLeverage newBondedAmount state.storage.maxLeverage
  let updated := { bond with bondedAmount := newBondedAmount }
  let newTier := getTierForAmount state.storage (saturatingI128 updated.stake)
  let storage := emitTierChangeIfNeeded env { state.storage with bond := some updated }
    bond.identity oldTier newTier
  assertSelfConsistent storage
  return { storage, ledger }

end Deposits

section Exits

/-- A rolling bond is left only after a request and its notice period; what is
asked of another bond is up to the caller. -/
def requireNotice (bond : IdentityBond) (otherwise : Outcome Unit) : Outcome Unit :=
  if bond.isRolling then do
    rejectIf (bond.withdrawalRequestedAt = 0) (.panicked "withdrawal not requested")
    let earliest ← checkedU64 (bond.withdrawalRequestedAt + bond.noticePeriodDuration)
      (.panicked "notice period overflow")
    rejectIf (env.timestamp < earliest) (.panicked "notice period not elapsed")
  else
    otherwise

/-- Withdraw from the bond after the lock-up.  The record is lowered; no token
leg follows. -/
def withdraw (identity : Address) (amount : Int) : Outcome (State Ledger) := do
  requireAuth env identity
  let bond ← ownedBond state.storage identity
  let lockupEnd ← checkedU64 (bond.bondStart + bond.bondDuration)
    (.panicked "bond end timestamp overflow")
  rejectIf (env.timestamp < lockupEnd) (.panicked "lock-up not expired; use withdraw_early")
  requireNotice env bond
    (rejectIf (env.timestamp < saturatingU64 (bond.bondStart + bond.bondDuration))
      (.contract .lockupNotExpired))
  let available ← checkedI128 bond.stake (.contract .slashExceedsBond)
  rejectIf (available < amount) (.contract .insufficientBalance)
  let oldTier := getTierForAmount state.storage bond.bondedAmount
  let bondedAmount ← checkedI128 (bond.bondedAmount - amount) (.contract .underflow)
  rejectIf (bondedAmount < bond.slashedAmount) (.contract .slashExceedsBond)
  let updated := { bond with bondedAmount }
  let newTier := getTierForAmount state.storage (saturatingI128 updated.stake)
  let storage := { emitTierChangeIfNeeded env state.storage bond.identity oldTier newTier with
    bond := some updated }
  assertSelfConsistent storage
  return state.store storage

/-- Withdraw during the lock-up, less a penalty for the early-exit treasury. -/
def withdrawEarly (identity : Address) (amount : Int) : Outcome (State Ledger) := do
  let storage ← acquireLock state.storage
  let bond ← ownedBond storage identity
  let available ← checkedI128 bond.stake (.contract .slashExceedsBond)
  rejectIf (available < amount) (.contract .insufficientBalance)
  let lockupEnd := saturatingU64 (bond.bondStart + bond.bondDuration)
  rejectIf (lockupEnd ≤ env.timestamp) (.contract .lockupNotExpired)
  let config ← unwrapOr storage.earlyExitConfig (.contract .earlyExitConfigNotSet)
  let remaining := lockupEnd - env.timestamp
  let penalty := calculatePenalty amount remaining bond.bondDuration config.penaltyBps
  let netAmount ← checkedI128 (amount - penalty) (.contract .underflow)
  let splitTotal ← checkedI128 (netAmount + penalty) (.contract .overflow)
  rejectIf (penalty < 0 ∨ amount < penalty ∨ splitTotal ≠ amount)
    (.contract .invariantViolation)
  let storage := storage.publish
    (.earlyExitPenalty bond.identity amount penalty config.treasury)
  let oldTier := getTierForAmount storage bond.bondedAmount
  let bondedAmount ← checkedI128 (bond.bondedAmount - amount) (.contract .underflow)
  rejectIf (bondedAmount < bond.slashedAmount) (.contract .slashExceedsBond)
  let newTier := getTierForAmount storage bondedAmount
  let storage := { emitTierChangeIfNeeded env storage bond.identity oldTier newTier with
    bond := some { bond with bondedAmount } }
  let charged ← whenPositive penalty (state.store storage)
    (transferFromContractWithSource ext.token env (state.store storage) config.treasury
      penalty .protocolFee)
  let ledger ← whenPositive netAmount charged.ledger
    (transferFromContract ext.token env charged.storage charged.ledger bond.identity netAmount)
  let storage := releaseLock charged.storage
  assertSelfConsistent storage
  return { storage, ledger }

/-- Notify the callback contract, where one is registered. -/
def notify (notified : State Ledger) (function : String) (argument : Int) :
    Outcome (State Ledger) :=
  match notified.storage.callback with
  | none => return notified
  | some address => calling (ext.callback address function argument notified)

/-- Close the bond and return what was withdrawable.  The record is emptied; no
token leg follows. -/
def withdrawBond (identity : Address) : Outcome (State Ledger × Int) := do
  requireAuth env identity
  let storage ← acquireLock state.storage
  let bond ← ownedBond storage identity
  rejectIf (bond.active = false) (.contract .bondNotActive)
  requireNotice env bond (return ())
  let withdrawAmount := wrappingI128 bond.stake
  let storage := { storage with
    bond := some { bond with bondedAmount := 0, active := false } }
  assertSelfConsistent storage
  let notified ← notify ext (state.store storage) "on_withdraw" withdrawAmount
  return (notified.store (releaseLock notified.storage), withdrawAmount)

end Exits

section Terms

variable (storage : Storage)

def requestWithdrawal (identity : Address) : Outcome Storage := do
  requireAuth env identity
  let bond ← ownedBond storage identity
  rejectIf (bond.isRolling = false) (.contract .notRollingBond)
  rejectIf (bond.withdrawalRequestedAt ≠ 0) (.contract .withdrawalAlreadyRequested)
  let updated := { bond with withdrawalRequestedAt := env.timestamp }
  let storage := ({ storage with bond := some updated }).publish
    (.withdrawalRequested bond.identity env.timestamp)
  assertSelfConsistent storage
  return storage

/-- Start a new period of a rolling bond whose period ended without a request. -/
def renewIfRolling (identity : Address) : Outcome Storage := do
  requireAuth env identity
  let bond ← ownedBond storage identity
  if bond.isRolling = false ∨ bond.withdrawalRequestedAt ≠ 0 then
    return storage
  else
    let periodEnd ← checkedU64 (bond.bondStart + bond.bondDuration) (.panicked "overflow")
    if env.timestamp < periodEnd then
      return storage
    else
      let updated := { bond with bondStart := env.timestamp, withdrawalRequestedAt := 0 }
      let storage := ({ storage with bond := some updated }).publish
        (.bondRenewed bond.identity env.timestamp bond.bondDuration)
      assertSelfConsistent storage
      return storage

def extendDuration (identity : Address) (additionalDuration : Nat) : Outcome Storage := do
  requireAuth env identity
  let bond ← ownedBond storage identity
  let bondDuration ← checkedU64 (bond.bondDuration + additionalDuration)
    (.contract .overflow)
  let _ ← checkedU64 (bond.bondStart + bondDuration) (.contract .overflow)
  let storage := { storage with bond := some { bond with bondDuration } }
  assertSelfConsistent storage
  return storage

/-- Mark a fully slashed or expired bond closed.  What is left of it stays in the
contract. -/
def liquidate (admin : Address) : Outcome Storage := do
  requireAuth env admin
  let storage ← acquireLock storage
  let bond ← unwrapOr storage.bond (.contract .bondNotFound)
  requireStoredAdmin storage admin
  rejectIf (bond.active = false) (.contract .bondNotActive)
  let lockupEnd := saturatingU64 (bond.bondStart + bond.bondDuration)
  let fullySlashed := bond.bondedAmount ≤ bond.slashedAmount
  let expiredUnrenewed := bond.isRolling = false ∧ lockupEnd ≤ env.timestamp
  rejectIf (¬fullySlashed ∧ ¬expiredUnrenewed) (.panicked
    "bond is not eligible for liquidation: must be fully slashed or expired (non-rolling) without renewal")
  let storage := { storage with
    bond := some { bond with active := false }
    liquidated := Function.update storage.liquidated bond.identity true }
  assertSelfConsistent storage
  let reason := if fullySlashed then "fully_slashed" else "expired_unrenewed"
  return releaseLock (storage.publish
    (.bondLiquidated bond.identity (saturatingI128 bond.stake) reason env.timestamp admin))

end Terms

section Slashing

def dustThreshold : Int :=
  1

/-- Append a record to the slash history of an identity. -/
def appendSlashHistory (storage : Storage) (identity : Address) (slashAmount : Int)
    (reason : String) (totalSlashedAfter : Int) : Storage :=
  let count := storage.slashCount identity
  let record : SlashRecord :=
    { identity
      slashAmount
      reason
      timestamp := env.timestamp
      totalSlashedAfter }
  { storage with
    slashRecord := Function.update storage.slashRecord identity
      (Function.update (storage.slashRecord identity) count (some record))
    slashCount := Function.update storage.slashCount identity ((count + 1) % 2 ^ 32) }

/-- The claim on a tenth of a slash for whoever is named as admin. -/
def addSlashReward (storage : Storage) (admin : Address) (actualSlashAmount : Int) :
    Outcome Storage :=
  let rewardAmount := actualSlashAmount.tdiv 10
  let sourceId := (storage.slashCounter + 1) % 2 ^ 64
  whenPositive rewardAmount storage
    (Prod.fst <$> addPendingClaim env { storage with slashCounter := sourceId } admin
      .slashingReward rewardAmount sourceId (some "slash_reward"))

/-- Send slashed funds to the configured slash treasury. -/
def transferSlashedFundsToTreasury (slashed : State Ledger) (amount : Int) :
    Outcome Ledger := do
  let treasury ← unwrapOr slashed.storage.slashTreasury (.contract .treasuryNotConfigured)
  let asset ← unwrapOr slashed.storage.bondToken (.panicked "token not configured")
  calling (ext.token.transfer slashed.ledger asset env.currentContractAddress treasury amount)

/-- Slash the stored bond by at most what is left of it.  A rest within the dust
threshold is slashed as well.  The caller names the admin; no one authorises. -/
def slash (admin : Address) (amount : Int) : Outcome (State Ledger) := do
  rejectIf (amount < 0) (.panicked "slash amount must be non-negative")
  let stored ← unwrapOr state.storage.admin (.panicked "not initialized")
  rejectIf (admin ≠ stored) (.panicked "not admin")
  rejectIf (state.storage.lastCollateralIncreaseLedger = some env.sequence)
    (.panicked "slash blocked: collateral increased in this ledger")
  let bond ← unwrapOr state.storage.bond (.panicked "no bond")
  let available ← checkedI128 bond.stake (.panicked "slashed exceeds bonded")
  let actualSlashAmount := if available < amount then available else amount
  let newSlashed ← checkedI128 (bond.slashedAmount + actualSlashAmount)
    (.panicked "slashing caused overflow")
  let newSlashed :=
    if wrappingI128 (bond.bondedAmount - newSlashed) ≤ dustThreshold then bond.bondedAmount
    else newSlashed
  let oldTier := getTierForAmount state.storage (saturatingI128 bond.stake)
  let updated := { bond with slashedAmount := newSlashed }
  let newTier := getTierForAmount state.storage (saturatingI128 updated.stake)
  let storage := emitTierChangeIfNeeded env state.storage bond.identity oldTier newTier
  let storage := appendSlashHistory env storage bond.identity actualSlashAmount "admin_slash"
    newSlashed
  let storage ← whenPositive actualSlashAmount storage
    (addSlashReward env storage admin actualSlashAmount)
  let storage := { storage with bond := some updated }
  assertSelfConsistent storage
  let ledger ← whenPositive actualSlashAmount state.ledger
    (transferSlashedFundsToTreasury ext env (state.store storage) actualSlashAmount)
  let storage := (storage.publish
    (.bondSlashed bond.identity actualSlashAmount newSlashed)).publish
    (.bondSlashedV2 bond.identity actualSlashAmount newSlashed env.timestamp admin
      "Slashed by admin" (bond.bondedAmount ≤ newSlashed))
  return { storage, ledger }

def computeKey (actor : Address) (operation : String) (salt : Bytes) : Bytes :=
  ext.sha256 (ext.contractId actor ++ ext.symbolBytes operation ++ salt)

/-- Record the key of a salted request; an empty salt asks for no key. -/
def checkAndRecord (storage : Storage) (actor : Address) (operation : String)
    (salt : Bytes) : Outcome Storage := do
  if salt = [] then
    return storage
  else
    let key := computeKey ext actor operation salt
    rejectIf (storage.idempotencyKey key = true) (.contract .duplicateIdempotencyKey)
    return { storage with idempotencyKey := Function.update storage.idempotencyKey key true }

/-- Raise the slashed amount of an active bond; no token leg, claim or record. -/
def slashBond (admin : Address) (slashAmount : Int) (idempotencySalt : Bytes) :
    Outcome (State Ledger × Int) := do
  requireAuth env admin
  let storage ← checkAndRecord ext state.storage admin "slash_bond" idempotencySalt
  let storage ← acquireLock storage
  requireStoredAdmin storage admin
  let bond ← unwrapOr storage.bond (.contract .bondNotFound)
  rejectIf (bond.active = false) (.contract .bondNotActive)
  let newSlashed := wrappingI128 (bond.slashedAmount + slashAmount)
  rejectIf (bond.bondedAmount < newSlashed) (.contract .slashExceedsBond)
  let storage := { storage with bond := some { bond with slashedAmount := newSlashed } }
  assertSelfConsistent storage
  let notified ← notify ext (state.store storage) "on_slash" slashAmount
  return (notified.store (releaseLock notified.storage), newSlashed)

/-- Zero the fee pool and return what it held; no token leg follows. -/
def collectFees (admin : Address) (idempotencySalt : Bytes) :
    Outcome (State Ledger × Int) := do
  requireAuth env admin
  let storage ← checkAndRecord ext state.storage admin "collect_fees" idempotencySalt
  let storage ← acquireLock storage
  requireStoredAdmin storage admin
  let fees := storage.fees
  let notified ← notify ext (state.store { storage with fees := 0 }) "on_collect" fees
  return (notified.store (releaseLock notified.storage), fees)

end Slashing

end EntryPoints

/-- The entry points that write. -/
inductive Call where
  | initializeBond (admin : Address)
  | setToken (admin asset : Address)
  | transferAdmin (currentAdmin newAdmin : Address)
  | setEarlyExitConfig (admin treasury : Address) (penaltyBps : Nat)
  | setLiquidationTreasury (admin treasury : Address)
  | setSlashTreasury (admin treasury : Address)
  | setWeightConfig (admin : Address) (multiplierBps maxWeight : Nat)
  | setCallback (address : Address)
  | depositFees (amount : Int)
  | createBond (identity : Address) (amount : Int) (duration : Nat) (isRolling : Bool)
      (noticePeriodDuration : Nat)
  | topUp (identity : Address) (amount : Int)
  | withdraw (identity : Address) (amount : Int)
  | withdrawEarly (identity : Address) (amount : Int)
  | withdrawBond (identity : Address)
  | requestWithdrawal (identity : Address)
  | renewIfRolling (identity : Address)
  | extendDuration (identity : Address) (additionalDuration : Nat)
  | liquidate (admin : Address)
  | slash (admin : Address) (amount : Int)
  | slashBond (admin : Address) (slashAmount : Int) (idempotencySalt : Bytes)
  | collectFees (admin : Address) (idempotencySalt : Bytes)
  | processClaims (user : Address) (claimTypes : List ClaimType) (maxClaims : Nat)
  | expireClaims (user : Address) (maxIter : Nat)

section Steps

variable {Ledger : Type} (ext : Externals Ledger)

/-- The outcome of an entry point that moves no tokens. -/
def State.storing (state : State Ledger) (result : Outcome Storage) :
    Outcome (State Ledger) :=
  state.store <$> result

/-- The state after an entry point. -/
def invoke (env : Env) (state : State Ledger) : Call → Outcome (State Ledger)
  | .initializeBond admin => state.storing (initializeBond env state.storage admin)
  | .setToken admin asset => state.storing (setToken env state.storage admin asset)
  | .transferAdmin currentAdmin newAdmin =>
      state.storing (transferAdmin ext env state.storage currentAdmin newAdmin)
  | .setEarlyExitConfig admin treasury penaltyBps =>
      state.storing (setEarlyExitConfig env state.storage admin treasury penaltyBps)
  | .setLiquidationTreasury admin treasury =>
      state.storing (setLiquidationTreasury env state.storage admin treasury)
  | .setSlashTreasury admin treasury =>
      state.storing (setSlashTreasury env state.storage admin treasury)
  | .setWeightConfig admin multiplierBps maxWeight =>
      state.storing (setWeightConfig env state.storage admin multiplierBps maxWeight)
  | .setCallback address => return state.store (setCallback state.storage address)
  | .depositFees amount => return state.store (depositFees state.storage amount)
  | .createBond identity amount duration isRolling noticePeriodDuration =>
      createBond ext env state identity amount duration isRolling noticePeriodDuration
  | .topUp identity amount => topUp ext env state identity amount
  | .withdraw identity amount => withdraw env state identity amount
  | .withdrawEarly identity amount => withdrawEarly ext env state identity amount
  | .withdrawBond identity => Prod.fst <$> withdrawBond ext env state identity
  | .requestWithdrawal identity =>
      state.storing (requestWithdrawal env state.storage identity)
  | .renewIfRolling identity => state.storing (renewIfRolling env state.storage identity)
  | .extendDuration identity additionalDuration =>
      state.storing (extendDuration env state.storage identity additionalDuration)
  | .liquidate admin => state.storing (liquidate env state.storage admin)
  | .slash admin amount => slash ext env state admin amount
  | .slashBond admin slashAmount idempotencySalt =>
      Prod.fst <$> slashBond ext env state admin slashAmount idempotencySalt
  | .collectFees admin idempotencySalt =>
      Prod.fst <$> collectFees ext env state admin idempotencySalt
  | .processClaims user claimTypes maxClaims =>
      Prod.fst <$> processClaims env ext.token state user claimTypes maxClaims
  | .expireClaims user maxIter =>
      state.storing (Prod.fst <$> expireClaimsBounded env state.storage user maxIter)

/-- The state after an entry point; one that fails has no effect. -/
def State.follow (state : State Ledger) (env : Env) (call : Call) : State Ledger :=
  (invoke ext env state call).toOption.getD state

/-- What can happen next: a call of the bond contract, or something elsewhere. -/
inductive Act where
  | call (call : Call)
  | elsewhere

/-- One act and the environment it happens in. -/
structure Label where
  env : Env
  act : Act

/-- The successful steps of the bond contract deployed at `self`.  What happens
elsewhere moves other accounts' tokens and writes attestations; the contract's
own tokens leave only in its own calls. -/
inductive Step (self : Address) : State Ledger → Label → State Ledger → Prop where
  | call {env : Env} {state after : State Ledger} {call : Call} :
      env.currentContractAddress = self → invoke ext env state call = .ok after →
      Step self state ⟨env, .call call⟩ after
  | elsewhere {env : Env} {state : State Ledger} {ledger : Ledger}
      {subjectAttestations : Address → List Nat}
      {subjectAttestationCount : Address → Option Nat} :
      (∀ asset, ext.token.balance state.ledger asset self ≤
        ext.token.balance ledger asset self) →
      Step self state ⟨env, .elsewhere⟩
        { storage := { state.storage with subjectAttestations, subjectAttestationCount }
          ledger }

/-- A step of a call is the call. -/
theorem Step.called {ext : Externals Ledger} {self : Address} {state after : State Ledger}
    {label : Label} {call : Call} (stepped : Step ext self state label after)
    (called : label.act = .call call) :
    label.env.currentContractAddress = self ∧ invoke ext label.env state call = .ok after := by
  obtain ⟨env, act⟩ := label
  obtain rfl : act = .call call := called
  cases stepped with
  | call addressed done => exact ⟨addressed, done⟩

theorem Step.follow {ext : Externals Ledger} {self : Address} {state : State Ledger}
    (env : Env) (call : Call) (addressed : env.currentContractAddress = self)
    (done : (invoke ext env state call).isOk = true) :
    Step ext self state ⟨env, .call call⟩ (state.follow ext env call) := by
  refine .call addressed ?_
  unfold State.follow
  cases result : invoke ext env state call with
  | error failure => simp [result, Except.isOk, Except.toBool] at done
  | ok after => rfl

/-- The state after a call of the contract, where it succeeds. -/
def next (self : Address) (state : State Ledger) (label : Label) : Option (State Ledger) :=
  match label.act with
  | .call call =>
      if label.env.currentContractAddress = self then
        (invoke ext label.env state call).toOption
      else
        none
  | .elsewhere => none

theorem step_of_next {ext : Externals Ledger} {self : Address} {state after : State Ledger}
    {label : Label} (followed : next ext self state label = some after) :
    Step ext self state label after := by
  obtain ⟨env, act⟩ := label
  cases act with
  | call call =>
      simp only [next] at followed
      split at followed
      · rename_i addressed
        exact .call addressed (Outcome.toOption_eq_some.mp followed)
      · cases followed
  | elsewhere => cases followed

end Steps

end CredenceBond
