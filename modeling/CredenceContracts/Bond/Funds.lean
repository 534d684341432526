import CredenceContracts.Bond.Claims

/-!
# Custody and checks of the bond

The legs on which tokens enter and leave the bond contract, and the checks and
small computations that the entry points share.  A leg is accepted only when the
contract's own balance moved by the amount.
-/

namespace CredenceBond

open Soroban MachineInt
open Outcome (rejectIf unwrapOr)

/-- One token in eighteen decimals. -/
def minBondAmount : Int :=
  1000000000000000000

/-- A hundred million tokens in eighteen decimals. -/
def maxBondAmount : Int :=
  100000000000000000000000000

def maxSupportedDecimals : Nat :=
  18

section Checks

variable (storage : Storage)

def validateBondAmount (amount : Int) : Outcome Unit := do
  rejectIf (amount < 0) (.panicked "bond amount cannot be negative")
  rejectIf (amount < minBondAmount)
    (.panicked s!"bond amount below minimum required: {amount} (minimum: {minBondAmount})")
  rejectIf (maxBondAmount < amount)
    (.panicked s!"bond amount exceeds maximum allowed: {amount} (maximum: {maxBondAmount})")

/-- Leverage is the amount in whole minimum bonds; no amount has none. -/
def validateLeverage (bondAmount : Int) (maxLeverage : Nat) : Outcome Unit :=
  rejectIf (0 < bondAmount ∧ (maxLeverage : Int) < bondAmount.tdiv minBondAmount)
    (.contract .leverageExceeded)

/-- The check after every write: the amounts of the stored bond and the
attestation counter of its identity. -/
def assertSelfConsistent : Outcome Unit :=
  match storage.bond with
  | none => return ()
  | some bond => do
      rejectIf (bond.bondedAmount < bond.slashedAmount ∨ bond.bondedAmount < 0 ∨
        bond.slashedAmount < 0) (.contract .invariantViolation)
      match storage.subjectAttestationCount bond.identity with
      | none => return ()
      | some count =>
          rejectIf ((storage.subjectAttestations bond.identity).length ≠ count)
            (.contract .invariantViolation)

def acquireLock : Outcome Storage := do
  rejectIf (storage.locked = true) (.contract .reentrancyDetected)
  return { storage with locked := true }

def releaseLock : Storage :=
  { storage with locked := false }

/-- The stored bond, which the caller must own. -/
def ownedBond (identity : Address) : Outcome IdentityBond := do
  let bond ← unwrapOr storage.bond (.contract .bondNotFound)
  rejectIf (bond.identity ≠ identity) (.contract .notBondOwner)
  return bond

/-- The admin that a configuration call names is the stored one. -/
def requireStoredAdmin (admin : Address) : Outcome Unit := do
  let stored ← unwrapOr storage.admin (.contract .notInitialized)
  rejectIf (stored ≠ admin) (.contract .notAdmin)

end Checks

section Tiers

def defaultTierThresholds : TierThresholds where
  bronzeMax := 1000000000000000000000
  silverMax := 5000000000000000000000
  goldMax := 20000000000000000000000

def getTierForAmount (storage : Storage) (amount : Int) : BondTier :=
  let thresholds := storage.tierThresholds.getD defaultTierThresholds
  if amount < thresholds.bronzeMax then .bronze
  else if amount < thresholds.silverMax then .silver
  else if amount < thresholds.goldMax then .gold
  else .platinum

def emitTierChangeIfNeeded (env : Env) (storage : Storage) (identity : Address)
    (oldTier newTier : BondTier) : Storage :=
  if oldTier = newTier then
    storage
  else
    (storage.publish (.tierChanged identity newTier)).publish
      (.tierChangedV2 identity oldTier newTier env.timestamp)

end Tiers

/-- The penalty share of an amount that leaves with `remaining` of `duration` still
to run; a product that does not fit counts as zero. -/
def calculatePenalty (amount : Int) (remaining duration penaltyBps : Nat) : Int :=
  if duration = 0 then
    0
  else
    let charge := (i128OrZero (amount * penaltyBps)).tdiv 10000
    (i128OrZero (charge * remaining)).tdiv duration

section Legs

variable {Ledger : Type} (token : TokenInterface Ledger) (env : Env) (storage : Storage)

def getToken : Outcome Address :=
  unwrapOr storage.bondToken
    (.panicked "token not configured - contract not properly initialized")

/-- Pull an amount from its owner, who approved it. -/
def transferIntoContract (ledger : Ledger) (owner : Address) (amount : Int) :
    Outcome Ledger := do
  rejectIf (amount < 0) (.panicked "amount must be non-negative")
  if amount = 0 then
    return ledger
  else
    let contract := env.currentContractAddress
    let asset ← getToken storage
    rejectIf (maxSupportedDecimals < token.decimals ledger asset)
      (.contract .unsupportedDecimals)
    rejectIf (token.allowance ledger asset owner contract < amount)
      (.panicked "insufficient token allowance")
    let moved ← unwrapOr (token.transferFrom ledger asset contract owner contract amount)
      (.panicked "token transfer failed")
    let actualReceived ← checkedI128
      (token.balance moved asset contract - token.balance ledger asset contract)
      (.panicked "balance underflow")
    rejectIf (actualReceived ≠ amount)
      (.panicked "unsupported token: transfer amount mismatch (code 213)")
    return moved

/-- Pay an amount out of the contract. -/
def transferFromContract (ledger : Ledger) (recipient : Address) (amount : Int) :
    Outcome Ledger := do
  rejectIf (amount < 0) (.panicked "amount must be non-negative")
  if amount = 0 then
    return ledger
  else
    let contract := env.currentContractAddress
    let asset ← getToken storage
    let moved ← unwrapOr (token.transfer ledger asset contract recipient amount)
      (.panicked "token transfer failed")
    let actualSent ← checkedI128
      (token.balance ledger asset contract - token.balance moved asset contract)
      (.panicked "balance underflow")
    rejectIf (actualSent ≠ amount)
      (.panicked "unsupported token: transfer amount mismatch (code 213)")
    return moved

/-- Pull a deposit, where a token is configured. -/
def receiveDeposit (ledger : Ledger) (identity : Address) (amount : Int) : Outcome Ledger :=
  if storage.bondToken.isSome then
    transferIntoContract token env storage ledger identity amount
  else
    return ledger

/-- Pay a positive amount with its source on record. -/
def transferFromContractWithSource (state : State Ledger) (recipient : Address)
    (amount : Int) (source : FundSource) : Outcome (State Ledger) := do
  let ledger ← transferFromContract token env state.storage state.ledger recipient amount
  let storage :=
    if 0 < amount then state.storage.publish (.bondFundTransfer recipient amount source)
    else state.storage
  return { storage, ledger }

end Legs

end CredenceBond
