import CredenceContracts.Bond.Storage

/-!
# Pull-payment claims

Rewards are recorded as claims and paid when their user asks for them.  The
pending list of a user is rewritten by payment and by the two expiry sweeps,
each of which keeps the running total beside it by its own arithmetic.
-/

namespace CredenceBond

open Soroban MachineInt
open Outcome (rejectIf unwrapOr)

/-- Maximum number of claims that can be processed in a single batch. -/
def maxBatchClaims : Nat :=
  50

/-- Thirty days in seconds. -/
def defaultClaimExpiry : Nat :=
  30 * 24 * 60 * 60

/-- The size of a batch; zero asks for the largest. -/
def batchLimit (requested : Nat) : Nat :=
  if requested = 0 then maxBatchClaims else min requested maxBatchClaims

/-- The claim is past its expiry, where it has one. -/
def PendingClaim.Expired (now : Nat) (claim : PendingClaim) : Prop :=
  0 < claim.expiresAt ∧ claim.expiresAt < now

instance (now : Nat) : DecidablePred (PendingClaim.Expired now) := fun claim =>
  inferInstanceAs (Decidable (0 < claim.expiresAt ∧ claim.expiresAt < now))

/-- The claim is of one of the types asked for; an empty filter asks for all. -/
def PendingClaim.Selected (claimTypes : List ClaimType) (claim : PendingClaim) : Prop :=
  claimTypes = [] ∨ claim.claimType ∈ claimTypes

instance (claimTypes : List ClaimType) : DecidablePred (PendingClaim.Selected claimTypes) :=
  fun claim => inferInstanceAs (Decidable (claimTypes = [] ∨ claim.claimType ∈ claimTypes))

def PendingClaim.paid (claim : PendingClaim) : PendingClaim :=
  { claim with processed := true }

/-- Replace the entries of one user. -/
def ClaimStore.setPending (claims : ClaimStore) (user : Address)
    (pending : List PendingClaim) (claimable : Int) : ClaimStore :=
  { claims with
    pendingClaims := Function.update claims.pendingClaims user pending
    claimableAmount := Function.update claims.claimableAmount user claimable }

def getNextClaimId (claims : ClaimStore) : Outcome Nat :=
  checkedU64 (claims.claimCounter + 1) (.panicked "claim counter overflow")

section Adding

variable (env : Env) (storage : Storage)

/-- Record a claim and hand out its id.  The expiry is an unchecked sum. -/
def addPendingClaim (user : Address) (claimType : ClaimType) (amount : Int) (sourceId : Nat)
    (metadata : Option String) : Outcome (Storage × Nat) := do
  rejectIf (amount ≤ 0) (.panicked "claim amount must be positive")
  let claimId ← getNextClaimId storage.claims
  let claim : PendingClaim :=
    { claimId
      claimType
      amount
      createdAt := env.timestamp
      expiresAt := (env.timestamp + defaultClaimExpiry) % 2 ^ 64
      sourceId
      metadata := metadata.getD ""
      processed := false }
  let pending := storage.claims.pendingClaims user ++ [claim]
  let newTotal ← checkedI128 (storage.claims.claimableAmount user + amount)
    (.panicked "claimable amount overflow")
  let claims := ({ storage.claims with
    claimCounter := claimId
    claimById := Function.update storage.claims.claimById claimId (some claim) }).setPending
      user pending newTotal
  return (({ storage with claims }).publish (.claimAdded user claimType amount sourceId),
    claimId)

end Adding

/-- Store the claims that are left for a user; a user without claims has no
entries. -/
def storeRemaining (claims : ClaimStore) (user : Address) (left : List PendingClaim)
    (removedAmount : Int) : Outcome ClaimStore := do
  if left = [] then
    return claims.setPending user [] 0
  else
    let remainingAmount ← checkedI128 (claims.claimableAmount user - removedAmount)
      (.panicked "claimable amount underflow")
    return claims.setPending user left remainingAmount

section Payment

/-- The variables of the payment loop. -/
structure Batch where
  processed : List PendingClaim
  remaining : List PendingClaim
  totalAmount : Int
  claimTypes : List ClaimType
  claimById : Nat → Option PendingClaim

/-- Go through the pending claims until the batch is full. -/
def processLoop (now : Nat) (claimTypes : List ClaimType) (limit : Nat) :
    List PendingClaim → Batch → Outcome Batch
  | [], batch => return batch
  | claim :: rest, batch =>
      if limit ≤ batch.processed.length then
        return { batch with remaining := batch.remaining ++ claim :: rest }
      else if claim.processed then
        processLoop now claimTypes limit rest
          { batch with remaining := batch.remaining ++ [claim] }
      else if claim.Expired now then
        -- An expired claim is neither paid nor kept, and no total changes for it.
        processLoop now claimTypes limit rest batch
      else if ¬claim.Selected claimTypes then
        processLoop now claimTypes limit rest
          { batch with remaining := batch.remaining ++ [claim] }
      else do
        let totalAmount ← checkedI128 (batch.totalAmount + claim.amount)
          (.panicked "claim total overflow")
        processLoop now claimTypes limit rest
          { processed := batch.processed ++ [claim.paid]
            remaining := batch.remaining
            totalAmount
            claimTypes :=
              if claim.claimType ∈ batch.claimTypes then batch.claimTypes
              else batch.claimTypes ++ [claim.claimType]
            claimById := Function.update batch.claimById claim.claimId (some claim.paid) }

variable (env : Env)

/-- The batch that a payment settles. -/
def processBatch (claims : ClaimStore) (user : Address) (claimTypes : List ClaimType)
    (maxClaims : Nat) : Outcome Batch := do
  requireAuth env user
  let pending := claims.pendingClaims user
  rejectIf (pending = []) (.panicked "no pending claims")
  let batch ← processLoop env.timestamp claimTypes (batchLimit maxClaims) pending
    { processed := []
      remaining := []
      totalAmount := 0
      claimTypes := []
      claimById := claims.claimById }
  rejectIf (batch.processed = []) (.panicked "no valid claims to process")
  return batch

variable {Ledger : Type} (token : TokenInterface Ledger)

/-- Pay the amount of a batch in the bond token. -/
def payBatch (state : State Ledger) (user : Address) (totalAmount : Int) : Outcome Ledger := do
  if 0 < totalAmount then
    let asset ← unwrapOr state.storage.bondToken (.panicked "token not configured")
    calling (token.transfer state.ledger asset env.currentContractAddress user totalAmount)
  else
    return state.ledger

/-- Pay a user's claims of the asked types, up to the batch limit. -/
def processClaims (state : State Ledger) (user : Address) (claimTypes : List ClaimType)
    (maxClaims : Nat) : Outcome (State Ledger × ClaimResult) := do
  let batch ← processBatch env state.storage.claims user claimTypes maxClaims
  let claims ← storeRemaining { state.storage.claims with claimById := batch.claimById } user
    batch.remaining batch.totalAmount
  let ledger ← payBatch env token state user batch.totalAmount
  let result : ClaimResult :=
    { processedCount := batch.processed.length
      totalAmount := batch.totalAmount
      claimTypes := batch.claimTypes }
  let storage := ({ state.storage with claims }).publish (.claimsProcessed user result)
  return ({ storage, ledger }, result)

end Payment

section Expiry

/-- The amounts of the expired claims, added one by one. -/
def expiredAmount (expired : List PendingClaim) : Outcome Int :=
  expired.foldlM
    (fun total claim =>
      checkedI128 (total + claim.amount) (.panicked "expired amount overflow")) 0

/-- Remove expired claims of a user, where there are any. -/
def pruneClaims (storage : Storage) (user : Address) (expired valid : List PendingClaim) :
    Outcome (Storage × Nat) := do
  let amount ← expiredAmount expired
  if expired = [] then
    return (storage, 0)
  else
    let claims ← storeRemaining storage.claims user valid amount
    return (({ storage with claims }).publish (.claimsExpired user expired.length amount),
      expired.length)

/-- Remove every expired claim of a user. -/
def cleanupExpiredClaims (env : Env) (storage : Storage) (user : Address) :
    Outcome (Storage × Nat) :=
  let pending := storage.claims.pendingClaims user
  if pending = [] then
    return (storage, 0)
  else
    pruneClaims storage user (pending.filter (·.Expired env.timestamp))
      (pending.filter (¬·.Expired env.timestamp))

/-- The claim is removed by a bounded sweep. -/
def PendingClaim.Swept (now : Nat) (claim : PendingClaim) : Prop :=
  ¬(claim.expiresAt = 0 ∨ claim.processed = true) ∧ claim.expiresAt < now

instance (now : Nat) : DecidablePred (PendingClaim.Swept now) := fun claim =>
  inferInstanceAs
    (Decidable (¬(claim.expiresAt = 0 ∨ claim.processed = true) ∧ claim.expiresAt < now))

/-- Remove the expired claims among the first ones of a user. -/
def expireClaimsBounded (env : Env) (storage : Storage) (user : Address) (maxIter : Nat) :
    Outcome (Storage × Nat) :=
  let pending := storage.claims.pendingClaims user
  if pending = [] then
    return (storage, 0)
  else
    let scanned := pending.take (batchLimit maxIter)
    pruneClaims storage user (scanned.filter (·.Swept env.timestamp))
      (scanned.filter (¬·.Swept env.timestamp) ++ pending.drop (batchLimit maxIter))

end Expiry

section Reading

/-- Hard cap on the claims of one page. -/
def maxPageLimit : Nat :=
  50

def getPendingClaims (claims : ClaimStore) (user : Address) : List PendingClaim :=
  claims.pendingClaims user

/-- Go through the claims until the page is full. -/
def pageLoop (startAfter capped : Nat) :
    List PendingClaim → List PendingClaim → Option Nat → List PendingClaim × Option Nat
  | [], page, nextCursor => (page, nextCursor)
  | claim :: rest, page, nextCursor =>
      if claim.claimId ≤ startAfter then
        pageLoop startAfter capped rest page nextCursor
      else if page.length ≥ capped then
        (page, nextCursor)
      else
        pageLoop startAfter capped rest (page ++ [claim]) (some claim.claimId)

/-- One page of a user's claims past a cursor, and the cursor of the next page. -/
def getPendingClaimsPage (claims : ClaimStore) (user : Address) (startAfter limit : Nat) :
    List PendingClaim × Option Nat :=
  let capped := min limit maxPageLimit
  if capped = 0 then
    ([], none)
  else
    let (page, nextCursor) :=
      pageLoop startAfter capped (getPendingClaims claims user) [] none
    (page, if page.length < capped then none else nextCursor)

end Reading

/-- What can happen next to the claims, with what the call returned; a payment
also names the claims that it marked as paid.  Everything else that the contract
or another one does leaves the claims alone. -/
inductive ClaimAct where
  | addPendingClaim (user : Address) (claimType : ClaimType) (amount : Int) (sourceId : Nat)
      (metadata : Option String) (claimId : Nat)
  | processClaims (user : Address) (claimTypes : List ClaimType) (maxClaims : Nat)
      (paid : List PendingClaim) (result : ClaimResult)
  | cleanupExpiredClaims (user : Address) (expiredCount : Nat)
  | expireClaimsBounded (user : Address) (maxIter expiredCount : Nat)
  | elsewhere

/-- One act and the environment it happens in. -/
structure ClaimLabel where
  env : Env
  act : ClaimAct

/-- The successful steps of the claims of the contract deployed at `self`. -/
inductive ClaimStep {Ledger : Type} (token : TokenInterface Ledger) (self : Address) :
    State Ledger → ClaimLabel → State Ledger → Prop where
  | addPendingClaim {env : Env} {state : State Ledger} {user : Address}
      {claimType : ClaimType} {amount : Int} {sourceId claimId : Nat}
      {metadata : Option String} {storage : Storage} :
      env.currentContractAddress = self →
      addPendingClaim env state.storage user claimType amount sourceId metadata =
        .ok (storage, claimId) →
      ClaimStep token self state
        ⟨env, .addPendingClaim user claimType amount sourceId metadata claimId⟩
        { state with storage }
  | processClaims {env : Env} {state after : State Ledger} {user : Address}
      {claimTypes : List ClaimType} {maxClaims : Nat} {batch : Batch} {result : ClaimResult} :
      env.currentContractAddress = self →
      processBatch env state.storage.claims user claimTypes maxClaims = .ok batch →
      processClaims env token state user claimTypes maxClaims = .ok (after, result) →
      ClaimStep token self state
        ⟨env, .processClaims user claimTypes maxClaims batch.processed result⟩ after
  | cleanupExpiredClaims {env : Env} {state : State Ledger} {user : Address}
      {expiredCount : Nat} {storage : Storage} :
      env.currentContractAddress = self →
      cleanupExpiredClaims env state.storage user = .ok (storage, expiredCount) →
      ClaimStep token self state ⟨env, .cleanupExpiredClaims user expiredCount⟩
        { state with storage }
  | expireClaimsBounded {env : Env} {state : State Ledger} {user : Address}
      {maxIter expiredCount : Nat} {storage : Storage} :
      env.currentContractAddress = self →
      expireClaimsBounded env state.storage user maxIter = .ok (storage, expiredCount) →
      ClaimStep token self state ⟨env, .expireClaimsBounded user maxIter expiredCount⟩
        { state with storage }
  | elsewhere {env : Env} {state after : State Ledger} :
      after.storage.claims = state.storage.claims →
      ClaimStep token self state ⟨env, .elsewhere⟩ after

end CredenceBond
