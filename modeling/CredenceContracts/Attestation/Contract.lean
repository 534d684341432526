import CredenceContracts.Bond.Contract

/-!
# Attestations

Registered attesters attest for subjects, one at a time or several at once, and
revoke what they attested.  The bond contract keeps the records and, for each
subject, a list of the live ones with its length.  Every entry point that writes
these is here, in the order of its own checks; published events are not recorded.
-/

namespace Attestations

open Soroban MachineInt
open CredenceBond (maxWeightMultiplierBps maxAttestationWeight)
open Outcome (rejectIf unwrapOr)

/-- An attestation of a verifier for an identity. -/
structure Attestation where
  id : Nat
  verifier : Address
  identity : Address
  timestamp : Nat
  weight : Nat
  attestationData : String
  revoked : Bool
  deriving DecidableEq, Repr

/-- What makes two attestations duplicates. -/
structure AttestationDedupKey where
  verifier : Address
  identity : Address
  attestationData : String
  deriving DecidableEq, Repr

def Attestation.dedupKey (attestation : Attestation) : AttestationDedupKey where
  verifier := attestation.verifier
  identity := attestation.identity
  attestationData := attestation.attestationData

structure AttestationBatchItem where
  attester : Address
  attestationData : String
  nonce : Nat
  deriving DecidableEq, Repr

def AttestationBatchItem.dedupKey (item : AttestationBatchItem) (subject : Address) :
    AttestationDedupKey where
  verifier := item.attester
  identity := subject
  attestationData := item.attestationData

/-- The entries of the bond contract with those for attestations. -/
structure Storage where
  bond : CredenceBond.Storage
  attester : Address → Bool
  attesterStake : Address → Int
  attestationCounter : Nat
  attestation : Nat → Option Attestation
  dedup : AttestationDedupKey → Bool
  nonce : Address → Nat

/-- A contract in which nothing was stored yet. -/
def Storage.deployed : Storage where
  bond := .deployed
  attester := fun _ => false
  attesterStake := fun _ => 0
  attestationCounter := 0
  attestation := fun _ => none
  dedup := fun _ => false
  nonce := fun _ => 0

/-- The ids of the live attestations of a subject. -/
abbrev Storage.subjectAttestations (storage : Storage) : Address → List Nat :=
  storage.bond.subjectAttestations

abbrev Storage.subjectAttestationCount (storage : Storage) : Address → Option Nat :=
  storage.bond.subjectAttestationCount

def defaultAttestationWeight : Nat :=
  1

def bpsDenominator : Nat :=
  10000

def maxBatchAttestationSize : Nat :=
  64

section Helpers

variable (storage : Storage)

def consumeNonce (identity : Address) (expectedNonce : Nat) : Outcome Storage := do
  let current := storage.nonce identity
  rejectIf (current ≠ expectedNonce) (.contract .invalidNonce)
  let next ← checkedU64 (current + 1) (.panicked "nonce overflow")
  return { storage with nonce := Function.update storage.nonce identity next }

/-- The weight of an attester's word, by its stake and within the caps. -/
def computeWeight (attester : Address) : Nat :=
  let stake := storage.attesterStake attester
  if stake ≤ 0 then
    defaultAttestationWeight
  else
    let mult := min storage.bond.weightConfig.multiplierBps maxWeightMultiplierBps
    let raw := saturatingU128 (saturatingU128 (stake.toNat / bpsDenominator * mult) +
      saturatingU128 (stake.toNat % bpsDenominator * mult) / bpsDenominator)
    let cap := min storage.bond.weightConfig.maxWeight maxAttestationWeight
    let bounded := wrappingU32 (min (min raw cap) maxAttestationWeight)
    max bounded defaultAttestationWeight

def validateWeight (weight : Nat) : Outcome Unit := do
  rejectIf (weight = 0) (.panicked "attestation weight must be positive")
  rejectIf (weight > maxAttestationWeight) (.panicked "attestation weight exceeds maximum")

def checkAttestationCountConsistent (subject : Address) : Outcome Unit :=
  match storage.subjectAttestationCount subject with
  | some count =>
      rejectIf ((storage.subjectAttestations subject).length ≠ count)
        (.contract .invariantViolation)
  | none => return ()

/-- The check of the bond, then that of a subject which is not the bond's owner. -/
def assertSelfConsistentForSubject (subject : Address) : Outcome Unit := do
  CredenceBond.assertSelfConsistent storage.bond
  match storage.bond.bond with
  | some bond =>
      if bond.identity ≠ subject then
        checkAttestationCountConsistent storage subject
      else
        return ()
  | none => checkAttestationCountConsistent storage subject

/-- Append to the list of a subject, and count. -/
def indexAdded (subject : Address) (ids : List Nat) : CredenceBond.Storage :=
  { storage.bond with
    subjectAttestations := Function.update storage.subjectAttestations subject
      (storage.subjectAttestations subject ++ ids)
    subjectAttestationCount := Function.update storage.subjectAttestationCount subject
      (some (saturatingU32
        ((storage.subjectAttestationCount subject).getD 0 + ids.length))) }

/-- Drop from the list of a subject, and count. -/
def indexRevoked (subject : Address) (attestationId : Nat) : CredenceBond.Storage :=
  { storage.bond with
    subjectAttestations := Function.update storage.subjectAttestations subject
      ((storage.subjectAttestations subject).filter (· ≠ attestationId))
    subjectAttestationCount := Function.update storage.subjectAttestationCount subject
      (some ((storage.subjectAttestationCount subject).getD 0 - 1)) }

end Helpers

section EntryPoints

variable (env : Env) (storage : Storage)

def registerAttester (attester : Address) : Outcome Storage := do
  let admin ← unwrapOr storage.bond.admin (.contract .notInitialized)
  requireAuth env admin
  return { storage with attester := Function.update storage.attester attester true }

def unregisterAttester (attester : Address) : Outcome Storage := do
  let admin ← unwrapOr storage.bond.admin (.contract .notInitialized)
  requireAuth env admin
  return { storage with attester := Function.update storage.attester attester false }

def setAttesterStake (admin attester : Address) (amount : Int) : Outcome Storage := do
  let storedAdmin ← unwrapOr storage.bond.admin (.contract .notInitialized)
  requireAuth env admin
  rejectIf (admin ≠ storedAdmin) (.contract .notAdmin)
  rejectIf (amount < 0) (.panicked "attester stake cannot be negative")
  return { storage with attesterStake := Function.update storage.attesterStake attester amount }

/-- An attester's authority for one attestation: a registration and the next nonce. -/
def authorizeAttester (attester : Address) (nonce : Nat) : Outcome Storage := do
  requireAuth env attester
  rejectIf (storage.attester attester = false) (.contract .unauthorizedAttester)
  consumeNonce storage attester nonce

/-- Attest for a subject.  The key that tells duplicates is read and not written. -/
def addAttestation (attester subject : Address) (attestationData : String) (nonce : Nat) :
    Outcome (Storage × Attestation) := do
  let storage ← authorizeAttester env storage attester nonce
  rejectIf (storage.dedup ⟨attester, subject, attestationData⟩ = true)
    (.contract .duplicateAttestation)
  let id := storage.attestationCounter
  let nextId ← checkedU64 (id + 1) (.contract .overflow)
  let weight := computeWeight storage attester
  validateWeight weight
  let attestation : Attestation :=
    { id
      verifier := attester
      identity := subject
      timestamp := env.timestamp
      weight
      attestationData
      revoked := false }
  let storage := { storage with
    attestationCounter := nextId
    attestation := Function.update storage.attestation id (some attestation)
    bond := indexAdded storage subject [id] }
  assertSelfConsistentForSubject storage subject
  return (storage, attestation)

/-- The sum of the weights of a batch, each of them checked. -/
def totalWeight : List AttestationBatchItem → Nat → Outcome Nat
  | [], total => return total
  | item :: rest, total => do
      let weight := computeWeight storage item.attester
      validateWeight weight
      let total ← checkedU64 (total + weight) (.contract .overflow)
      totalWeight rest total

/-- Store the attestations of a batch under the ids from `nextId` on, with their
keys, and return the id after them. -/
def storeBatch (subject : Address) :
    Storage → Nat → List AttestationBatchItem → Outcome (Storage × Nat × List Attestation)
  | storage, nextId, [] => return (storage, nextId, [])
  | storage, nextId, item :: rest => do
      let id := nextId
      let nextId ← checkedU64 (nextId + 1) (.contract .overflow)
      let attestation : Attestation :=
        { id
          verifier := item.attester
          identity := subject
          timestamp := env.timestamp
          weight := computeWeight storage item.attester
          attestationData := item.attestationData
          revoked := false }
      let stored := { storage with
        attestation := Function.update storage.attestation id (some attestation)
        dedup := Function.update storage.dedup (item.dedupKey subject) true }
      let (stored, nextId, added) ← storeBatch subject stored nextId rest
      return (stored, nextId, attestation :: added)

/-- Attest for a subject several times at once, by different attesters. -/
def addAttestationBatch (subject : Address) (items : List AttestationBatchItem) :
    Outcome (Storage × List Attestation) := do
  rejectIf (items = []) (.contract .emptyBatch)
  rejectIf (items.length > maxBatchAttestationSize) (.contract .batchTooLarge)
  rejectIf (¬(items.map AttestationBatchItem.attester).Nodup)
    (.panicked "duplicate attester in batch")
  let storage ← items.foldlM
    (fun storage item => authorizeAttester env storage item.attester item.nonce) storage
  rejectIf (∃ item ∈ items, storage.dedup (item.dedupKey subject) = true)
    (.contract .duplicateAttestation)
  let total ← totalWeight storage items 0
  rejectIf (total > storage.bond.weightConfig.maxWeight)
    (.contract .attestationWeightExceedsMax)
  let (storage, nextId, added) ← storeBatch env subject storage storage.attestationCounter items
  let storage := { storage with
    attestationCounter := nextId
    bond := indexAdded storage subject (added.map Attestation.id) }
  assertSelfConsistentForSubject storage subject
  return (storage, added)

/-- Revoke an attestation: its verifier alone may. -/
def revokeAttestation (attester : Address) (attestationId nonce : Nat) : Outcome Storage := do
  requireAuth env attester
  let storage ← consumeNonce storage attester nonce
  let attestation ← unwrapOr (storage.attestation attestationId)
    (.contract .attestationNotFound)
  rejectIf (attestation.verifier ≠ attester) (.contract .notOriginalAttester)
  rejectIf (attestation.revoked = true) (.contract .attestationAlreadyRevoked)
  let revoked := { attestation with revoked := true }
  let storage := { storage with
    attestation := Function.update storage.attestation attestationId (some revoked)
    dedup := Function.update storage.dedup attestation.dedupKey false
    bond := indexRevoked storage attestation.identity attestationId }
  assertSelfConsistentForSubject storage attestation.identity
  return storage

end EntryPoints

/-- The entry points that write attestations or decide about attesters. -/
inductive Call where
  | registerAttester (attester : Address)
  | unregisterAttester (attester : Address)
  | setAttesterStake (admin attester : Address) (amount : Int)
  | addAttestation (attester subject : Address) (attestationData : String) (nonce : Nat)
  | addAttestationBatch (subject : Address) (items : List AttestationBatchItem)
  | revokeAttestation (attester : Address) (attestationId nonce : Nat)

section Steps

/-- The entries after an entry point. -/
def invoke (env : Env) (storage : Storage) : Call → Outcome Storage
  | .registerAttester attester => registerAttester env storage attester
  | .unregisterAttester attester => unregisterAttester env storage attester
  | .setAttesterStake admin attester amount =>
      setAttesterStake env storage admin attester amount
  | .addAttestation attester subject attestationData nonce =>
      Prod.fst <$> addAttestation env storage attester subject attestationData nonce
  | .addAttestationBatch subject items =>
      Prod.fst <$> addAttestationBatch env storage subject items
  | .revokeAttestation attester attestationId nonce =>
      revokeAttestation env storage attester attestationId nonce

/-- What can happen next: a call for attestations, or any other call of the bond
contract. -/
inductive Act where
  | call (call : Call)
  | bond (call : CredenceBond.Call)

structure Label where
  env : Env
  act : Act

variable {Ledger : Type}

/-- The bond contract with its attestations, and the token ledger. -/
structure State (Ledger : Type) where
  storage : Storage
  ledger : Ledger

/-- The state of the bond part. -/
def State.bond (state : State Ledger) : CredenceBond.State Ledger :=
  ⟨state.storage.bond, state.ledger⟩

/-- The successful steps of the contract deployed at `self`. -/
inductive Step (ext : CredenceBond.Externals Ledger) (self : Address) :
    State Ledger → Label → State Ledger → Prop where
  | call {env : Env} {state : State Ledger} {call : Call} {after : Storage} :
      env.currentContractAddress = self → invoke env state.storage call = .ok after →
      Step ext self state ⟨env, .call call⟩ { state with storage := after }
  | bond {env : Env} {state : State Ledger} {call : CredenceBond.Call}
      {after : CredenceBond.State Ledger} :
      env.currentContractAddress = self →
      CredenceBond.invoke ext env state.bond call = .ok after →
      Step ext self state ⟨env, .bond call⟩
        { storage := { state.storage with bond := after.storage }
          ledger := after.ledger }

/-- The state after an act in the contract, where it succeeds. -/
def next (ext : CredenceBond.Externals Ledger) (self : Address) (state : State Ledger)
    (label : Label) : Option (State Ledger) :=
  if label.env.currentContractAddress = self then
    match label.act with
    | .call call => do
        let storage ← (invoke label.env state.storage call).toOption
        return { state with storage }
    | .bond call => do
        let after ← (CredenceBond.invoke ext label.env state.bond call).toOption
        return { storage := { state.storage with bond := after.storage }
                 ledger := after.ledger }
  else
    none

theorem step_of_next {ext : CredenceBond.Externals Ledger} {self : Address}
    {state after : State Ledger} {label : Label}
    (followed : next ext self state label = some after) : Step ext self state label after := by
  obtain ⟨env, act⟩ := label
  simp only [next] at followed
  split at followed
  · rename_i addressed
    cases act with
    | call call =>
        obtain ⟨storage, done, rest⟩ := Option.bind_eq_some_iff.mp followed
        cases rest
        exact .call addressed (Outcome.toOption_eq_some.mp done)
    | bond call =>
        obtain ⟨stored, done, rest⟩ := Option.bind_eq_some_iff.mp followed
        cases rest
        exact .bond addressed (Outcome.toOption_eq_some.mp done)
  · cases followed

end Steps

end Attestations
