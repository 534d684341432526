import CredenceContracts.Delegation.Pausable
import CredenceContracts.Library.Run

/-!
# The delegation contract

Owners delegate to others for a time and revoke; every such action consumes the
owner's nonce, whether the owner calls directly or a relayer presents a payload.
Every entry point that writes is here, in the order of its own checks; published
events are not recorded.
-/

namespace Delegations

open Soroban MachineInt
open Outcome (rejectIf unwrapOr)

inductive DelegationType where
  | attestation
  | management
  deriving DecidableEq, Repr

/-- The key of a stored delegation. -/
structure DelegationKey where
  owner : Address
  delegate : Address
  delegationType : DelegationType
  deriving DecidableEq, Repr

/-- A stored delegation record. -/
structure Delegation where
  owner : Address
  delegate : Address
  delegationType : DelegationType
  expiresAt : Nat
  revoked : Bool
  /-- Zero while not revoked. -/
  revokedAt : Nat
  deriving DecidableEq, Repr

/-- Which function a payload authorises. -/
inductive DomainTag where
  | delegate
  | revokeDelegation
  | revokeAttestation
  deriving DecidableEq, Repr

/-- The payload that an owner signs for a relayer. -/
structure DelegatedActionPayload where
  domain : DomainTag
  owner : Address
  target : Address
  contractId : Address
  nonce : Nat
  scheme : Nat
  deriving DecidableEq, Repr

inductive SchemeTag where
  | ed25519
  | secp256r1
  | mldsa44
  deriving DecidableEq, Repr

/-- The stored entries. -/
structure Storage where
  admin : Option Address
  pause : Pausable.Storage
  delegation : DelegationKey → Option Delegation
  nonce : Address → Nat
  verifier : Nat → Option Address
  revocationGracePeriod : Nat

/-- A contract in which nothing was stored yet. -/
def Storage.deployed : Storage where
  admin := none
  pause := .deployed
  delegation := fun _ => none
  nonce := fun _ => 0
  verifier := fun _ => none
  revocationGracePeriod := 0

/-- The most nonces that one invalidation may skip. -/
def maxNonceInvalidationSpan : Nat :=
  10000

/-- The longest lifetime of a new delegation: a year in seconds. -/
def maxDelegationDuration : Nat :=
  365 * 24 * 60 * 60

section Nonces

variable (storage : Storage) (identity : Address)

/-- Accept the stored nonce only, and advance it. -/
def consumeNonce (expectedNonce : Nat) : Outcome Storage := do
  let current := storage.nonce identity
  rejectIf (current ≠ expectedNonce) (.contract .invalidNonce)
  let next ← checkedU64 (current + 1) (.contract .overflow)
  return { storage with nonce := Function.update storage.nonce identity next }

/-- Advance the stored nonce by a bounded jump. -/
def advanceNonce (newNonce maxSpan : Nat) : Outcome Storage := do
  let current := storage.nonce identity
  rejectIf (newNonce ≤ current) (.contract .invalidNonce)
  rejectIf (newNonce < current) (.contract .underflow)
  rejectIf (newNonce - current > maxSpan) (.contract .invalidNonce)
  return { storage with nonce := Function.update storage.nonce identity newNonce }

end Nonces

section Payloads

def SchemeTag.tryFromU32 : Nat → Option SchemeTag
  | 0 => some .ed25519
  | 1 => some .secp256r1
  | 2 => some .mldsa44
  | _ => none

def SchemeTag.toU32 : SchemeTag → Nat
  | .ed25519 => 0
  | .secp256r1 => 1
  | .mldsa44 => 2

/-- The scheme of a payload; an unknown one is read as the default scheme. -/
def decodeSchemeSafe (payload : DelegatedActionPayload) : SchemeTag :=
  (SchemeTag.tryFromU32 payload.scheme).getD .ed25519

def verifyPayload (env : Env) (payload : DelegatedActionPayload) (expectedDomain : DomainTag)
    (callerOwner callerTarget : Address) : Outcome Unit := do
  rejectIf (payload.domain ≠ expectedDomain) (.contract .domainMismatch)
  rejectIf (payload.owner ≠ callerOwner) (.contract .ownerMismatch)
  rejectIf (payload.target ≠ callerTarget) (.contract .targetMismatch)
  rejectIf (payload.contractId ≠ env.currentContractAddress)
    (.contract .contractIdMismatch)

/-- What verifier contracts answer in one invocation, given the verifier, the
owner, the message and the signature. -/
abbrev VerifierCalls :=
  Address → Address → Bytes → Bytes → Option Bool

/-- Check a signature by its scheme; the first scheme is left to the
authorisation of the owner. -/
def verifyDelegatedSignature (verify : VerifierCalls) (storage : Storage) (owner : Address)
    (message signature : Bytes) (scheme : Nat) : Outcome Unit :=
  match SchemeTag.tryFromU32 scheme with
  | some .ed25519 => return ()
  | some .secp256r1 | some .mldsa44 => do
      let verifierAddr ← unwrapOr (storage.verifier scheme)
        (.contract .verifierNotRegistered)
      let ok ← calling (verify verifierAddr owner message signature)
      rejectIf (ok = false) (.contract .verificationFailed)
  | none => .error (.contract .unknownScheme)

end Payloads

section Records

variable (env : Env) (storage : Storage)

def validateDelegationExpiry (expiresAt : Nat) : Outcome Unit := do
  let now := env.timestamp
  rejectIf (expiresAt ≤ now) (.contract .expiryInPast)
  let maxExpiresAt := min (now + maxDelegationDuration) u64Max
  rejectIf (expiresAt > maxExpiresAt) (.contract .delegationExpiryTooLong)

/-- Create or replace a record. -/
def storeDelegation (owner delegate : Address) (delegationType : DelegationType)
    (expiresAt : Nat) : Storage × Delegation :=
  let stored : Delegation := {
    owner
    delegate
    delegationType
    expiresAt
    revoked := false
    revokedAt := 0 }
  ({ storage with
    delegation := Function.update storage.delegation ⟨owner, delegate, delegationType⟩
      (some stored) }, stored)

/-- An unexpired record may be revoked; an expired one within the grace period,
or at any time where none is configured. -/
def requireRevocationAllowed (stored : Delegation) (now : Nat) : Outcome Unit :=
  if now < stored.expiresAt then
    return ()
  else if storage.revocationGracePeriod = 0 then
    return ()
  else
    rejectIf (now > min (stored.expiresAt + storage.revocationGracePeriod) u64Max)
      (.contract .revocationGraceExpired)

def markDelegationRevoked (owner delegate : Address) (delegationType : DelegationType) :
    Outcome Storage := do
  let key : DelegationKey := ⟨owner, delegate, delegationType⟩
  let stored ← unwrapOr (storage.delegation key) (.contract .delegationNotFound)
  rejectIf (stored.revoked = true) (.contract .alreadyRevoked)
  let now := env.timestamp
  requireRevocationAllowed storage stored now
  let revoked := { stored with revoked := true, revokedAt := now }
  return { storage with
    delegation := Function.update storage.delegation key (some revoked) }

end Records

section EntryPoints

variable (env : Env) (storage : Storage)

/-- Set the admin, once. -/
def initializeDelegation (admin : Address) : Outcome Storage := do
  rejectIf (storage.admin.isSome = true) (.contract .alreadyInitialized)
  return { storage with admin := some admin, pause := storage.pause.reset }

def delegate (owner delegate : Address) (delegationType : DelegationType)
    (expiresAt nonce : Nat) : Outcome (Storage × Delegation) := do
  Pausable.requireNotPaused storage.pause
  requireAuth env owner
  validateDelegationExpiry env expiresAt
  let consumed ← consumeNonce storage owner nonce
  return storeDelegation consumed owner delegate delegationType expiresAt

def revokeDelegation (owner delegate : Address) (delegationType : DelegationType)
    (nonce : Nat) : Outcome Storage := do
  Pausable.requireNotPaused storage.pause
  requireAuth env owner
  let consumed ← consumeNonce storage owner nonce
  markDelegationRevoked env consumed owner delegate delegationType

def revokeAttestation (attester subject : Address) (nonce : Nat) : Outcome Storage := do
  Pausable.requireNotPaused storage.pause
  requireAuth env attester
  let consumed ← consumeNonce storage attester nonce
  markDelegationRevoked env consumed attester subject .attestation

/-- What the relayed entry points check before they consume the payload's nonce.
The message and the signature they hand to a verifier are both empty. -/
def verifyRelayed (verify : VerifierCalls) (expectedDomain : DomainTag)
    (owner target : Address) (payload : DelegatedActionPayload) : Outcome Unit := do
  Pausable.requireNotPaused storage.pause
  requireAuth env owner
  verifyPayload env payload expectedDomain owner target
  let scheme := decodeSchemeSafe payload
  verifyDelegatedSignature verify storage owner [] [] scheme.toU32

def executeDelegatedDelegate (verify : VerifierCalls) (owner delegate : Address)
    (delegationType : DelegationType) (expiresAt : Nat) (payload : DelegatedActionPayload) :
    Outcome (Storage × Delegation) := do
  verifyRelayed env storage verify .delegate owner delegate payload
  validateDelegationExpiry env expiresAt
  let consumed ← consumeNonce storage owner payload.nonce
  return storeDelegation consumed owner delegate delegationType expiresAt

def executeDelegatedRevoke (verify : VerifierCalls) (owner delegate : Address)
    (delegationType : DelegationType) (payload : DelegatedActionPayload) :
    Outcome Storage := do
  verifyRelayed env storage verify .revokeDelegation owner delegate payload
  let consumed ← consumeNonce storage owner payload.nonce
  markDelegationRevoked env consumed owner delegate delegationType

def executeDelegatedRevokeAttest (verify : VerifierCalls) (attester subject : Address)
    (payload : DelegatedActionPayload) : Outcome Storage := do
  verifyRelayed env storage verify .revokeAttestation attester subject payload
  let consumed ← consumeNonce storage attester payload.nonce
  markDelegationRevoked env consumed attester subject .attestation

/-- Remove an expired record; anyone may call it. -/
def cleanupExpired (owner delegate : Address) (delegationType : DelegationType) :
    Outcome Storage := do
  Pausable.requireNotPaused storage.pause
  let key : DelegationKey := ⟨owner, delegate, delegationType⟩
  let stored ← unwrapOr (storage.delegation key) (.contract .delegationNotFound)
  rejectIf (env.timestamp < stored.expiresAt) (.contract .delegationNotExpired)
  return { storage with delegation := Function.update storage.delegation key none }

def requireAdmin (admin : Address) : Outcome Unit := do
  let storedAdmin ← unwrapOr storage.admin (.contract .notInitialized)
  rejectIf (admin ≠ storedAdmin) (.contract .notAdmin)

def setRevocationGracePeriod (admin : Address) (graceSeconds : Nat) : Outcome Storage := do
  Pausable.requireNotPaused storage.pause
  requireAuth env admin
  requireAdmin storage admin
  return { storage with revocationGracePeriod := graceSeconds }

def invalidateNonceRange (identity : Address) (newNonce : Nat) : Outcome Storage := do
  Pausable.requireNotPaused storage.pause
  requireAuth env identity
  advanceNonce storage identity newNonce maxNonceInvalidationSpan

def registerVerifier (admin : Address) (scheme : Nat) (verifierId : Address) :
    Outcome Storage := do
  requireAuth env admin
  requireAdmin storage admin
  rejectIf (¬scheme ≤ 2) (.contract .unknownScheme)
  return { storage with verifier := Function.update storage.verifier scheme (some verifierId) }

end EntryPoints

/-- The entry points that write. -/
inductive Call where
  | initializeDelegation (admin : Address)
  | delegate (owner delegate : Address) (delegationType : DelegationType)
      (expiresAt nonce : Nat)
  | revokeDelegation (owner delegate : Address) (delegationType : DelegationType)
      (nonce : Nat)
  | revokeAttestation (attester subject : Address) (nonce : Nat)
  | executeDelegatedDelegate (owner delegate : Address) (delegationType : DelegationType)
      (expiresAt : Nat) (payload : DelegatedActionPayload)
  | executeDelegatedRevoke (owner delegate : Address) (delegationType : DelegationType)
      (payload : DelegatedActionPayload)
  | executeDelegatedRevokeAttest (attester subject : Address)
      (payload : DelegatedActionPayload)
  | cleanupExpired (owner delegate : Address) (delegationType : DelegationType)
  | setRevocationGracePeriod (admin : Address) (graceSeconds : Nat)
  | invalidateNonceRange (identity : Address) (newNonce : Nat)
  | registerVerifier (admin : Address) (scheme : Nat) (verifierId : Address)
  | pausable (call : Pausable.Call)

/-- One call, the environment it is made in and the answers of the verifier
contracts it asks. -/
structure Label where
  env : Env
  verify : VerifierCalls
  call : Call

section Steps

variable (sha256 : Bytes → BytesN 32)

/-- The entries after an entry point. -/
def invoke (env : Env) (verify : VerifierCalls) (storage : Storage) :
    Call → Outcome Storage
  | .initializeDelegation admin => initializeDelegation storage admin
  | .delegate owner target delegationType expiresAt nonce =>
      Prod.fst <$> delegate env storage owner target delegationType expiresAt nonce
  | .revokeDelegation owner target delegationType nonce =>
      revokeDelegation env storage owner target delegationType nonce
  | .revokeAttestation attester subject nonce =>
      revokeAttestation env storage attester subject nonce
  | .executeDelegatedDelegate owner target delegationType expiresAt payload =>
      Prod.fst <$> executeDelegatedDelegate env storage verify owner target delegationType
        expiresAt payload
  | .executeDelegatedRevoke owner target delegationType payload =>
      executeDelegatedRevoke env storage verify owner target delegationType payload
  | .executeDelegatedRevokeAttest attester subject payload =>
      executeDelegatedRevokeAttest env storage verify attester subject payload
  | .cleanupExpired owner target delegationType =>
      cleanupExpired env storage owner target delegationType
  | .setRevocationGracePeriod admin graceSeconds =>
      setRevocationGracePeriod env storage admin graceSeconds
  | .invalidateNonceRange identity newNonce =>
      invalidateNonceRange env storage identity newNonce
  | .registerVerifier admin scheme verifierId =>
      registerVerifier env storage admin scheme verifierId
  | .pausable call => do
      let pause ← invokePausable sha256 env storage.admin storage.pause call
      return { storage with pause }

/-- The successful steps of the contract deployed at `self`; a failing call has no
effect and is no step. -/
def Step (self : Address) (storage : Storage) (label : Label) (after : Storage) : Prop :=
  label.env.currentContractAddress = self ∧
    invoke sha256 label.env label.verify storage label.call = .ok after

/-- The entries after a step, where there is one. -/
def next (self : Address) (storage : Storage) (label : Label) : Option Storage :=
  if label.env.currentContractAddress = self then
    (invoke sha256 label.env label.verify storage label.call).toOption
  else
    none

theorem step_of_next {sha256 : Bytes → BytesN 32} {self : Address} {storage after : Storage}
    {label : Label} (followed : next sha256 self storage label = some after) :
    Step sha256 self storage label after := by
  unfold next at followed
  split at followed
  · rename_i addressed
    exact ⟨addressed, Outcome.toOption_eq_some.mp followed⟩
  · cases followed

end Steps

end Delegations
