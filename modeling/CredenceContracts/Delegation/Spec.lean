import CredenceContracts.Delegation.Contract

/-!
# What each delegation operation does

Every operation either consumes one nonce of one owner and rewrites at most one
record, or advances one nonce by an invalidation, or leaves nonces alone.
-/

namespace Delegations

open Soroban MachineInt

variable {env : Env} {verify : VerifierCalls} {storage after : Storage}

theorem consumeNonce_eq_ok {identity : Address} {nonce : Nat} :
    consumeNonce storage identity nonce = .ok after ↔
      storage.nonce identity = nonce ∧ nonce + 1 < 2 ^ 64 ∧
        after = { storage with
          nonce := Function.update storage.nonce identity (nonce + 1) } := by
  simp only [consumeNonce, Outcome.bind_eq_ok, Outcome.rejectIf_eq_ok, checkedU64_eq_ok,
    Outcome.pure_eq_ok, not_not]
  grind

theorem advanceNonce_eq_ok {identity : Address} {newNonce maxSpan : Nat} :
    advanceNonce storage identity newNonce maxSpan = .ok after ↔
      storage.nonce identity < newNonce ∧ newNonce - storage.nonce identity ≤ maxSpan ∧
        after = { storage with
          nonce := Function.update storage.nonce identity newNonce } := by
  simp only [advanceNonce, Outcome.bind_eq_ok, Outcome.rejectIf_eq_ok, Outcome.pure_eq_ok]
  grind

theorem verifyPayload_eq_ok {payload : DelegatedActionPayload} {domain : DomainTag}
    {owner target : Address} {result : Unit} :
    verifyPayload env payload domain owner target = .ok result ↔
      payload.domain = domain ∧ payload.owner = owner ∧ payload.target = target ∧
        payload.contractId = env.currentContractAddress := by
  simp [verifyPayload]

theorem verifyRelayed_eq_ok {payload : DelegatedActionPayload} {domain : DomainTag}
    {owner target : Address} {result : Unit} :
    verifyRelayed env storage verify domain owner target payload = .ok result ↔
      storage.pause.paused = false ∧ env.authorized owner = true ∧
        payload.domain = domain ∧ payload.owner = owner ∧ payload.target = target ∧
          payload.contractId = env.currentContractAddress ∧
            verifyDelegatedSignature verify storage owner [] []
              (decodeSchemeSafe payload).toU32 = .ok () := by
  simp [verifyRelayed, verifyPayload_eq_ok, and_assoc]

/-- A revocation rewrites the one record it names. -/
theorem markDelegationRevoked_eq_ok {owner delegate : Address}
    {delegationType : DelegationType} :
    markDelegationRevoked env storage owner delegate delegationType = .ok after ↔
      ∃ stored, storage.delegation ⟨owner, delegate, delegationType⟩ = some stored ∧
        stored.revoked = false ∧
          requireRevocationAllowed storage stored env.timestamp = .ok () ∧
            after = { storage with
              delegation := Function.update storage.delegation
                ⟨owner, delegate, delegationType⟩
                (some { stored with revoked := true, revokedAt := env.timestamp }) } := by
  simp [markDelegationRevoked]

/-- The owner and the nonce that a call consumes. -/
def Call.consumption : Call → Option (Address × Nat)
  | .delegate owner _ _ _ nonce => some (owner, nonce)
  | .revokeDelegation owner _ _ nonce => some (owner, nonce)
  | .revokeAttestation attester _ nonce => some (attester, nonce)
  | .executeDelegatedDelegate owner _ _ _ payload => some (owner, payload.nonce)
  | .executeDelegatedRevoke owner _ _ payload => some (owner, payload.nonce)
  | .executeDelegatedRevokeAttest attester _ payload => some (attester, payload.nonce)
  | _ => none

/-- The entries after an owner's nonce was consumed and one of its records
rewritten. -/
def Storage.acted (storage : Storage) (key : DelegationKey) (nonce : Nat)
    (record : Delegation) : Storage :=
  { storage with
    nonce := Function.update storage.nonce key.owner (nonce + 1)
    delegation := Function.update storage.delegation key (some record) }

/-- How a step changes nonces and records. -/
inductive NonceChange (storage : Storage) : Call → Storage → Prop where
  | kept {call : Call} {after : Storage} :
      call.consumption = none → (∀ identity newNonce,
        call ≠ .invalidateNonceRange identity newNonce) →
      after.nonce = storage.nonce → NonceChange storage call after
  | consumed {call : Call} {key : DelegationKey} {nonce : Nat} {record : Delegation} :
      call.consumption = some (key.owner, nonce) → storage.nonce key.owner = nonce →
      NonceChange storage call (storage.acted key nonce record)
  | invalidated {identity : Address} {newNonce : Nat} :
      storage.nonce identity < newNonce →
      NonceChange storage (.invalidateNonceRange identity newNonce)
        { storage with nonce := Function.update storage.nonce identity newNonce }

/-- A record as it is first stored. -/
def Delegation.fresh (key : DelegationKey) (expiresAt : Nat) : Delegation where
  owner := key.owner
  delegate := key.delegate
  delegationType := key.delegationType
  expiresAt
  revoked := false
  revokedAt := 0

/-- An owner consumed a nonce and stored a fresh record. -/
structure Granted (env : Env) (storage : Storage) (key : DelegationKey) (expiresAt nonce : Nat)
    (record : Delegation) (after : Storage) : Prop where
  signed : env.authorized key.owner = true
  future : env.timestamp < expiresAt
  current : storage.nonce key.owner = nonce
  fresh : record = .fresh key expiresAt
  acted : after = storage.acted key nonce record

/-- An owner consumed a nonce and marked a standing record revoked. -/
structure Revoked (env : Env) (storage : Storage) (key : DelegationKey) (nonce : Nat)
    (stored : Delegation) (after : Storage) : Prop where
  signed : env.authorized key.owner = true
  current : storage.nonce key.owner = nonce
  found : storage.delegation key = some stored
  standing : stored.revoked = false
  acted : after = storage.acted key nonce
    { stored with revoked := true, revokedAt := env.timestamp }

/-- A relayed call accepted its payload under its own domain, owner, target and
contract. -/
structure Matches (env : Env) (domain : DomainTag) (owner target : Address)
    (payload : DelegatedActionPayload) : Prop where
  domain : payload.domain = domain
  owner : payload.owner = owner
  target : payload.target = target
  contract : payload.contractId = env.currentContractAddress

section Actions

variable {owner target : Address} {delegationType : DelegationType} {expiresAt nonce : Nat}
variable {payload : DelegatedActionPayload} {record : Delegation}

@[simp] theorem validateDelegationExpiry_eq_ok {result : Unit} :
    validateDelegationExpiry env expiresAt = .ok result ↔
      env.timestamp < expiresAt ∧
        expiresAt ≤ min (env.timestamp + maxDelegationDuration) u64Max := by
  simp [validateDelegationExpiry]

@[simp] theorem requireAdmin_eq_ok {admin : Address} {result : Unit} :
    requireAdmin storage admin = .ok result ↔ storage.admin = some admin := by
  simp [requireAdmin]

theorem verified_ok {domain : DomainTag} {result : Unit}
    (verified : verifyRelayed env storage verify domain owner target payload = .ok result) :
    env.authorized owner = true ∧ Matches env domain owner target payload := by
  obtain ⟨-, signed, domain, owner, target, contract, -⟩ := verifyRelayed_eq_ok.mp verified
  exact ⟨signed, domain, owner, target, contract⟩

/-- A consumed nonce followed by a record stored grants it. -/
theorem granted_of_stored {consumed : Storage} (signed : env.authorized owner = true)
    (future : env.timestamp < expiresAt)
    (used : consumeNonce storage owner nonce = .ok consumed)
    (stored : (after, record) =
      storeDelegation consumed owner target delegationType expiresAt) :
    Granted env storage ⟨owner, target, delegationType⟩ expiresAt nonce record after := by
  obtain ⟨current, -, rfl⟩ := consumeNonce_eq_ok.mp used
  simp only [storeDelegation, Prod.mk.injEq] at stored
  obtain ⟨rfl, rfl⟩ := stored
  exact ⟨signed, future, current, rfl, rfl⟩

/-- A consumed nonce followed by a revocation revokes the record. -/
theorem revoked_of_marked {consumed : Storage} (signed : env.authorized owner = true)
    (used : consumeNonce storage owner nonce = .ok consumed)
    (marked : markDelegationRevoked env consumed owner target delegationType = .ok after) :
    ∃ stored, Revoked env storage ⟨owner, target, delegationType⟩ nonce stored after := by
  obtain ⟨current, -, rfl⟩ := consumeNonce_eq_ok.mp used
  obtain ⟨stored, found, standing, -, rfl⟩ := markDelegationRevoked_eq_ok.mp marked
  exact ⟨stored, signed, current, found, standing, rfl⟩

theorem delegate_ok
    (accepted : delegate env storage owner target delegationType expiresAt nonce =
      .ok (after, record)) :
    Granted env storage ⟨owner, target, delegationType⟩ expiresAt nonce record after := by
  simp only [delegate, Outcome.bind_eq_ok, Outcome.pure_eq_ok, requireAuth_eq_ok,
    validateDelegationExpiry_eq_ok] at accepted
  obtain ⟨_, -, _, signed, _, ⟨future, -⟩, consumed, used, stored⟩ := accepted
  exact granted_of_stored signed future used stored

theorem executeDelegatedDelegate_ok
    (accepted : executeDelegatedDelegate env storage verify owner target delegationType
      expiresAt payload = .ok (after, record)) :
    Matches env .delegate owner target payload ∧
      Granted env storage ⟨owner, target, delegationType⟩ expiresAt payload.nonce record
        after := by
  simp only [executeDelegatedDelegate, Outcome.bind_eq_ok, Outcome.pure_eq_ok,
    validateDelegationExpiry_eq_ok] at accepted
  obtain ⟨_, verified, _, ⟨future, -⟩, consumed, used, stored⟩ := accepted
  obtain ⟨signed, same⟩ := verified_ok verified
  exact ⟨same, granted_of_stored signed future used stored⟩

theorem revokeDelegation_ok
    (accepted : revokeDelegation env storage owner target delegationType nonce =
      .ok after) :
    ∃ stored, Revoked env storage ⟨owner, target, delegationType⟩ nonce stored after := by
  simp only [revokeDelegation, Outcome.bind_eq_ok, requireAuth_eq_ok] at accepted
  obtain ⟨_, -, _, signed, consumed, used, marked⟩ := accepted
  exact revoked_of_marked signed used marked

theorem revokeAttestation_ok
    (accepted : revokeAttestation env storage owner target nonce = .ok after) :
    ∃ stored, Revoked env storage ⟨owner, target, .attestation⟩ nonce stored after := by
  simp only [revokeAttestation, Outcome.bind_eq_ok, requireAuth_eq_ok] at accepted
  obtain ⟨_, -, _, signed, consumed, used, marked⟩ := accepted
  exact revoked_of_marked signed used marked

theorem executeDelegatedRevoke_ok
    (accepted : executeDelegatedRevoke env storage verify owner target delegationType
      payload = .ok after) :
    Matches env .revokeDelegation owner target payload ∧
      ∃ stored, Revoked env storage ⟨owner, target, delegationType⟩ payload.nonce stored
        after := by
  simp only [executeDelegatedRevoke, Outcome.bind_eq_ok] at accepted
  obtain ⟨_, verified, consumed, used, marked⟩ := accepted
  obtain ⟨signed, same⟩ := verified_ok verified
  exact ⟨same, revoked_of_marked signed used marked⟩

theorem executeDelegatedRevokeAttest_ok
    (accepted : executeDelegatedRevokeAttest env storage verify owner target payload =
      .ok after) :
    Matches env .revokeAttestation owner target payload ∧
      ∃ stored, Revoked env storage ⟨owner, target, .attestation⟩ payload.nonce stored
        after := by
  simp only [executeDelegatedRevokeAttest, Outcome.bind_eq_ok] at accepted
  obtain ⟨_, verified, consumed, used, marked⟩ := accepted
  obtain ⟨signed, same⟩ := verified_ok verified
  exact ⟨same, revoked_of_marked signed used marked⟩

theorem cleanupExpired_ok
    (accepted : cleanupExpired env storage owner target delegationType = .ok after) :
    ∃ stored, storage.delegation ⟨owner, target, delegationType⟩ = some stored ∧
      stored.expiresAt ≤ env.timestamp ∧ after = { storage with
        delegation :=
          Function.update storage.delegation ⟨owner, target, delegationType⟩ none } := by
  simp only [cleanupExpired, Outcome.bind_eq_ok, Outcome.unwrapOr_eq_ok,
    Outcome.rejectIf_eq_ok, Outcome.pure_eq_ok, not_lt] at accepted
  obtain ⟨_, -, stored, found, _, expired, rfl⟩ := accepted
  exact ⟨stored, found, expired, rfl⟩

end Actions

section Settings

variable {admin : Address}

theorem initializeDelegation_ok
    (accepted : initializeDelegation storage admin = .ok after) :
    storage.admin = none ∧
      after = { storage with admin := some admin, pause := storage.pause.reset } := by
  simp only [initializeDelegation, Outcome.bind_eq_ok, Outcome.rejectIf_eq_ok,
    Outcome.pure_eq_ok] at accepted
  obtain ⟨_, absent, rfl⟩ := accepted
  exact ⟨by simpa using absent, rfl⟩

theorem setRevocationGracePeriod_ok {graceSeconds : Nat}
    (accepted : setRevocationGracePeriod env storage admin graceSeconds = .ok after) :
    env.authorized admin = true ∧ storage.admin = some admin ∧
      after = { storage with revocationGracePeriod := graceSeconds } := by
  simp only [setRevocationGracePeriod, Outcome.bind_eq_ok, requireAuth_eq_ok,
    requireAdmin_eq_ok, Outcome.pure_eq_ok] at accepted
  obtain ⟨_, -, _, signed, _, named, rfl⟩ := accepted
  exact ⟨signed, named, rfl⟩

theorem invalidateNonceRange_ok {identity : Address} {newNonce : Nat}
    (accepted : invalidateNonceRange env storage identity newNonce = .ok after) :
    env.authorized identity = true ∧ storage.nonce identity < newNonce ∧
      after = { storage with nonce := Function.update storage.nonce identity newNonce } := by
  simp only [invalidateNonceRange, Outcome.bind_eq_ok, requireAuth_eq_ok] at accepted
  obtain ⟨_, -, _, signed, advanced⟩ := accepted
  obtain ⟨above, -, rfl⟩ := advanceNonce_eq_ok.mp advanced
  exact ⟨signed, above, rfl⟩

theorem registerVerifier_ok {scheme : Nat} {verifierId : Address}
    (accepted : registerVerifier env storage admin scheme verifierId = .ok after) :
    env.authorized admin = true ∧ storage.admin = some admin ∧
      after = { storage with
        verifier := Function.update storage.verifier scheme (some verifierId) } := by
  simp only [registerVerifier, Outcome.bind_eq_ok, requireAuth_eq_ok, requireAdmin_eq_ok,
    Outcome.pure_eq_ok] at accepted
  obtain ⟨_, signed, _, named, _, -, rfl⟩ := accepted
  exact ⟨signed, named, rfl⟩

end Settings

section Steps

variable {sha256 : Bytes → BytesN 32} {self : Address} {label : Label}

/-- Every step consumes one nonce, invalidates a range of nonces or leaves them
alone. -/
theorem step_nonces (stepped : Step sha256 self storage label after) :
    NonceChange storage label.call after := by
  obtain ⟨env, verify, call⟩ := label
  obtain ⟨addressed, accepted⟩ := stepped
  cases call with
  | initializeDelegation admin =>
      obtain ⟨-, rfl⟩ := initializeDelegation_ok accepted
      exact .kept rfl (by simp) rfl
  | delegate owner target delegationType expiresAt nonce =>
      obtain ⟨⟨_, record⟩, delegated, rfl⟩ := Outcome.map_eq_ok.mp accepted
      obtain ⟨-, -, current, -, rfl⟩ := delegate_ok delegated
      exact .consumed rfl current
  | revokeDelegation owner target delegationType nonce =>
      obtain ⟨_, -, current, -, -, rfl⟩ := revokeDelegation_ok accepted
      exact .consumed rfl current
  | revokeAttestation attester subject nonce =>
      obtain ⟨_, -, current, -, -, rfl⟩ := revokeAttestation_ok accepted
      exact .consumed rfl current
  | executeDelegatedDelegate owner target delegationType expiresAt payload =>
      obtain ⟨⟨_, record⟩, delegated, rfl⟩ := Outcome.map_eq_ok.mp accepted
      obtain ⟨-, -, -, current, -, rfl⟩ := executeDelegatedDelegate_ok delegated
      exact .consumed rfl current
  | executeDelegatedRevoke owner target delegationType payload =>
      obtain ⟨-, _, -, current, -, -, rfl⟩ := executeDelegatedRevoke_ok accepted
      exact .consumed rfl current
  | executeDelegatedRevokeAttest attester subject payload =>
      obtain ⟨-, _, -, current, -, -, rfl⟩ := executeDelegatedRevokeAttest_ok accepted
      exact .consumed rfl current
  | cleanupExpired owner target delegationType =>
      obtain ⟨_, -, -, rfl⟩ := cleanupExpired_ok accepted
      exact .kept rfl (by simp) rfl
  | setRevocationGracePeriod admin graceSeconds =>
      obtain ⟨-, -, rfl⟩ := setRevocationGracePeriod_ok accepted
      exact .kept rfl (by simp) rfl
  | invalidateNonceRange identity newNonce =>
      obtain ⟨-, above, rfl⟩ := invalidateNonceRange_ok accepted
      exact .invalidated above
  | registerVerifier admin scheme verifierId =>
      obtain ⟨-, -, rfl⟩ := registerVerifier_ok accepted
      exact .kept rfl (by simp) rfl
  | pausable call =>
      simp only [invoke, Outcome.bind_eq_ok, Outcome.pure_eq_ok] at accepted
      obtain ⟨_, _, rfl⟩ := accepted
      exact .kept rfl (by simp) rfl

end Steps

end Delegations
