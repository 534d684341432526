import CredenceContracts.Delegation.Spec

/-!
# Records and their views

Three views read a stored delegation, each with its own comparison of the expiry.
Of the steps, two kinds of calls rewrite a record and one removes it.
-/

namespace Delegations

open Soroban MachineInt
open Outcome (rejectIf unwrapOr)

section Views

inductive DelegationStatus where
  | active
  /-- Informational: a delegate has no authority then. -/
  | inGrace
  | expired
  | revoked
  deriving DecidableEq, Repr

inductive AttestationStatus where
  | active
  | inGrace
  | expired
  | revoked
  | notFound
  deriving DecidableEq, Repr

/-- What indexers read of a record. -/
structure DelegationSummary where
  isValid : Bool
  status : DelegationStatus
  timeToExpiry : Nat
  delegationType : DelegationType
  revokedAt : Nat
  scheme : Nat
  deriving DecidableEq, Repr

def delegationStatus (stored : Delegation) (now grace : Nat) : DelegationStatus :=
  if stored.revoked then
    .revoked
  else if now < stored.expiresAt then
    .active
  else if 0 < grace ∧ now ≤ min (stored.expiresAt + grace) u64Max then
    .inGrace
  else
    .expired

variable (env : Env) (storage : Storage)

def getDelegation (owner delegate : Address) (delegationType : DelegationType) :
    Outcome Delegation :=
  unwrapOr (storage.delegation ⟨owner, delegate, delegationType⟩)
    (.contract .delegationNotFound)

def isValidDelegate (owner delegate : Address) (delegationType : DelegationType) : Bool :=
  match storage.delegation ⟨owner, delegate, delegationType⟩ with
  | some stored => !stored.revoked && decide (stored.expiresAt > env.timestamp)
  | none => false

/-- The scheme of a summary is a placeholder. -/
def getDelegationSummary (owner delegate : Address) (delegationType : DelegationType) :
    Outcome DelegationSummary := do
  let stored ← getDelegation storage owner delegate delegationType
  let now := env.timestamp
  return {
    isValid := !stored.revoked && decide (stored.expiresAt > now)
    status := delegationStatus stored now storage.revocationGracePeriod
    timeToExpiry := stored.expiresAt - now
    delegationType := stored.delegationType
    revokedAt := stored.revokedAt
    scheme := 0 }

def getAttestationStatus (attester subject : Address) : AttestationStatus :=
  match storage.delegation ⟨attester, subject, .attestation⟩ with
  | some stored =>
      match delegationStatus stored env.timestamp storage.revocationGracePeriod with
      | .active => .active
      | .inGrace => .inGrace
      | .expired => .expired
      | .revoked => .revoked
  | none => .notFound

end Views

section Reading

variable {stored : Delegation} {now grace : Nat}

theorem delegationStatus_active_iff :
    delegationStatus stored now grace = .active ↔
      stored.revoked = false ∧ now < stored.expiresAt := by
  unfold delegationStatus
  cases stored.revoked with
  | true => simp
  | false =>
      by_cases standing : now < stored.expiresAt
      · simp [standing]
      · simp only [standing, if_false, Bool.false_eq_true, and_false, iff_false]
        split <;> simp

theorem delegationStatus_revoked_iff :
    delegationStatus stored now grace = .revoked ↔ stored.revoked = true := by
  unfold delegationStatus
  cases stored.revoked with
  | true => simp
  | false =>
      simp only [Bool.false_eq_true, if_false, iff_false]
      split
      · simp
      · split <;> simp

end Reading

section Changes

/-- The record that a call creates or replaces, and its new expiry. -/
def Call.grants : Call → Option (DelegationKey × Nat)
  | .delegate owner target delegationType expiresAt _ =>
      some (⟨owner, target, delegationType⟩, expiresAt)
  | .executeDelegatedDelegate owner target delegationType expiresAt _ =>
      some (⟨owner, target, delegationType⟩, expiresAt)
  | _ => none

/-- The record that a call revokes. -/
def Call.revokes : Call → Option DelegationKey
  | .revokeDelegation owner target delegationType _ => some ⟨owner, target, delegationType⟩
  | .revokeAttestation attester subject _ => some ⟨attester, subject, .attestation⟩
  | .executeDelegatedRevoke owner target delegationType _ =>
      some ⟨owner, target, delegationType⟩
  | .executeDelegatedRevokeAttest attester subject _ => some ⟨attester, subject, .attestation⟩
  | _ => none

/-- The record that a call removes. -/
def Call.cleans : Call → Option DelegationKey
  | .cleanupExpired owner target delegationType => some ⟨owner, target, delegationType⟩
  | _ => none

theorem Call.only_cleans {call : Call} (cleans : call.cleans.isSome = true) :
    call.grants = none ∧ call.revokes = none := by
  cases call with
  | cleanupExpired => exact ⟨rfl, rfl⟩
  | _ => cases cleans

/-- How a step changes the records. -/
inductive RecordChange (env : Env) (storage : Storage) : Call → Storage → Prop where
  | granted {call : Call} {key : DelegationKey} {expiresAt : Nat} {after : Storage} :
      call.grants = some (key, expiresAt) → call.revokes = none →
      env.authorized key.owner = true → env.timestamp < expiresAt →
      after.delegation =
        Function.update storage.delegation key (some (.fresh key expiresAt)) →
      RecordChange env storage call after
  | revoked {call : Call} {key : DelegationKey} {stored : Delegation} {after : Storage} :
      call.revokes = some key → call.grants = none → env.authorized key.owner = true →
      storage.delegation key = some stored → stored.revoked = false →
      after.delegation = Function.update storage.delegation key
        (some { stored with revoked := true, revokedAt := env.timestamp }) →
      RecordChange env storage call after
  | cleaned {call : Call} {key : DelegationKey} {stored : Delegation} {after : Storage} :
      call.cleans = some key → call.grants = none → call.revokes = none →
      storage.delegation key = some stored → stored.expiresAt ≤ env.timestamp →
      after.delegation = Function.update storage.delegation key none →
      RecordChange env storage call after
  | kept {call : Call} {after : Storage} :
      call.grants = none → call.revokes = none → call.cleans = none →
      after.delegation = storage.delegation → RecordChange env storage call after

variable {env : Env} {storage after : Storage} {call : Call} {key : DelegationKey}
variable {expiresAt nonce : Nat} {record stored : Delegation}

theorem Granted.change (granted : Granted env storage key expiresAt nonce record after)
    (grants : call.grants = some (key, expiresAt)) (other : call.revokes = none) :
    RecordChange env storage call after := by
  obtain ⟨signed, future, -, rfl, rfl⟩ := granted
  exact .granted grants other signed future rfl

theorem Revoked.change (revoked : Revoked env storage key nonce stored after)
    (revokes : call.revokes = some key) (other : call.grants = none) :
    RecordChange env storage call after := by
  obtain ⟨signed, -, found, standing, rfl⟩ := revoked
  exact .revoked revokes other signed found standing rfl

variable {sha256 : Bytes → BytesN 32} {self : Address} {label : Label}

theorem step_records (stepped : Step sha256 self storage label after) :
    RecordChange label.env storage label.call after := by
  obtain ⟨env, verify, call⟩ := label
  obtain ⟨-, accepted⟩ := stepped
  cases call with
  | delegate owner target delegationType expiresAt nonce =>
      obtain ⟨⟨_, record⟩, delegated, rfl⟩ := Outcome.map_eq_ok.mp accepted
      exact (delegate_ok delegated).change rfl rfl
  | executeDelegatedDelegate owner target delegationType expiresAt payload =>
      obtain ⟨⟨_, record⟩, delegated, rfl⟩ := Outcome.map_eq_ok.mp accepted
      exact (executeDelegatedDelegate_ok delegated).2.change rfl rfl
  | revokeDelegation owner target delegationType nonce =>
      obtain ⟨stored, revoked⟩ := revokeDelegation_ok accepted
      exact revoked.change rfl rfl
  | revokeAttestation attester subject nonce =>
      obtain ⟨stored, revoked⟩ := revokeAttestation_ok accepted
      exact revoked.change rfl rfl
  | executeDelegatedRevoke owner target delegationType payload =>
      obtain ⟨-, stored, revoked⟩ := executeDelegatedRevoke_ok accepted
      exact revoked.change rfl rfl
  | executeDelegatedRevokeAttest attester subject payload =>
      obtain ⟨-, stored, revoked⟩ := executeDelegatedRevokeAttest_ok accepted
      exact revoked.change rfl rfl
  | cleanupExpired owner target delegationType =>
      obtain ⟨stored, found, expired, rfl⟩ := cleanupExpired_ok accepted
      exact .cleaned rfl rfl rfl found expired rfl
  | initializeDelegation admin =>
      obtain ⟨-, rfl⟩ := initializeDelegation_ok accepted
      exact .kept rfl rfl rfl rfl
  | setRevocationGracePeriod admin graceSeconds =>
      obtain ⟨-, -, rfl⟩ := setRevocationGracePeriod_ok accepted
      exact .kept rfl rfl rfl rfl
  | invalidateNonceRange identity newNonce =>
      obtain ⟨-, -, rfl⟩ := invalidateNonceRange_ok accepted
      exact .kept rfl rfl rfl rfl
  | registerVerifier admin scheme verifierId =>
      obtain ⟨-, -, rfl⟩ := registerVerifier_ok accepted
      exact .kept rfl rfl rfl rfl
  | pausable call =>
      simp only [invoke, Outcome.bind_eq_ok, Outcome.pure_eq_ok] at accepted
      obtain ⟨_, _, rfl⟩ := accepted
      exact .kept rfl rfl rfl rfl

end Changes

end Delegations
