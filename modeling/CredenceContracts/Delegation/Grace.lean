import CredenceContracts.Delegation.Records
import CredenceContracts.Delegation.Replay

/-!
# Revoking within the grace period

The owner of a delegation may revoke it for a while after its expiry.  No other
account's calls change the record, the nonce or the period; only the removal of
expired records, open to everyone from the expiry on, takes the record away.
-/

namespace Delegations

open Soroban MachineInt Transition

section Signers

/-- The account that a call is to be authorised by. -/
def Call.signer : Call → Option Address
  | .delegate owner _ _ _ _ => some owner
  | .revokeDelegation owner _ _ _ => some owner
  | .revokeAttestation attester _ _ => some attester
  | .executeDelegatedDelegate owner _ _ _ _ => some owner
  | .executeDelegatedRevoke owner _ _ _ => some owner
  | .executeDelegatedRevokeAttest attester _ _ => some attester
  | .setRevocationGracePeriod admin _ => some admin
  | .invalidateNonceRange identity _ => some identity
  | .registerVerifier admin _ _ => some admin
  | .initializeDelegation _ | .cleanupExpired .. | .pausable _ => none

variable {sha256 : Bytes → BytesN 32} {self : Address} {storage after : Storage}
variable {label : Label}

theorem signer_of_consumption {call : Call} {owner : Address} {nonce : Nat}
    (consumes : call.consumption = some (owner, nonce)) : call.signer = some owner := by
  cases call with
  | delegate | revokeDelegation | revokeAttestation | executeDelegatedDelegate
  | executeDelegatedRevoke | executeDelegatedRevokeAttest =>
      simp only [Call.consumption, Option.some.injEq, Prod.mk.injEq] at consumes
      simp [Call.signer, consumes.1]
  | _ => cases consumes

theorem authorized_of_step {signer : Address} (stepped : Step sha256 self storage label after)
    (signs : label.call.signer = some signer) : label.env.authorized signer = true := by
  obtain ⟨env, verify, call⟩ := label
  obtain ⟨-, accepted⟩ := stepped
  cases call with
  | initializeDelegation | cleanupExpired | pausable => cases signs
  | delegate =>
      obtain rfl := Option.some.inj signs
      obtain ⟨⟨_, record⟩, delegated, rfl⟩ := Outcome.map_eq_ok.mp accepted
      exact (delegate_ok delegated).signed
  | executeDelegatedDelegate =>
      obtain rfl := Option.some.inj signs
      obtain ⟨⟨_, record⟩, delegated, rfl⟩ := Outcome.map_eq_ok.mp accepted
      exact (executeDelegatedDelegate_ok delegated).2.signed
  | revokeDelegation =>
      obtain rfl := Option.some.inj signs
      obtain ⟨stored, revoked⟩ := revokeDelegation_ok accepted
      exact revoked.signed
  | revokeAttestation =>
      obtain rfl := Option.some.inj signs
      obtain ⟨stored, revoked⟩ := revokeAttestation_ok accepted
      exact revoked.signed
  | executeDelegatedRevoke =>
      obtain rfl := Option.some.inj signs
      obtain ⟨-, stored, revoked⟩ := executeDelegatedRevoke_ok accepted
      exact revoked.signed
  | executeDelegatedRevokeAttest =>
      obtain rfl := Option.some.inj signs
      obtain ⟨-, stored, revoked⟩ := executeDelegatedRevokeAttest_ok accepted
      exact revoked.signed
  | setRevocationGracePeriod =>
      obtain rfl := Option.some.inj signs
      exact (setRevocationGracePeriod_ok accepted).1
  | invalidateNonceRange =>
      obtain rfl := Option.some.inj signs
      exact (invalidateNonceRange_ok accepted).1
  | registerVerifier =>
      obtain rfl := Option.some.inj signs
      exact (registerVerifier_ok accepted).1

end Signers

section Foreign

variable {sha256 : Bytes → BytesN 32} {self : Address} {storage after : Storage}
variable {label : Label} {key : DelegationKey}

/-- An owner who signed nothing keeps the nonce. -/
theorem nonce_of_unsigned {owner : Address} (stepped : Step sha256 self storage label after)
    (unsigned : label.env.authorized owner = false) : after.nonce owner = storage.nonce owner := by
  obtain ⟨env, verify, call⟩ := label
  have others {signer : Address} (signs : call.signer = some signer) : owner ≠ signer := by
    rintro rfl
    have signed : env.authorized owner = true := authorized_of_step stepped signs
    exact absurd (signed.symm.trans unsigned) (by decide)
  cases step_nonces stepped with
  | kept _ _ same => rw [same]
  | consumed consumes _ =>
      exact Function.update_of_ne (others (signer_of_consumption consumes)) _ _
  | invalidated _ => exact Function.update_of_ne (others rfl) _ _

/-- A record whose owner signed nothing stays as it is or is removed. -/
theorem delegation_of_unsigned (stepped : Step sha256 self storage label after)
    (unsigned : label.env.authorized key.owner = false) :
    after.delegation key = if label.call.cleans = some key then none
      else storage.delegation key := by
  have others {other : DelegationKey} (signed : label.env.authorized other.owner = true) :
      key ≠ other := by
    rintro rfl
    exact absurd (signed.symm.trans unsigned) (by decide)
  cases step_records stepped with
  | granted grants _ signed _ written =>
      have uncleaned : label.call.cleans ≠ some key := by
        intro cleans
        simp [(Call.only_cleans (Option.isSome_of_eq_some cleans)).1] at grants
      rw [if_neg uncleaned, written, Function.update_of_ne (others signed)]
  | revoked revokes _ signed _ _ written =>
      have uncleaned : label.call.cleans ≠ some key := by
        intro cleans
        simp [(Call.only_cleans (Option.isSome_of_eq_some cleans)).2] at revokes
      rw [if_neg uncleaned, written, Function.update_of_ne (others signed)]
  | @cleaned cleaned _ _ cleans _ _ _ _ written =>
      rw [written, cleans]
      by_cases same : cleaned = key
      · simp [same]
      · simp [same, Function.update_of_ne (Ne.symm same)]
  | kept _ _ uncleaned same => simp [uncleaned, same]

/-- An admin stays, and only an admin changes the period. -/
theorem settings_of_step (stepped : Step sha256 self storage label after) :
    (∀ admin, storage.admin = some admin → after.admin = some admin) ∧
      (after.revocationGracePeriod = storage.revocationGracePeriod ∨
        ∃ admin, storage.admin = some admin ∧ label.env.authorized admin = true) := by
  obtain ⟨env, verify, call⟩ := label
  cases step_nonces stepped with
  | consumed | invalidated => exact ⟨fun _ stored => stored, .inl rfl⟩
  | kept unconsumed uninvalidated _ =>
      obtain ⟨-, accepted⟩ := stepped
      cases call with
      | initializeDelegation =>
          obtain ⟨absent, rfl⟩ := initializeDelegation_ok accepted
          constructor
          · intro admin stored
            simp [stored] at absent
          · exact .inl rfl
      | cleanupExpired =>
          obtain ⟨_, -, -, rfl⟩ := cleanupExpired_ok accepted
          exact ⟨fun _ stored => stored, .inl rfl⟩
      | setRevocationGracePeriod admin =>
          obtain ⟨signed, stored, rfl⟩ := setRevocationGracePeriod_ok accepted
          exact ⟨fun _ stored => stored, .inr ⟨admin, stored, signed⟩⟩
      | registerVerifier =>
          obtain ⟨-, -, rfl⟩ := registerVerifier_ok accepted
          exact ⟨fun _ stored => stored, .inl rfl⟩
      | pausable =>
          simp only [invoke, Outcome.bind_eq_ok, Outcome.pure_eq_ok] at accepted
          obtain ⟨_, _, rfl⟩ := accepted
          exact ⟨fun _ stored => stored, .inl rfl⟩
      | invalidateNonceRange identity newNonce =>
          exact absurd rfl (uninvalidated identity newNonce)
      | _ => cases unconsumed

end Foreign

section Runs

variable {sha256 : Bytes → BytesN 32} {self : Address} {reached final : Storage}
variable {trace others : List (Event Storage Label)} {key : DelegationKey}

/-- Where a period is set, there is an admin. -/
theorem admin_of_period (run : Run (Step sha256 self) .deployed trace reached)
    (period : 0 < reached.revocationGracePeriod) : ∃ admin, reached.admin = some admin := by
  have settled : reached.revocationGracePeriod = 0 ∨ ∃ admin, reached.admin = some admin := by
    apply run.invariant
      (fun storage => storage.revocationGracePeriod = 0 ∨ ∃ admin, storage.admin = some admin)
    · exact .inl rfl
    · intro event settled stepped
      obtain ⟨stays, changes⟩ := settings_of_step stepped
      rcases settled with unset | ⟨admin, stored⟩
      · rcases changes with same | ⟨admin, stored, -⟩
        · exact .inl (same.trans unset)
        · exact .inr ⟨admin, stays admin stored⟩
      · exact .inr ⟨admin, stays admin stored⟩
  exact settled.resolve_left period.ne'

/-- A call that neither the owner nor the admin signed. -/
def Stranger (owner : Address) (storage : Storage) (event : Event Storage Label) : Prop :=
  event.label.env.authorized owner = false ∧
    ∀ admin, storage.admin = some admin → event.label.env.authorized admin = false

/-- What strangers leave: the nonce of the owner, the period, and the record unless
one of them removed it. -/
theorem strangers_leave {admin : Address} (stored : reached.admin = some admin)
    (run : Run (Step sha256 self) reached others final)
    (strangers : ∀ event ∈ others, Stranger key.owner reached event) :
    final.nonce key.owner = reached.nonce key.owner ∧
      final.revocationGracePeriod = reached.revocationGracePeriod ∧
        ((∀ event ∈ others, event.label.call.cleans ≠ some key) →
          final.delegation key = reached.delegation key) ∧
        ((∃ event ∈ others, event.label.call.cleans = some key) →
          final.delegation key = none) := by
  suffices holds : (∀ event ∈ others, Stranger key.owner reached event) →
      final.admin = some admin ∧ final.nonce key.owner = reached.nonce key.owner ∧
        final.revocationGracePeriod = reached.revocationGracePeriod ∧
          ((∀ event ∈ others, event.label.call.cleans ≠ some key) →
            final.delegation key = reached.delegation key) ∧
          ((∃ event ∈ others, event.label.call.cleans = some key) →
            final.delegation key = none) from (holds strangers).2
  refine run.history (motive := fun trace storage =>
    (∀ event ∈ trace, Stranger key.owner reached event) →
      storage.admin = some admin ∧ storage.nonce key.owner = reached.nonce key.owner ∧
        storage.revocationGracePeriod = reached.revocationGracePeriod ∧
          ((∀ event ∈ trace, event.label.call.cleans ≠ some key) →
            storage.delegation key = reached.delegation key) ∧
          ((∃ event ∈ trace, event.label.call.cleans = some key) →
            storage.delegation key = none)) ?_ ?_
  · exact fun _ => ⟨stored, rfl, rfl, fun _ => rfl, by simp⟩
  · intro past event _ held stepped every
    obtain ⟨unsigned, unadministered⟩ := every event (by simp)
    obtain ⟨admins, nonce, period, standing, removed⟩ := held
      fun other member => every other (List.mem_append_left _ member)
    obtain ⟨stays, changes⟩ := settings_of_step stepped
    have record := delegation_of_unsigned stepped unsigned
    refine ⟨stays admin admins, (nonce_of_unsigned stepped unsigned).trans nonce, ?_, ?_, ?_⟩
    · rcases changes with same | ⟨other, found, signed⟩
      · exact same.trans period
      · obtain rfl := Option.some.inj (admins.symm.trans found)
        exact absurd (signed.symm.trans (unadministered admin stored)) (by decide)
    · intro untouched
      rw [record, if_neg (untouched event (by simp))]
      exact standing fun other member => untouched other (List.mem_append_left _ member)
    · rintro ⟨other, member, cleans⟩
      rw [record]
      rcases List.mem_append.mp member with earlier | last
      · rw [removed ⟨other, earlier, cleans⟩, ite_self]
      · obtain rfl := List.mem_singleton.mp last
        rw [if_pos cleans]

end Runs

section Revocation

variable {env : Env} {storage after : Storage} {key : DelegationKey}

theorem revokeDelegation_eq_ok {nonce : Nat} :
    revokeDelegation env storage key.owner key.delegate key.delegationType nonce = .ok after ↔
      storage.pause.paused = false ∧ env.authorized key.owner = true ∧
        storage.nonce key.owner = nonce ∧ nonce + 1 < 2 ^ 64 ∧
          ∃ stored, storage.delegation key = some stored ∧ stored.revoked = false ∧
            requireRevocationAllowed storage stored env.timestamp = .ok () ∧
              after = storage.acted key nonce
                { stored with revoked := true, revokedAt := env.timestamp } := by
  simp only [revokeDelegation, Outcome.bind_eq_ok, Pausable.requireNotPaused_eq_ok,
    requireAuth_eq_ok, consumeNonce_eq_ok, markDelegationRevoked_eq_ok]
  constructor
  · rintro ⟨_, unpaused, _, signed, _, ⟨current, fits, rfl⟩, stored, found, standing, allowed,
      rfl⟩
    exact ⟨unpaused, signed, current, fits, stored, found, standing, allowed, rfl⟩
  · rintro ⟨unpaused, signed, current, fits, stored, found, standing, allowed, rfl⟩
    exact ⟨(), unpaused, (), signed, _, ⟨current, fits, rfl⟩, stored, found, standing, allowed,
      rfl⟩

theorem requireRevocationAllowed_of_le {stored : Delegation} {now : Nat} (clock : now ≤ u64Max)
    (within : now ≤ stored.expiresAt + storage.revocationGracePeriod) :
    requireRevocationAllowed storage stored now = .ok () := by
  unfold requireRevocationAllowed
  split
  · rfl
  · split
    · rfl
    · simp only [Outcome.rejectIf_eq_ok]
      omega

/-- The owner's revocation under the current nonce succeeds, and the record reads
revoked at the time of the call. -/
def Revocable (env : Env) (storage : Storage) (key : DelegationKey) : Prop :=
  ∃ after record,
    revokeDelegation env storage key.owner key.delegate key.delegationType
        (storage.nonce key.owner) = .ok after ∧
      after.delegation key = some record ∧
        delegationStatus record env.timestamp after.revocationGracePeriod = .revoked ∧
          record.revokedAt = env.timestamp

theorem revocable_iff (unpaused : storage.pause.paused = false)
    (signed : env.authorized key.owner = true) :
    Revocable env storage key ↔ storage.nonce key.owner + 1 < 2 ^ 64 ∧
      ∃ stored, storage.delegation key = some stored ∧ stored.revoked = false ∧
        requireRevocationAllowed storage stored env.timestamp = .ok () := by
  constructor
  · rintro ⟨after, record, revoked, -⟩
    obtain ⟨-, -, -, fits, stored, found, standing, allowed, -⟩ := revokeDelegation_eq_ok.mp revoked
    exact ⟨fits, stored, found, standing, allowed⟩
  · rintro ⟨fits, stored, found, standing, allowed⟩
    refine ⟨_, _, revokeDelegation_eq_ok.mpr ⟨unpaused, signed, rfl, fits, stored, found,
      standing, allowed, rfl⟩, Function.update_self _ _ _, ?_, rfl⟩
    exact delegationStatus_revoked_iff.mpr rfl

variable {sha256 : Bytes → BytesN 32} {self : Address} {reached final : Storage}
variable {trace others : List (Event Storage Label)} {stored : Delegation}

/-- After any calls of strangers, the owner can still revoke a standing delegation
within the grace period if and only if none of them removed its record and the nonce
of the owner is not exhausted. -/
theorem grace_right_iff (run : Run (Step sha256 self) .deployed trace reached)
    (period : 0 < reached.revocationGracePeriod)
    (found : reached.delegation key = some stored) (standing : stored.revoked = false)
    (after : Run (Step sha256 self) reached others final)
    (strangers : ∀ event ∈ others, Stranger key.owner reached event)
    (unpaused : final.pause.paused = false) (signed : env.authorized key.owner = true)
    (clock : env.timestamp ≤ u64Max)
    (within : env.timestamp ≤ stored.expiresAt + reached.revocationGracePeriod) :
    Revocable env final key ↔
      (∀ event ∈ others, event.label.call.cleans ≠ some key) ∧
        reached.nonce key.owner < u64Max := by
  obtain ⟨admin, administered⟩ := admin_of_period run period
  obtain ⟨nonce, same, kept, removed⟩ := strangers_leave administered after strangers
  have word : reached.nonce key.owner + 1 < 2 ^ 64 ↔ reached.nonce key.owner < u64Max := by
    unfold u64Max
    omega
  rw [revocable_iff unpaused signed, nonce, word]
  constructor
  · rintro ⟨fits, remaining, present, -⟩
    constructor
    · intro event member cleans
      simp [removed ⟨event, member, cleans⟩] at present
    · exact fits
  · rintro ⟨untouched, fits⟩
    have allowed := requireRevocationAllowed_of_le clock (same.symm ▸ within)
    exact ⟨fits, stored, (kept untouched).trans found, standing, allowed⟩

end Revocation

section Sample

/-- The admin sets a grace period and an owner delegates. -/
def granted : List Label :=
  [ sampleLabel 1 (.initializeDelegation ⟨1⟩),
    sampleLabel 2 (.setRevocationGracePeriod ⟨1⟩ 100),
    sampleLabel 3 (.delegate ⟨2⟩ ⟨3⟩ .management 50 0) ]

/-- The entries then. -/
def grantedStorage : Storage :=
  granted.foldl (advance (next samplePadding ⟨0⟩)) .deployed

theorem granted_run :
    Run (Step samplePadding ⟨0⟩) .deployed (record (next samplePadding ⟨0⟩) .deployed granted)
      grantedStorage :=
  run_of_record step_of_next rfl

/-- A stranger's call, and the entries after it. -/
def strangerEvent (timestamp : Nat) (call : Call) : Event Storage Label :=
  let label : Label := ⟨.signedBy ⟨4⟩ ⟨0⟩ timestamp, fun _ _ _ _ => none, call⟩
  ⟨grantedStorage, label, advance (next samplePadding ⟨0⟩) grantedStorage label⟩

theorem strangerEvent_stranger (timestamp : Nat) (call : Call) :
    Stranger ⟨2⟩ grantedStorage (strangerEvent timestamp call) := by
  constructor
  · rfl
  · intro admin stored
    obtain rfl : (⟨1⟩ : Address) = admin := Option.some.inj stored
    rfl

/-- A stranger removes the record at sixty; the owner cannot revoke then, in the
middle of the grace period. -/
theorem grace_right_taken :
    ∃ trace stored final, Run (Step samplePadding ⟨0⟩) .deployed trace grantedStorage ∧
      0 < grantedStorage.revocationGracePeriod ∧
        grantedStorage.delegation ⟨⟨2⟩, ⟨3⟩, .management⟩ = some stored ∧
          stored.revoked = false ∧
            60 ≤ stored.expiresAt + grantedStorage.revocationGracePeriod ∧
              Run (Step samplePadding ⟨0⟩) grantedStorage
                [strangerEvent 60 (.cleanupExpired ⟨2⟩ ⟨3⟩ .management)] final ∧
                Stranger ⟨2⟩ grantedStorage
                  (strangerEvent 60 (.cleanupExpired ⟨2⟩ ⟨3⟩ .management)) ∧
                  final.pause.paused = false ∧
                    ¬Revocable (.signedBy ⟨2⟩ ⟨0⟩ 60) final ⟨⟨2⟩, ⟨3⟩, .management⟩ := by
  refine ⟨_, _, _, granted_run, by decide, rfl, rfl, by decide, .single (step_of_next rfl),
    strangerEvent_stranger _ _, rfl, ?_⟩
  intro revocable
  obtain ⟨-, stored, found, -⟩ := (revocable_iff rfl rfl).mp revocable
  cases found

/-- Another call of the stranger's leaves the owner the right to revoke. -/
theorem grace_right_sample :
    ∃ final, Run (Step samplePadding ⟨0⟩) grantedStorage
        [strangerEvent 60 (.delegate ⟨4⟩ ⟨3⟩ .management 90 0)] final ∧
      Revocable (.signedBy ⟨2⟩ ⟨0⟩ 150) final ⟨⟨2⟩, ⟨3⟩, .management⟩ := by
  have run : Run (Step samplePadding ⟨0⟩) grantedStorage
      [strangerEvent 60 (.delegate ⟨4⟩ ⟨3⟩ .management 90 0)]
      (strangerEvent 60 (.delegate ⟨4⟩ ⟨3⟩ .management 90 0)).after :=
    .single (step_of_next rfl)
  refine ⟨_, run, (grace_right_iff granted_run (by decide) rfl rfl run ?_ rfl rfl (by decide)
    (by decide)).mpr ⟨?_, by decide⟩⟩
  · simpa using strangerEvent_stranger 60 (.delegate ⟨4⟩ ⟨3⟩ .management 90 0)
  · simp [strangerEvent, Call.cleans]

end Sample

end Delegations
