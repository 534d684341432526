import CredenceContracts.Delegation.Records
import CredenceContracts.Delegation.Replay

/-!
# Validity as the last effective action

A delegate is valid while the last grant of the delegation runs and was not revoked
since.  The record says so as long as it is stored; it is removed only after its
expiry, when the grant has run out as well.
-/

namespace Delegations

open Soroban Transition

/-- The last grant of this delegation was not revoked since and expires later. -/
def GrantStands (trace : List (Event Storage Label)) (key : DelegationKey) (now : Nat) : Prop :=
  ∃ earlier event later expiresAt, trace = earlier ++ event :: later ∧
    event.label.call.grants = some (key, expiresAt) ∧ now < expiresAt ∧
      ∀ other ∈ later, (∀ expiry, other.label.call.grants ≠ some (key, expiry)) ∧
        other.label.call.revokes ≠ some key

section History

variable {trace : List (Event Storage Label)} {event : Event Storage Label}
variable {key : DelegationKey} {now expiresAt : Nat}

/-- The event grants the delegation beyond `now`. -/
def GrantsBeyond (key : DelegationKey) (now : Nat) (event : Event Storage Label) : Prop :=
  ∃ expiresAt, event.label.call.grants = some (key, expiresAt) ∧ now < expiresAt

/-- The event grants the delegation again or revokes it. -/
def Settles (key : DelegationKey) (event : Event Storage Label) : Prop :=
  (∃ expiresAt, event.label.call.grants = some (key, expiresAt)) ∨
    event.label.call.revokes = some key

theorem not_settles : ¬Settles key event ↔
    (∀ expiry, event.label.call.grants ≠ some (key, expiry)) ∧
      event.label.call.revokes ≠ some key := by
  rw [Settles, not_or, not_exists]

theorem grantStands_iff_since :
    GrantStands trace key now ↔ Since (GrantsBeyond key now) (Settles key) trace := by
  constructor
  · rintro ⟨earlier, granting, later, expiry, position, granted, runs, alone⟩
    refine ⟨earlier, granting, later, position, ⟨expiry, granted, runs⟩, ?_⟩
    exact fun other member => not_settles.mpr (alone other member)
  · rintro ⟨earlier, granting, later, position, ⟨expiry, granted, runs⟩, alone⟩
    refine ⟨earlier, granting, later, expiry, position, granted, runs, ?_⟩
    exact fun other member => not_settles.mp (alone other member)

theorem grantStands_nil : ¬GrantStands [] key now :=
  fun stands => not_since_nil (grantStands_iff_since.mp stands)

theorem grantStands_snoc :
    GrantStands (trace ++ [event]) key now ↔
      GrantsBeyond key now event ∨ ¬Settles key event ∧ GrantStands trace key now := by
  rw [grantStands_iff_since, since_snoc, ← grantStands_iff_since]

/-- A grant just made stands until its expiry. -/
theorem grantStands_granted (grants : event.label.call.grants = some (key, expiresAt)) :
    GrantStands (trace ++ [event]) key now ↔ now < expiresAt := by
  rw [grantStands_snoc]
  simp [GrantsBeyond, Settles, grants]

/-- A revocation just made ends every grant. -/
theorem grantStands_revoked (revokes : event.label.call.revokes = some key)
    (other : event.label.call.grants = none) : ¬GrantStands (trace ++ [event]) key now := by
  rw [grantStands_snoc]
  simp [GrantsBeyond, Settles, revokes, other]

/-- What is done to other delegations does not matter. -/
theorem grantStands_other (ungranted : ∀ expiry, event.label.call.grants ≠ some (key, expiry))
    (unrevoked : event.label.call.revokes ≠ some key) :
    GrantStands (trace ++ [event]) key now ↔ GrantStands trace key now := by
  rw [grantStands_snoc, not_settles]
  have unopened : ¬GrantsBeyond key now event :=
    fun granting => granting.elim fun expiry granted => ungranted expiry granted.1
  simp [unopened, ungranted, unrevoked]

end History

section Tracking

/-- A stored record tells whether the grant of its delegation stands; without one,
no grant stands any more. -/
structure Tracks (trace : List (Event Storage Label)) (storage : Storage)
    (key : DelegationKey) : Prop where
  stored : ∀ record, storage.delegation key = some record → ∀ now,
    GrantStands trace key now ↔ record.revoked = false ∧ now < record.expiresAt
  missing : storage.delegation key = none → ∀ now,
    (∀ event ∈ trace, event.label.env.timestamp ≤ now) → ¬GrantStands trace key now

variable {trace : List (Event Storage Label)} {event : Event Storage Label}
variable {storage : Storage} {key : DelegationKey}

/-- A step on other delegations is tracked. -/
theorem Tracks.other (tracks : Tracks trace event.before key)
    (ungranted : ∀ expiry, event.label.call.grants ≠ some (key, expiry))
    (unrevoked : event.label.call.revokes ≠ some key)
    (same : event.after.delegation key = event.before.delegation key) :
    Tracks (trace ++ [event]) event.after key where
  stored record found now := by
    rw [grantStands_other ungranted unrevoked]
    exact tracks.stored record (same.symm.trans found) now
  missing gone now late := by
    rw [grantStands_other ungranted unrevoked]
    apply tracks.missing (same.symm.trans gone)
    exact fun past member => late past (List.mem_append_left _ member)

theorem Tracks.next (tracks : Tracks trace event.before key)
    (change : RecordChange event.label.env event.before event.label.call event.after) :
    Tracks (trace ++ [event]) event.after key := by
  cases change with
  | @granted granted expiresAt _ grants unrevoked _ _ written =>
      by_cases same : granted = key
      · subst same
        constructor
        · intro record found now
          obtain rfl : Delegation.fresh granted expiresAt = record := by
            simpa [written] using found
          simp [grantStands_granted grants, Delegation.fresh]
        · intro gone
          simp [written] at gone
      · apply tracks.other
        · intro expiry
          simp [grants, same]
        · simp [unrevoked]
        · simp [written, Function.update_of_ne (Ne.symm same)]
  | @revoked revoked stored _ revokes ungranted _ found _ written =>
      by_cases same : revoked = key
      · subst same
        constructor
        · intro record kept now
          have marked : record.revoked = true := by
            have equal : some { stored with
                revoked := true, revokedAt := event.label.env.timestamp } = some record := by
              simpa [written] using kept
            exact Option.some.inj equal ▸ rfl
          simp [grantStands_revoked revokes ungranted, marked]
        · intro gone
          simp [written] at gone
      · apply tracks.other
        · simp [ungranted]
        · simp [revokes, same]
        · simp [written, Function.update_of_ne (Ne.symm same)]
  | @cleaned cleaned stored _ _ ungranted unrevoked found expired written =>
      by_cases same : cleaned = key
      · subst same
        constructor
        · intro record kept
          simp [written] at kept
        · intro _ now late
          rw [grantStands_other (by simp [ungranted]) (by simp [unrevoked]),
            tracks.stored stored found]
          rintro ⟨-, runs⟩
          have past := late event (by simp)
          omega
      · apply tracks.other
        · simp [ungranted]
        · simp [unrevoked]
        · simp [written, Function.update_of_ne (Ne.symm same)]
  | kept ungranted unrevoked _ written =>
      apply tracks.other
      · simp [ungranted]
      · simp [unrevoked]
      · rw [written]

variable {sha256 : Bytes → BytesN 32} {self : Address} {start final : Storage}

theorem tracks_of_run (fresh : start.delegation = fun _ => none)
    (run : Run (Step sha256 self) start trace final) : Tracks trace final key := by
  apply run.history (motive := fun trace storage => Tracks trace storage key)
  · constructor
    · intro record found
      simp [fresh] at found
    · intro _ now _
      exact grantStands_nil
  · intro trace event _ tracks stepped
    exact tracks.next (step_records stepped)

end Tracking

section Views

variable {env : Env} {storage : Storage} {key : DelegationKey}

/-- The views that read a stored record all say whether the delegate is valid. -/
structure ViewsAgree (env : Env) (storage : Storage) (key : DelegationKey) : Prop where
  summary : ∃ summary,
    getDelegationSummary env storage key.owner key.delegate key.delegationType = .ok summary ∧
      summary.isValid = isValidDelegate env storage key.owner key.delegate key.delegationType ∧
        (summary.status = .active ↔
          isValidDelegate env storage key.owner key.delegate key.delegationType = true)
  attestation : key.delegationType = .attestation →
    (getAttestationStatus env storage key.owner key.delegate = .active ↔
      isValidDelegate env storage key.owner key.delegate key.delegationType = true)

theorem isValidDelegate_iff :
    isValidDelegate env storage key.owner key.delegate key.delegationType = true ↔
      ∃ record, storage.delegation key = some record ∧ record.revoked = false ∧
        env.timestamp < record.expiresAt := by
  unfold isValidDelegate
  cases storage.delegation key with
  | none => simp
  | some record => simp

theorem getAttestationStatus_active_iff {attester subject : Address} :
    getAttestationStatus env storage attester subject = .active ↔
      ∃ record, storage.delegation ⟨attester, subject, .attestation⟩ = some record ∧
        delegationStatus record env.timestamp storage.revocationGracePeriod = .active := by
  unfold getAttestationStatus
  cases storage.delegation ⟨attester, subject, .attestation⟩ with
  | none => simp
  | some record =>
      simp only [Option.some.injEq, exists_eq_left']
      cases delegationStatus record env.timestamp storage.revocationGracePeriod <;> simp

theorem viewsAgree_of_stored {record : Delegation}
    (found : storage.delegation key = some record) : ViewsAgree env storage key where
  summary := by
    have read : getDelegation storage key.owner key.delegate key.delegationType = .ok record :=
      Outcome.unwrapOr_eq_ok.mpr found
    refine ⟨_, by rw [getDelegationSummary, read]; rfl, ?_, ?_⟩
    · simp [isValidDelegate, found]
    · rw [delegationStatus_active_iff, isValidDelegate_iff]
      simp [found]
  attestation attests := by
    obtain ⟨owner, delegate, delegationType⟩ := key
    subst attests
    rw [getAttestationStatus_active_iff, isValidDelegate_iff]
    simp only [delegationStatus_active_iff]

end Views

section Runs

variable {sha256 : Bytes → BytesN 32} {self : Address} {start final : Storage}
variable {trace : List (Event Storage Label)}

/-- Removing an expired record changes no later answer. -/
theorem isValidDelegate_of_cleaned {event : Event Storage Label}
    (stepped : Step sha256 self event.before event.label event.after)
    (cleans : event.label.call.cleans.isSome = true) (key : DelegationKey) {env : Env}
    (later : event.label.env.timestamp ≤ env.timestamp) :
    isValidDelegate env event.after key.owner key.delegate key.delegationType =
      isValidDelegate env event.before key.owner key.delegate key.delegationType := by
  obtain ⟨ungranted, unrevoked⟩ := Call.only_cleans cleans
  apply Bool.eq_iff_iff.mpr
  rw [isValidDelegate_iff, isValidDelegate_iff]
  cases step_records stepped with
  | granted grants => simp [ungranted] at grants
  | revoked revokes => simp [unrevoked] at revokes
  | kept _ _ uncleaned => simp [uncleaned] at cleans
  | @cleaned cleaned stored _ _ _ _ found expired written =>
      rw [written]
      by_cases same : key = cleaned
      · subst same
        constructor
        · rintro ⟨record, kept, -⟩
          simp at kept
        · rintro ⟨record, kept, -, runs⟩
          obtain rfl := Option.some.inj (found.symm.trans kept)
          omega
      · rw [Function.update_of_ne same]

/-- In every run, at every time that is not before what happened, a delegate is valid
if and only if the last grant stands; removing a record changes no later answer; and
the views that read a stored record agree. -/
theorem validity_is_last_action (fresh : start.delegation = fun _ => none)
    (run : Run (Step sha256 self) start trace final) :
    (∀ (key : DelegationKey) (env : Env),
      (∀ event ∈ trace, event.label.env.timestamp ≤ env.timestamp) →
        (isValidDelegate env final key.owner key.delegate key.delegationType = true ↔
          GrantStands trace key env.timestamp)) ∧
      (∀ event ∈ trace, event.label.call.cleans.isSome = true →
        ∀ (key : DelegationKey) (env : Env), event.label.env.timestamp ≤ env.timestamp →
          isValidDelegate env event.after key.owner key.delegate key.delegationType =
            isValidDelegate env event.before key.owner key.delegate key.delegationType) ∧
      ∀ (key : DelegationKey) (env : Env), (final.delegation key).isSome = true →
        ViewsAgree env final key := by
  refine ⟨?_, ?_, ?_⟩
  · intro key env late
    have tracks : Tracks trace final key := tracks_of_run fresh run
    rw [isValidDelegate_iff]
    cases found : final.delegation key with
    | none => simp [tracks.missing found _ late]
    | some record => simp [tracks.stored record found]
  · intro event member cleans key env later
    exact isValidDelegate_of_cleaned (run.stepped_of_mem member) cleans key later
  · intro key env stored
    obtain ⟨record, found⟩ := Option.isSome_iff_exists.mp stored
    exact viewsAgree_of_stored found

end Runs

section Sample

/-- A delegation that expires, is removed and is granted again. -/
def renewal : List Label :=
  [ sampleLabel 1 (.delegate ⟨2⟩ ⟨3⟩ .management 50 0),
    sampleLabel 50 (.cleanupExpired ⟨2⟩ ⟨3⟩ .management),
    sampleLabel 51 (.delegate ⟨2⟩ ⟨3⟩ .management 99 1) ]

def renewalTrace : List (Event Storage Label) :=
  record (next samplePadding ⟨0⟩) .deployed renewal

/-- The grant made again stands at time sixty. -/
theorem validity_is_last_action_sample :
    GrantStands renewalTrace ⟨⟨2⟩, ⟨3⟩, .management⟩ 60 := by
  have run : Run (Step samplePadding ⟨0⟩) .deployed renewalTrace
      (renewal.foldl (advance (next samplePadding ⟨0⟩)) .deployed) :=
    run_of_record step_of_next rfl
  have late : ∀ event ∈ renewalTrace, event.label.env.timestamp ≤ 60 := by
    decide +kernel
  exact ((validity_is_last_action rfl run).1 ⟨⟨2⟩, ⟨3⟩, .management⟩ (.signedByAll ⟨0⟩ 60)
    late).mp rfl

end Sample

end Delegations
