import CredenceContracts.Attestation.Spec
import CredenceContracts.Bond.Closing

/-!
# The index of live attestations

For each subject the contract keeps the ids of the live attestations and, apart
from them, their number.  Both are redundant: the records decide what belongs
there, and every operation keeps the index in step with them.
-/

namespace Attestations

open Soroban MachineInt Transition
open CredenceBond (Externals)

section Index

/-- A stored attestation of some kind that is not revoked. -/
def Storage.Standing (storage : Storage) (kind : Attestation → Prop) (id : Nat) : Prop :=
  ∃ attestation, storage.attestation id = some attestation ∧ kind attestation ∧
    attestation.revoked = false

/-- A stored attestation for the subject that is not revoked. -/
def Storage.Live (storage : Storage) (subject : Address) (id : Nat) : Prop :=
  storage.Standing (fun attestation => attestation.identity = subject) id

/-- Every record has its own id, and the index of each subject lists and counts the
live ones. -/
structure Indexed (storage : Storage) : Prop where
  numbered : ∀ id attestation, storage.attestation id = some attestation →
    attestation.id = id ∧ id < storage.attestationCounter
  nodup : ∀ subject, (storage.subjectAttestations subject).Nodup
  members : ∀ subject id, id ∈ storage.subjectAttestations subject ↔ storage.Live subject id
  counted : ∀ subject, (storage.subjectAttestationCount subject).getD 0 =
    (storage.subjectAttestations subject).length

variable {storage before after : Storage} {subject : Address}

theorem Storage.Standing.lt_counter {kind : Attestation → Prop} {id : Nat}
    (standing : storage.Standing kind id) (indexed : Indexed storage) :
    id < storage.attestationCounter := by
  obtain ⟨attestation, found, -, -⟩ := standing
  exact (indexed.numbered id attestation found).2

/-- Nothing is stored or counted yet. -/
structure Storage.Unattested (storage : Storage) : Prop where
  attestation : storage.attestation = fun _ => none
  dedup : storage.dedup = fun _ => false
  subjectAttestations : storage.subjectAttestations = fun _ => []
  subjectAttestationCount : storage.subjectAttestationCount = fun _ => none

theorem Storage.Unattested.indexed (fresh : storage.Unattested) : Indexed storage where
  numbered := by simp [fresh.attestation]
  nodup := by simp [fresh.subjectAttestations]
  members := by simp [fresh.subjectAttestations, fresh.attestation, Storage.Live, Storage.Standing]
  counted := by simp [fresh.subjectAttestations, fresh.subjectAttestationCount]

end Index

section Steps

variable {before after : Storage} {subject : Address} {added : List Attestation}
variable {attestation : Attestation} {attestationId : Nat}

/-- The new ids follow the counter. -/
theorem Added.mem_ids (changed : Added before after subject added) {id : Nat} :
    id ∈ added.map Attestation.id ↔
      before.attestationCounter ≤ id ∧ id < after.attestationCounter := by
  rw [changed.appends.ids, List.mem_range'_1, changed.counter]

/-- What is stored under a new id is one of the new attestations. -/
theorem Added.stored_of_new (changed : Added before after subject added) {id : Nat}
    (new : id ∈ added.map Attestation.id) :
    ∃ attestation ∈ added, attestation.id = id ∧ after.attestation id = some attestation := by
  obtain ⟨attestation, member, rfl⟩ := List.mem_map.mp new
  exact ⟨attestation, member, rfl, changed.appends.stored attestation member⟩

/-- What is stored under another id was stored there before. -/
theorem Added.stored_of_old (changed : Added before after subject added) {id : Nat}
    (old : id ∉ added.map Attestation.id) : after.attestation id = before.attestation id := by
  apply changed.appends.kept
  rw [changed.mem_ids, changed.counter] at old
  omega

theorem Added.standing_iff (changed : Added before after subject added)
    (indexed : Indexed before) {kind : Attestation → Prop} {id : Nat} :
    after.Standing kind id ↔
      (∃ attestation ∈ added, attestation.id = id ∧ kind attestation) ∨
        before.Standing kind id := by
  constructor
  · rintro ⟨attestation, found, meets, unrevoked⟩
    by_cases new : id ∈ added.map Attestation.id
    · obtain ⟨stored, member, numbered, kept⟩ := changed.stored_of_new new
      obtain rfl := Option.some.inj (found.symm.trans kept)
      exact .inl ⟨attestation, member, numbered, meets⟩
    · rw [changed.stored_of_old new] at found
      exact .inr ⟨attestation, found, meets, unrevoked⟩
  · rintro (⟨attestation, member, rfl, meets⟩ | standing)
    · exact ⟨attestation, changed.appends.stored attestation member, meets,
        (changed.appends.live attestation member).2⟩
    · have old : id ∉ added.map Attestation.id := by
        have below := standing.lt_counter indexed
        rw [changed.mem_ids]
        omega
      obtain ⟨attestation, found, meets, unrevoked⟩ := standing
      exact ⟨attestation, (changed.stored_of_old old).trans found, meets, unrevoked⟩

theorem Added.live_iff (changed : Added before after subject added) (indexed : Indexed before)
    {other : Address} {id : Nat} :
    after.Live other id ↔
      other = subject ∧ id ∈ added.map Attestation.id ∨ before.Live other id := by
  rw [Storage.Live, changed.standing_iff indexed, Storage.Live]
  apply or_congr_left
  simp only [List.mem_map]
  constructor
  · rintro ⟨attestation, member, numbered, rfl⟩
    exact ⟨(changed.appends.live attestation member).1, attestation, member, numbered⟩
  · rintro ⟨rfl, attestation, member, numbered⟩
    exact ⟨attestation, member, numbered, (changed.appends.live attestation member).1⟩

theorem Added.subjectAttestations_eq (changed : Added before after subject added)
    (other : Address) :
    after.subjectAttestations other = before.subjectAttestations other ++
      if other = subject then added.map Attestation.id else [] := by
  simp only [Storage.subjectAttestations, changed.bond, indexAdded]
  by_cases same : other = subject
  · simp [same]
  · simp [same]

/-- Adding keeps the index in step while the count of the subject is not full. -/
theorem Indexed.of_added (indexed : Indexed before) (changed : Added before after subject added)
    (room : (before.subjectAttestations subject).length + added.length < 2 ^ 32) :
    Indexed after where
  numbered id attestation found := by
    by_cases new : id ∈ added.map Attestation.id
    · obtain ⟨stored, -, numbered, kept⟩ := changed.stored_of_new new
      obtain rfl := Option.some.inj (kept.symm.trans found)
      exact ⟨numbered, (changed.mem_ids.mp new).2⟩
    · rw [changed.stored_of_old new] at found
      obtain ⟨numbered, below⟩ := indexed.numbered id attestation found
      rw [changed.counter]
      exact ⟨numbered, by omega⟩
  nodup other := by
    rw [changed.subjectAttestations_eq]
    apply (indexed.nodup other).append
    · split
      · rw [changed.appends.ids]
        exact List.nodup_range'
      · exact List.nodup_nil
    · intro id listed new
      split at new
      · have below := ((indexed.members other id).mp listed).lt_counter indexed
        have above := (changed.mem_ids.mp new).1
        omega
      · cases new
  members other id := by
    rw [changed.subjectAttestations_eq, changed.live_iff indexed, List.mem_append,
      indexed.members]
    by_cases same : other = subject
    · simp [same, or_comm]
    · simp [same]
  counted other := by
    rw [changed.subjectAttestations_eq]
    simp only [Storage.subjectAttestationCount, changed.bond, indexAdded]
    by_cases same : other = subject
    · subst same
      have counted := indexed.counted other
      simp [saturatingU32, counted]
      omega
    · simp [same, indexed.counted]

theorem Revoked.standing_iff (changed : Revoked before after attestation attestationId)
    {kind : Attestation → Prop} {id : Nat} :
    after.Standing kind id ↔ id ≠ attestationId ∧ before.Standing kind id := by
  by_cases same : id = attestationId
  · simp [Storage.Standing, changed.stored, same]
  · simp [Storage.Standing, changed.stored, same]

theorem Revoked.listed_iff (changed : Revoked before after attestation attestationId)
    (indexed : Indexed before) (other : Address) :
    attestationId ∈ before.subjectAttestations other ↔ other = attestation.identity := by
  simp only [indexed.members, Storage.Live, Storage.Standing, changed.found,
    Option.some.injEq, exists_eq_left', changed.unrevoked, and_true]
  exact eq_comm

theorem Revoked.subjectAttestations_eq
    (changed : Revoked before after attestation attestationId) (indexed : Indexed before)
    (other : Address) :
    after.subjectAttestations other = (before.subjectAttestations other).erase attestationId := by
  simp only [Storage.subjectAttestations, changed.bond, indexRevoked]
  by_cases same : other = attestation.identity
  · rw [same, Function.update_self, (indexed.nodup attestation.identity).erase_eq_filter]
    apply List.filter_congr
    intro id listed
    exact decide_not
  · rw [Function.update_of_ne same, List.erase_of_not_mem]
    intro listed
    exact same ((changed.listed_iff indexed other).mp listed)

/-- Revoking keeps the index in step. -/
theorem Indexed.of_revoked (indexed : Indexed before)
    (changed : Revoked before after attestation attestationId) : Indexed after where
  numbered id record found := by
    rw [changed.counter]
    by_cases same : id = attestationId
    · subst same
      rw [changed.stored, Function.update_self] at found
      obtain rfl := Option.some.inj found
      exact indexed.numbered id attestation changed.found
    · rw [changed.stored, Function.update_of_ne same] at found
      exact indexed.numbered id record found
  nodup other := by
    rw [changed.subjectAttestations_eq indexed]
    exact (indexed.nodup other).erase attestationId
  members other id := by
    rw [changed.subjectAttestations_eq indexed, (indexed.nodup other).mem_erase_iff,
      Storage.Live, changed.standing_iff, indexed.members, Storage.Live]
  counted other := by
    rw [changed.subjectAttestations_eq indexed, List.length_erase]
    simp only [Storage.subjectAttestationCount, changed.bond, indexRevoked]
    by_cases same : other = attestation.identity
    · subst same
      have counted := indexed.counted attestation.identity
      simp [counted, changed.listed_iff indexed]
    · simp [same, indexed.counted, changed.listed_iff indexed]

/-- The check after adding shows that the count of the subject was not full. -/
theorem Added.room_of_passed (changed : Added before after subject added)
    (indexed : Indexed before)
    (passed : assertSelfConsistentForSubject after subject = .ok ()) :
    (before.subjectAttestations subject).length + added.length < 2 ^ 32 := by
  have consistent := (assertSelfConsistentForSubject_eq_ok.mp passed).2
  have counted := indexed.counted subject
  simp only [checkAttestationCountConsistent_eq_ok, changed.subjectAttestations_eq] at consistent
  simp only [Storage.subjectAttestationCount, changed.bond, indexAdded] at consistent
  simp [saturatingU32, counted] at consistent
  omega

theorem Indexed.of_change {act : Act} (indexed : Indexed before)
    (change : Change before after act) : Indexed after := by
  cases change with
  | added subject added changed _ _ _ passed =>
      exact indexed.of_added changed (changed.room_of_passed indexed passed)
  | revoked attestation attestationId changed => exact indexed.of_revoked changed
  | kept _ _ stored _ counter rest =>
      constructor
      · rw [stored, counter]
        exact indexed.numbered
      · intro subject
        rw [Storage.subjectAttestations, rest.subjectAttestations]
        exact indexed.nodup subject
      · intro subject id
        rw [Storage.subjectAttestations, rest.subjectAttestations, Storage.Live,
          Storage.Standing, stored]
        exact indexed.members subject id
      · intro subject
        rw [Storage.subjectAttestations, Storage.subjectAttestationCount,
          rest.subjectAttestations, rest.subjectAttestationCount]
        exact indexed.counted subject

end Steps

section Check

variable {env : Env} {storage : Storage} {attester subject : Address} {nonce : Nat}
variable {items : List AttestationBatchItem}

/-- The self-check passes for every subject of an index in step. -/
theorem Indexed.passes (indexed : Indexed storage) (sound : storage.bond.Sound)
    (subject : Address) : assertSelfConsistentForSubject storage subject = .ok () := by
  have counted : ∀ other, checkAttestationCountConsistent storage other = .ok () := by
    intro other
    apply checkAttestationCountConsistent_eq_ok.mpr
    intro count stored
    simpa [stored, eq_comm] using indexed.counted other
  apply assertSelfConsistentForSubject_eq_ok.mpr
  constructor
  · cases found : storage.bond.bond with
    | none => simp [CredenceBond.assertSelfConsistent, found]
    | some bond =>
        apply (CredenceBond.assertSelfConsistent_iff found).mpr
        constructor
        · exact ⟨(sound bond found).nonnegative, (sound bond found).within⟩
        · exact checkAttestationCountConsistent_eq_ok.mp (counted bond.identity)
  · exact counted subject

theorem Indexed.passes_added {after : Storage} {added : List Attestation}
    {several : Nat} (indexed : Indexed storage) (sound : storage.bond.Sound)
    (room : (storage.subjectAttestations subject).length + several < 2 ^ 32)
    (changed : Added storage after subject added) (counted : added.length = several) :
    assertSelfConsistentForSubject after subject = .ok () := by
  apply (indexed.of_added changed (counted ▸ room)).passes
  apply sound.same
  rw [changed.bond, indexAdded]

theorem Indexed.passes_revoked {after : Storage} {attestation : Attestation}
    {attestationId : Nat} (indexed : Indexed storage) (sound : storage.bond.Sound)
    (changed : Revoked storage after attestation attestationId) :
    assertSelfConsistentForSubject after subject = .ok () := by
  apply (indexed.of_revoked changed).passes
  apply sound.same
  rw [changed.bond, indexRevoked]

/-- The error of the self-check. -/
abbrev drift : Failure :=
  .contract .invariantViolation

theorem consumeNonce_ne_drift : consumeNonce storage attester nonce ≠ .error drift := by
  simp [consumeNonce]

theorem authorizeAttester_ne_drift :
    authorizeAttester env storage attester nonce ≠ .error drift := by
  simp [authorizeAttester, requireAuth, consumeNonce_ne_drift]

theorem authorizeAll_ne_drift :
    items.foldlM (fun storage item =>
      authorizeAttester env storage item.attester item.nonce) storage ≠ .error drift := by
  induction items generalizing storage with
  | nil => simp
  | cons item rest ih => simp [authorizeAttester_ne_drift, ih]

theorem validateWeight_ne_drift {weight : Nat} : validateWeight weight ≠ .error drift := by
  simp [validateWeight]

theorem totalWeight_ne_drift {total : Nat} : totalWeight storage items total ≠ .error drift := by
  induction items generalizing total with
  | nil => simp [totalWeight]
  | cons item rest ih => simp [totalWeight, validateWeight_ne_drift, ih]

theorem storeBatch_ne_drift {nextId : Nat} :
    storeBatch env subject storage nextId items ≠ .error drift := by
  induction items generalizing storage nextId with
  | nil => simp [storeBatch]
  | cons item rest ih => simp [storeBatch, ih]

theorem addAttestation_ne_drift {attestationData : String} (indexed : Indexed storage)
    (sound : storage.bond.Sound)
    (room : (storage.subjectAttestations subject).length + 1 < 2 ^ 32) :
    addAttestation env storage attester subject attestationData nonce ≠ .error drift := by
  intro drifted
  simp only [addAttestation, Outcome.bind_eq_error, Outcome.rejectIf_eq_error,
    Outcome.rejectIf_eq_ok, checkedU64_eq_error, checkedU64_eq_ok, Outcome.pure_ne_error,
    authorizeAttester_ne_drift, validateWeight_ne_drift, Failure.contract.injEq, reduceCtorEq,
    and_false, false_or, or_false, exists_false, Bool.not_eq_true] at drifted
  obtain ⟨_, authorized, _, unrecorded, _, ⟨-, rfl⟩, _, -, failed⟩ := drifted
  obtain ⟨_, rfl⟩ := authorizeAttester_ok authorized
  have passed := failed.symm.trans (indexed.passes_added sound room
    (added_single rfl rfl rfl unrecorded) rfl)
  cases passed

theorem addAttestationBatch_ne_drift (indexed : Indexed storage) (sound : storage.bond.Sound)
    (room : (storage.subjectAttestations subject).length + items.length < 2 ^ 32) :
    addAttestationBatch env storage subject items ≠ .error drift := by
  intro drifted
  simp only [addAttestationBatch, Outcome.bind_eq_error, Outcome.rejectIf_eq_error,
    Outcome.rejectIf_eq_ok, Outcome.pure_ne_error, authorizeAll_ne_drift, totalWeight_ne_drift,
    storeBatch_ne_drift, Failure.contract.injEq, reduceCtorEq, and_false, false_or, or_false,
    exists_false, not_not, not_exists, not_and, Bool.not_eq_true] at drifted
  obtain ⟨_, -, _, -, _, distinct, _, authorized, _, unrecorded, _, -, _, -,
    ⟨_, _, several⟩, stored, failed⟩ := drifted
  obtain ⟨_, rfl⟩ := authorizeAll_ok authorized
  obtain ⟨-, -, keys, -, -⟩ := storeBatch_ok stored
  have same : several.length = items.length := by simpa using congrArg List.length keys
  have passed := failed.symm.trans (indexed.passes_added sound room
    (added_batch distinct unrecorded stored) same)
  cases passed

theorem revokeAttestation_ne_drift {attestationId : Nat} (indexed : Indexed storage)
    (sound : storage.bond.Sound) :
    revokeAttestation env storage attester attestationId nonce ≠ .error drift := by
  intro drifted
  simp only [revokeAttestation, requireAuth, Outcome.bind_eq_error, Outcome.rejectIf_eq_error,
    Outcome.rejectIf_eq_ok, Outcome.unwrapOr_eq_error, Outcome.unwrapOr_eq_ok,
    Outcome.pure_ne_error, consumeNonce_ne_drift, Failure.contract.injEq, reduceCtorEq,
    and_false, false_or, or_false, exists_false, Bool.not_eq_true] at drifted
  obtain ⟨_, -, _, consumed, attestation, found, _, -, _, unrevoked, failed⟩ := drifted
  obtain ⟨-, _, rfl⟩ := consumeNonce_ok consumed
  have passed := failed.symm.trans (indexed.passes_revoked sound
    ⟨found, unrevoked, rfl, rfl, rfl, rfl⟩)
  cases passed

/-- The count of every subject that the act attests has room for what it attests. -/
def Storage.HasRoom (storage : Storage) (act : Act) : Prop :=
  ∀ key ∈ act.targets,
    (storage.subjectAttestations key.identity).length + act.targets.length < 2 ^ 32

theorem invoke_ne_drift {call : Call} (indexed : Indexed storage)
    (sound : storage.bond.Sound) (room : storage.HasRoom (.call call)) :
    invoke env storage call ≠ .error drift := by
  cases call with
  | registerAttester attester => simp [invoke, registerAttester, requireAuth]
  | unregisterAttester attester => simp [invoke, unregisterAttester, requireAuth]
  | setAttesterStake admin attester amount => simp [invoke, setAttesterStake, requireAuth]
  | addAttestation attester subject attestationData nonce =>
      rw [invoke, ne_eq, Outcome.map_eq_error]
      apply addAttestation_ne_drift indexed sound
      exact room ⟨attester, subject, attestationData⟩ List.mem_cons_self
  | addAttestationBatch subject items =>
      rw [invoke, ne_eq, Outcome.map_eq_error]
      cases items with
      | nil => simp [addAttestationBatch]
      | cons item rest =>
          apply addAttestationBatch_ne_drift indexed sound
          simpa [Act.targets, AttestationBatchItem.dedupKey] using
            room (item.dedupKey subject) List.mem_cons_self
  | revokeAttestation attester attestationId nonce =>
      exact revokeAttestation_ne_drift indexed sound

end Check

section Runs

/-- Records keep everything but the mark of revocation, which is not taken back. -/
def Persists (before after : Storage) : Prop :=
  ∀ id attestation, before.attestation id = some attestation →
    ∃ kept, after.attestation id = some kept ∧
      kept = { attestation with revoked := kept.revoked } ∧
        (attestation.revoked = true → kept.revoked = true)

theorem Persists.refl (storage : Storage) : Persists storage storage :=
  fun _ attestation found => ⟨attestation, found, rfl, id⟩

theorem Persists.trans {first second third : Storage} (earlier : Persists first second)
    (later : Persists second third) : Persists first third := by
  intro id attestation found
  obtain ⟨middle, stored, same, marked⟩ := earlier id attestation found
  obtain ⟨last, kept, unchanged, remains⟩ := later id middle stored
  refine ⟨last, kept, ?_, fun revoked => remains (marked revoked)⟩
  rw [unchanged, same]

theorem persists_of_change {before after : Storage} {act : Act} (indexed : Indexed before)
    (change : Change before after act) : Persists before after := by
  intro id attestation found
  cases change with
  | added subject added changed =>
      have old : id ∉ added.map Attestation.id := by
        have below := (indexed.numbered id attestation found).2
        rw [changed.mem_ids]
        omega
      exact ⟨attestation, (changed.stored_of_old old).trans found, rfl, fun revoked => revoked⟩
  | revoked revoked attestationId changed =>
      by_cases same : id = attestationId
      · subst same
        obtain rfl := Option.some.inj (changed.found.symm.trans found)
        refine ⟨{ revoked with revoked := true }, ?_, rfl, fun _ => rfl⟩
        rw [changed.stored, Function.update_self]
      · refine ⟨attestation, ?_, rfl, fun revoked => revoked⟩
        rw [changed.stored, Function.update_of_ne same, found]
  | kept _ _ stored => exact ⟨attestation, by rw [stored, found], rfl, fun revoked => revoked⟩

variable {Ledger : Type} {ext : Externals Ledger} {self : Address}
variable {start final : State Ledger} {trace : List (Event (State Ledger) Label)}

theorem indexed_of_run (guarded : ext.Guarded self) (indexed : Indexed start.storage)
    (run : Run (Step ext self) start trace final) : Indexed final.storage :=
  run.invariant (fun state => Indexed state.storage) indexed
    fun _ held stepped => held.of_change (step_change guarded stepped)

theorem persists_of_run (guarded : ext.Guarded self) (indexed : Indexed start.storage)
    (run : Run (Step ext self) start trace final) : Persists start.storage final.storage := by
  refine (run.invariant (fun state =>
    Indexed state.storage ∧ Persists start.storage state.storage)
    ⟨indexed, .refl _⟩ ?_).2
  intro event held stepped
  have change := step_change guarded stepped
  exact ⟨held.1.of_change change, held.2.trans (persists_of_change held.1 change)⟩

/-- In every state of every run, the index of each subject lists the live attestations
without repetition and counts them, so that the self-check passes; no call fails by it
while there is room to count; and no record changes but by being revoked. -/
theorem index_integrity (guarded : ext.Guarded self) (unbonded : start.storage.bond.bond = none)
    (fresh : start.storage.Unattested) (run : Run (Step ext self) start trace final) :
    (∀ subject, (final.storage.subjectAttestations subject).Nodup ∧
      (∀ id, id ∈ final.storage.subjectAttestations subject ↔
        id < final.storage.attestationCounter ∧ final.storage.Live subject id) ∧
      (final.storage.subjectAttestationCount subject).getD 0 =
        (final.storage.subjectAttestations subject).length ∧
      assertSelfConsistentForSubject final.storage subject = .ok ()) ∧
    (∀ env call, final.storage.HasRoom (.call call) →
      invoke env final.storage call ≠ .error (.contract .invariantViolation)) ∧
    ∀ event ∈ trace, Persists event.before.storage final.storage := by
  have indexed := indexed_of_run guarded fresh.indexed run
  have sound := sound_of_run guarded unbonded run
  refine ⟨?_, ?_, ?_⟩
  · intro subject
    refine ⟨indexed.nodup subject, ?_, indexed.counted subject, indexed.passes sound subject⟩
    intro id
    rw [indexed.members]
    exact ⟨fun live => ⟨live.lt_counter indexed, live⟩, And.right⟩
  · intro env call room
    exact invoke_ne_drift indexed sound room
  · intro event member
    obtain ⟨earlier, later, position⟩ := List.append_of_mem member
    obtain ⟨before, stepped, remaining⟩ := run.split position
    exact persists_of_run guarded (indexed_of_run guarded fresh.indexed before)
      (.cons stepped remaining)

/-- As far as the bond contract sees the index, its attestations are counted right. -/
theorem Indexed.counted_bond {state : State Ledger} (indexed : Indexed state.storage)
    (identity : Address) : CredenceBond.Counted state.bond identity := by
  intro count counted
  have stored : state.storage.subjectAttestationCount identity = some count := counted
  have length := indexed.counted identity
  rw [stored, Option.getD_some] at length
  exact length.symm

/-- To the bond contract, what its attestations do happens elsewhere, and always counts them
right. -/
theorem countsElsewhere_of_run (guarded : ext.Guarded self) (indexed : Indexed start.storage)
    (run : Run (Step ext self) start trace final) :
    ∀ event ∈ trace.map (Event.map State.bond Label.bond), CredenceBond.CountsElsewhere event := by
  intro event member _ identity
  obtain ⟨event, recorded, rfl⟩ := List.mem_map.mp member
  obtain ⟨_, reached, stepped⟩ := run.reached_of_mem recorded
  have before := indexed_of_run guarded indexed reached
  exact (before.of_change (step_change guarded stepped)).counted_bond identity

theorem Storage.Unattested.initial (fresh : start.storage.Unattested)
    (unbonded : start.storage.bond.bond = none) (unlocked : start.storage.bond.locked = false) :
    CredenceBond.Initial start.bond :=
  ⟨unbonded, unlocked, fresh.indexed.counted_bond⟩

/-- In every reachable state of the contract with its attestations, an eligible bond is
closed in full if and only if nothing of it is slashed and the registered callback contract
takes the notification. -/
theorem closesInFull_iff_of_run (guarded : ext.Guarded self) (fresh : start.storage.Unattested)
    (unbonded : start.storage.bond.bond = none) (unlocked : start.storage.bond.locked = false)
    (run : Run (Step ext self) start trace final) {env : Env} {bond : CredenceBond.IdentityBond}
    (eligible : CredenceBond.Eligible env final.bond bond) (clock : env.timestamp < 2 ^ 64) :
    CredenceBond.ClosesInFull ext env final.bond bond ↔
      bond.slashedAmount = 0 ∧ CredenceBond.TakesNotice ext final.bond bond := by
  have initial := fresh.initial unbonded unlocked
  have reached := bond_of_run run
  have counting := countsElsewhere_of_run guarded fresh.indexed run
  exact CredenceBond.closesInFull_iff guarded eligible clock
    (sound_of_run guarded unbonded run bond eligible.found)
    (CredenceBond.unlocked_of_run initial.unlocked reached)
    (CredenceBond.counted_of_run guarded initial.counted reached counting bond.identity)

end Runs

section Sample

/-- A contract whose admin registered two attesters. -/
def attestersSample : State ReferenceLedger where
  storage := { Storage.deployed with
    bond := CredenceBond.bondSample.storage
    attester := fun account => account = ⟨2⟩ ∨ account = ⟨4⟩ }
  ledger := CredenceBond.bondSample.ledger

/-- One attester attests, alone and in a batch with another, and revokes. -/
def attestedRun : List Label :=
  [ ⟨.signedByAll ⟨0⟩ 0, .call (.addAttestation ⟨2⟩ ⟨3⟩ "kyc" 0)⟩,
    ⟨.signedByAll ⟨0⟩ 1, .call (.addAttestationBatch ⟨3⟩ [⟨⟨2⟩, "aml", 1⟩, ⟨⟨4⟩, "kyc", 0⟩])⟩,
    ⟨.signedByAll ⟨0⟩ 2, .call (.revokeAttestation ⟨2⟩ 0 2)⟩ ]

def attestedTrace : List (Event (State ReferenceLedger) Label) :=
  record (next Externals.reference ⟨0⟩) attestersSample attestedRun

def attestedState : State ReferenceLedger :=
  attestedRun.foldl (advance (next Externals.reference ⟨0⟩)) attestersSample

theorem attestedTrace_run :
    Run (Step Externals.reference ⟨0⟩) attestersSample attestedTrace attestedState :=
  run_of_record step_of_next (by decide +kernel)

/-- The attestation revoked last is live no more, and the other two are. -/
theorem index_integrity_sample :
    ¬attestedState.storage.Live ⟨3⟩ 0 ∧ attestedState.storage.Live ⟨3⟩ 1 ∧
      attestedState.storage.Live ⟨3⟩ 2 := by
  have guarded : Externals.reference.Guarded ⟨0⟩ := CredenceBond.guarded_reference ⟨0⟩
  have members := ((index_integrity guarded rfl ⟨rfl, rfl, rfl, rfl⟩ attestedTrace_run).1 ⟨3⟩).2.1
  have listed : attestedState.storage.subjectAttestations ⟨3⟩ = [1, 2] := by decide +kernel
  simp only [listed] at members
  refine ⟨?_, ?_, ?_⟩
  · intro live
    have missing := (members 0).mpr ⟨by decide +kernel, live⟩
    simp at missing
  · exact ((members 1).mp (by simp)).2
  · exact ((members 2).mp (by simp)).2

end Sample

end Attestations
