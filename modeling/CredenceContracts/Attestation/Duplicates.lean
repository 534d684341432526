import CredenceContracts.Attestation.Index

/-!
# Duplicate attestations

A batch records the keys of what it attests, a revocation takes the key back, and both
adding entry points look for it.  Adding a single attestation records nothing, so what
it attested can be attested again while it stands.
-/

namespace Attestations

open Soroban MachineInt Transition
open CredenceBond (Externals maxAttestationWeight)

section Keys

variable {storage before after : Storage} {subject : Address} {added : List Attestation}
variable {attestation : Attestation} {attestationId : Nat} {key : AttestationDedupKey}

/-- The attestation of the key under this id is not revoked. -/
def Storage.Attests (storage : Storage) (key : AttestationDedupKey) (id : Nat) : Prop :=
  storage.Standing (fun attestation => attestation.dedupKey = key) id

/-- No two attestations of one verifier, identity and data stand at once. -/
def Storage.DuplicateFree (storage : Storage) : Prop :=
  ∀ key first second, storage.Attests key first → storage.Attests key second → first = second

theorem Storage.Unattested.duplicateFree (fresh : storage.Unattested) :
    storage.DuplicateFree := by
  rintro key first second ⟨attestation, found, -⟩
  simp [fresh.attestation] at found

theorem Added.attests_iff (changed : Added before after subject added)
    (indexed : Indexed before) {id : Nat} :
    after.Attests key id ↔
      (∃ attestation ∈ added, attestation.id = id ∧ attestation.dedupKey = key) ∨
        before.Attests key id :=
  changed.standing_iff indexed

theorem Added.attests_of_mem (changed : Added before after subject added)
    (indexed : Indexed before) (member : attestation ∈ added) :
    after.Attests attestation.dedupKey attestation.id :=
  (changed.attests_iff indexed).mpr (.inl ⟨attestation, member, rfl, rfl⟩)

theorem Added.attests_other (changed : Added before after subject added)
    (indexed : Indexed before) (other : key ∉ added.map Attestation.dedupKey) {id : Nat} :
    after.Attests key id ↔ before.Attests key id := by
  rw [changed.attests_iff indexed, or_iff_right_iff_imp]
  rintro ⟨attestation, member, -, rfl⟩
  exact absurd (List.mem_map_of_mem member) other

/-- New attestations are for new keys only if no attestation of their keys stands. -/
theorem Added.duplicateFree_iff (changed : Added before after subject added)
    (indexed : Indexed before) (single : before.DuplicateFree) :
    after.DuplicateFree ↔
      ∀ attestation ∈ added, ∀ id, ¬before.Attests attestation.dedupKey id := by
  constructor
  · intro alone attestation member id standing
    have same := alone attestation.dedupKey id attestation.id
      ((changed.attests_iff indexed).mpr (.inr standing))
      (changed.attests_of_mem indexed member)
    have below := standing.lt_counter indexed
    have above := (changed.mem_ids.mp (List.mem_map_of_mem member)).1
    omega
  · intro unattested key first second firstStands secondStands
    rcases (changed.attests_iff indexed).mp firstStands with
      ⟨one, oneMember, rfl, rfl⟩ | firstOld
    · rcases (changed.attests_iff indexed).mp secondStands with
        ⟨other, otherMember, rfl, same⟩ | secondOld
      · rw [List.inj_on_of_nodup_map changed.distinct otherMember oneMember same]
      · exact absurd secondOld (unattested one oneMember second)
    · rcases (changed.attests_iff indexed).mp secondStands with
        ⟨other, otherMember, rfl, rfl⟩ | secondOld
      · exact absurd firstOld (unattested other otherMember first)
      · exact single key first second firstOld secondOld

theorem Revoked.attests_iff (changed : Revoked before after attestation attestationId)
    {id : Nat} : after.Attests key id ↔ id ≠ attestationId ∧ before.Attests key id :=
  changed.standing_iff

theorem Revoked.attests (changed : Revoked before after attestation attestationId) :
    before.Attests attestation.dedupKey attestationId :=
  ⟨attestation, changed.found, rfl, changed.unrevoked⟩

theorem Revoked.attests_other (changed : Revoked before after attestation attestationId)
    (other : attestation.dedupKey ≠ key) {id : Nat} :
    after.Attests key id ↔ before.Attests key id := by
  rw [changed.attests_iff, and_iff_right_iff_imp]
  rintro ⟨stored, found, rfl, -⟩ rfl
  exact other (congrArg _ (Option.some.inj (changed.found.symm.trans found)))

/-- Where an attestation stood alone, none of its key stands once it is revoked. -/
theorem Revoked.not_attests (changed : Revoked before after attestation attestationId)
    (single : before.DuplicateFree) {id : Nat} : ¬after.Attests attestation.dedupKey id := by
  intro stands
  obtain ⟨other, stood⟩ := changed.attests_iff.mp stands
  exact other (single _ _ _ stood changed.attests)

/-- Revoking makes no duplicates. -/
theorem Revoked.duplicateFree (changed : Revoked before after attestation attestationId)
    (single : before.DuplicateFree) : after.DuplicateFree := by
  intro key first second firstStands secondStands
  exact single key first second (changed.attests_iff.mp firstStands).2
    (changed.attests_iff.mp secondStands).2

/-- A recorded key belongs to an attestation that stands. -/
def Storage.RecordsStanding (storage : Storage) : Prop :=
  ∀ key, storage.dedup key = true → ∃ id, storage.Attests key id

theorem Storage.RecordsStanding.step {act : Act} (recorded : before.RecordsStanding)
    (indexed : Indexed before) (change : Change before after act) : after.RecordsStanding := by
  intro key marked
  cases change with
  | added subject added changed named _ marks =>
      rcases (marks key).mp marked with ⟨-, target⟩ | earlier
      · rw [← named] at target
        obtain ⟨attestation, member, rfl⟩ := List.mem_map.mp target
        exact ⟨attestation.id, changed.attests_of_mem indexed member⟩
      · obtain ⟨id, standing⟩ := recorded key earlier
        exact ⟨id, (changed.attests_iff indexed).mpr (.inr standing)⟩
  | revoked attestation attestationId changed =>
      have other : attestation.dedupKey ≠ key := by
        rintro rfl
        simp [changed.dedup] at marked
      rw [changed.dedup, Function.update_of_ne (Ne.symm other)] at marked
      simpa only [changed.attests_other other] using recorded key marked
  | kept _ _ stored marks =>
      rw [marks] at marked
      simpa only [Storage.Attests, Storage.Standing, stored] using recorded key marked

end Keys

section History

variable {Ledger : Type} {trace : List (Event (State Ledger) Label)}
variable {event : Event (State Ledger) Label} {key : AttestationDedupKey}

/-- The event revokes an attestation of the key. -/
def Revokes (key : AttestationDedupKey) (event : Event (State Ledger) Label) : Prop :=
  ∃ id attestation, event.label.act.revokes = some id ∧
    event.before.storage.attestation id = some attestation ∧ attestation.dedupKey = key

/-- The event attests the key by itself. -/
def AddsSingly (key : AttestationDedupKey) (event : Event (State Ledger) Label) : Prop :=
  ∃ nonce, event.label.act =
    .call (.addAttestation key.verifier key.identity key.attestationData nonce)

/-- The key was attested by `add_attestation` and not revoked since. -/
def SinglyAttested (trace : List (Event (State Ledger) Label)) (key : AttestationDedupKey) :
    Prop :=
  Since (AddsSingly key) (Revokes key) trace

/-- While there are no duplicates, an attestation of a key stands exactly if the key is
recorded or was attested singly. -/
def Tracked (trace : List (Event (State Ledger) Label)) (storage : Storage) : Prop :=
  ∀ key, (∃ id, storage.Attests key id) ↔ storage.dedup key = true ∨ SinglyAttested trace key

theorem Storage.Unattested.tracked {storage : Storage} (fresh : storage.Unattested) :
    Tracked ([] : List (Event (State Ledger) Label)) storage := by
  intro key
  simp [Storage.Attests, Storage.Standing, SinglyAttested, not_since_nil, fresh.attestation,
    fresh.dedup]

theorem AddsSingly.target (adds : AddsSingly key event) : key ∈ event.label.act.targets := by
  obtain ⟨nonce, same⟩ := adds
  simp [same, Act.targets]

/-- What a batch does not record is added singly. -/
theorem addsSingly_of_target (target : key ∈ event.label.act.targets)
    (unrecorded : event.label.act.records = false) : AddsSingly key event := by
  obtain ⟨before, ⟨env, act⟩, after⟩ := event
  cases act with
  | bond call => cases target
  | call call =>
      cases call with
      | addAttestation attester subject attestationData nonce =>
          obtain rfl := List.mem_singleton.mp target
          exact ⟨nonce, rfl⟩
      | addAttestationBatch subject items => cases unrecorded
      | _ => cases target

theorem singlyAttested_of_other (untargeted : key ∉ event.label.act.targets)
    (unrevoked : ¬Revokes key event) :
    SinglyAttested (trace ++ [event]) key ↔ SinglyAttested trace key := by
  have unadded : ¬AddsSingly key event := fun adds => untargeted adds.target
  simp [SinglyAttested, since_snoc, unadded, unrevoked]

theorem not_revokes (unrevoked : event.label.act.revokes = none) : ¬Revokes key event := by
  rintro ⟨id, attestation, revokes, -⟩
  simp [unrevoked] at revokes

/-- What is added is recorded or was added singly. -/
theorem Tracked.of_added {subject : Address} {added : List Attestation}
    (tracked : Tracked trace event.before.storage) (indexed : Indexed event.before.storage)
    (changed : Added event.before.storage event.after.storage subject added)
    (named : added.map Attestation.dedupKey = event.label.act.targets)
    (unrevoked : event.label.act.revokes = none)
    (marks : ∀ key, event.after.storage.dedup key = true ↔
      (event.label.act.records = true ∧ key ∈ event.label.act.targets) ∨
        event.before.storage.dedup key = true) :
    Tracked (trace ++ [event]) event.after.storage := by
  intro key
  by_cases target : key ∈ event.label.act.targets
  · have stands : ∃ id, event.after.storage.Attests key id := by
      obtain ⟨attestation, member, rfl⟩ := List.mem_map.mp (named ▸ target)
      exact ⟨attestation.id, changed.attests_of_mem indexed member⟩
    refine iff_of_true stands ?_
    cases records : event.label.act.records with
    | true => exact .inl ((marks key).mpr (.inl ⟨records, target⟩))
    | false => exact .inr (since_snoc.mpr (.inl (addsSingly_of_target target records)))
  · simp only [changed.attests_other indexed (named ▸ target), marks key, target, and_false,
      false_or, singlyAttested_of_other target (not_revokes unrevoked)]
    exact tracked key

/-- What is revoked stands no more, is not recorded and counts as revoked. -/
theorem Tracked.of_revoked {attestation : Attestation} {attestationId : Nat}
    (tracked : Tracked trace event.before.storage)
    (single : event.before.storage.DuplicateFree)
    (changed : Revoked event.before.storage event.after.storage attestation attestationId)
    (untargeted : event.label.act.targets = [])
    (revokes : event.label.act.revokes = some attestationId) :
    Tracked (trace ++ [event]) event.after.storage := by
  intro key
  have unadded : key ∉ event.label.act.targets := by simp [untargeted]
  by_cases same : attestation.dedupKey = key
  · subst same
    have closes : Revokes attestation.dedupKey event :=
      ⟨attestationId, attestation, revokes, changed.found, rfl⟩
    apply iff_of_false
    · rintro ⟨id, stands⟩
      exact changed.not_attests single stands
    · rintro (marked | attested)
      · simp [changed.dedup] at marked
      · rcases since_snoc.mp attested with adds | ⟨kept, -⟩
        · exact unadded adds.target
        · exact kept closes
  · have unrevoked : ¬Revokes key event := by
      rintro ⟨id, revoked, revoking, found, rfl⟩
      obtain rfl := Option.some.inj (revoking.symm.trans revokes)
      exact same (congrArg _ (Option.some.inj (changed.found.symm.trans found)))
    rw [singlyAttested_of_other unadded unrevoked, changed.dedup,
      Function.update_of_ne (Ne.symm same)]
    simpa only [changed.attests_other same] using tracked key

theorem Tracked.step (tracked : Tracked trace event.before.storage)
    (indexed : Indexed event.before.storage) (single : event.before.storage.DuplicateFree)
    (change : Change event.before.storage event.after.storage event.label.act) :
    Tracked (trace ++ [event]) event.after.storage := by
  cases change with
  | added subject added changed named unrevoked marks =>
      exact tracked.of_added indexed changed named unrevoked marks
  | revoked attestation attestationId changed untargeted revokes =>
      exact tracked.of_revoked single changed untargeted revokes
  | kept untargeted unrevoked stored marks =>
      intro key
      rw [singlyAttested_of_other (by simp [untargeted]) (not_revokes unrevoked), marks]
      simpa only [Storage.Attests, Storage.Standing, stored] using tracked key

/-- From a state without duplicates, a step makes none exactly if what it attests was
not attested singly before. -/
theorem duplicateFree_step_iff (tracked : Tracked trace event.before.storage)
    (indexed : Indexed event.before.storage) (single : event.before.storage.DuplicateFree)
    (change : Change event.before.storage event.after.storage event.label.act) :
    event.after.storage.DuplicateFree ↔
      ∀ key ∈ event.label.act.targets, ¬SinglyAttested trace key := by
  cases change with
  | added subject added changed named =>
      have unmarked : ∀ attestation ∈ added,
          (∀ id, ¬event.before.storage.Attests attestation.dedupKey id) ↔
            ¬SinglyAttested trace attestation.dedupKey := by
        intro attestation member
        have unrecorded := changed.unrecorded attestation member
        simpa [unrecorded] using not_congr (tracked attestation.dedupKey)
      rw [changed.duplicateFree_iff indexed single, ← named, List.forall_mem_map]
      exact forall₂_congr unmarked
  | revoked attestation attestationId changed untargeted =>
      simp [untargeted, changed.duplicateFree single]
  | kept untargeted _ stored =>
      have unchanged : event.after.storage.DuplicateFree := by
        simpa only [Storage.DuplicateFree, Storage.Attests, Storage.Standing, stored]
          using single
      simp [untargeted, unchanged]

end History

section Again

variable {env : Env} {storage : Storage} {key : AttestationDedupKey} {nonce : Nat}

/-- Everything that `add_attestation` asks but that the triple is not recorded: the
verifier is registered and signs with its next nonce, and no counter is full. -/
structure Admissible (env : Env) (storage : Storage) (key : AttestationDedupKey) (nonce : Nat) :
    Prop where
  authorized : env.authorized key.verifier = true
  registered : storage.attester key.verifier = true
  current : storage.nonce key.verifier = nonce
  nonceRoom : nonce + 1 < 2 ^ 64
  counterRoom : storage.attestationCounter + 1 < 2 ^ 64
  listRoom : (storage.subjectAttestations key.identity).length + 1 < 2 ^ 32

theorem validateWeight_computeWeight (storage : Storage) (attester : Address) :
    validateWeight (computeWeight storage attester) = .ok () := by
  have positive : computeWeight storage attester ≠ 0 := by
    simp only [computeWeight, defaultAttestationWeight]
    split <;> omega
  have bounded : computeWeight storage attester ≤ maxAttestationWeight := by
    simp only [computeWeight, defaultAttestationWeight, maxAttestationWeight, wrappingU32]
    split <;> omega
  simp [validateWeight, positive, bounded]

theorem addAttestation_succeeds (indexed : Indexed storage) (sound : storage.bond.Sound)
    (admissible : Admissible env storage key nonce) (unrecorded : storage.dedup key = false) :
    ∃ added, addAttestation env storage key.verifier key.identity key.attestationData nonce =
      .ok added := by
  obtain ⟨authorized, registered, rfl, nonceRoom, counterRoom, listRoom⟩ := admissible
  have authorize : ∃ nonces, authorizeAttester env storage key.verifier
      (storage.nonce key.verifier) = .ok { storage with nonce := nonces } := by
    simpa [authorizeAttester, consumeNonce, authorized, registered] using nonceRoom
  obtain ⟨nonces, authorize⟩ := authorize
  simp only [addAttestation, Outcome.bind_eq_ok, Outcome.rejectIf_eq_ok, checkedU64_eq_ok,
    Outcome.pure_eq_ok]
  refine ⟨_, _, authorize, (), by simp [unrecorded], _, ⟨counterRoom, rfl⟩, (),
    validateWeight_computeWeight _ _, (), ?_, rfl⟩
  exact indexed.passes_added sound listRoom (added_single rfl rfl rfl unrecorded) rfl

end Again

section Runs

variable {Ledger : Type} {ext : Externals Ledger} {self : Address}
variable {start final : State Ledger} {trace : List (Event (State Ledger) Label)}

theorem recordsStanding_of_run (guarded : ext.Guarded self) (fresh : start.storage.Unattested)
    (run : Run (Step ext self) start trace final) : final.storage.RecordsStanding := by
  refine (run.invariant (fun state => Indexed state.storage ∧ state.storage.RecordsStanding)
    ⟨fresh.indexed, ?_⟩ ?_).2
  · intro key marked
    simp [fresh.dedup] at marked
  · intro event held stepped
    have change := step_change guarded stepped
    exact ⟨held.1.of_change change, held.2.step held.1 change⟩

/-- No two equal attestations stand in any state of a run if and only if nothing is
attested, alone or in a batch, that `add_attestation` attested and no one revoked since.
A triple without a standing attestation can always be attested again. -/
theorem duplicate_free_iff (guarded : ext.Guarded self)
    (unbonded : start.storage.bond.bond = none) (fresh : start.storage.Unattested)
    (run : Run (Step ext self) start trace final) :
    ((∀ event ∈ trace, event.after.storage.DuplicateFree) ↔
      ∀ earlier event later, trace = earlier ++ event :: later →
        ∀ key ∈ event.label.act.targets, ¬SinglyAttested earlier key) ∧
    ∀ key env nonce, (∀ id, ¬final.storage.Attests key id) →
      Admissible env final.storage key nonce →
        ∃ added, addAttestation env final.storage key.verifier key.identity
          key.attestationData nonce = .ok added := by
  constructor
  · apply run.forall_after_iff_at (fun state => state.storage.DuplicateFree)
      (fun trace state => Indexed state.storage ∧ Tracked trace state.storage)
      (fun earlier event => ∀ key ∈ event.label.act.targets, ¬SinglyAttested earlier key)
    · exact fresh.duplicateFree
    · exact ⟨fresh.indexed, fresh.tracked⟩
    · intro trace event sound single stepped
      have change := step_change guarded stepped
      exact ⟨sound.1.of_change change, sound.2.step sound.1 single change⟩
    · intro trace event sound single stepped
      exact duplicateFree_step_iff sound.2 sound.1 single (step_change guarded stepped)
  · intro key env nonce unattested admissible
    apply addAttestation_succeeds (indexed_of_run guarded fresh.indexed run)
      (sound_of_run guarded unbonded run) admissible
    rw [← Bool.not_eq_true]
    intro marked
    obtain ⟨id, stands⟩ := recordsStanding_of_run guarded fresh run key marked
    exact unattested id stands

end Runs

section Sample

/-- One attester attests the same twice. -/
def repeatedRun : List Label :=
  [ ⟨.signedByAll ⟨0⟩ 0, .call (.addAttestation ⟨2⟩ ⟨3⟩ "kyc" 0)⟩,
    ⟨.signedByAll ⟨0⟩ 1, .call (.addAttestation ⟨2⟩ ⟨3⟩ "kyc" 1)⟩ ]

def repeatedTrace : List (Event (State ReferenceLedger) Label) :=
  record (next Externals.reference ⟨0⟩) attestersSample repeatedRun

def repeatedState : State ReferenceLedger :=
  repeatedRun.foldl (advance (next Externals.reference ⟨0⟩)) attestersSample

theorem repeatedTrace_run :
    Run (Step Externals.reference ⟨0⟩) attestersSample repeatedTrace repeatedState :=
  run_of_record step_of_next (by decide +kernel)

/-- Both attestations stand. -/
theorem attested_twice :
    ∃ trace final, Run (Step Externals.reference ⟨0⟩) attestersSample trace final ∧
      attestersSample.storage.Unattested ∧ trace.map Event.label = repeatedRun ∧
        ¬final.storage.DuplicateFree := by
  refine ⟨_, _, repeatedTrace_run, ⟨rfl, rfl, rfl, rfl⟩, rfl, ?_⟩
  intro single
  have first : repeatedState.storage.Attests ⟨⟨2⟩, ⟨3⟩, "kyc"⟩ 0 :=
    ⟨⟨0, ⟨2⟩, ⟨3⟩, 0, 1, "kyc", false⟩, by decide +kernel, rfl, rfl⟩
  have second : repeatedState.storage.Attests ⟨⟨2⟩, ⟨3⟩, "kyc"⟩ 1 :=
    ⟨⟨1, ⟨2⟩, ⟨3⟩, 1, 1, "kyc", false⟩, by decide +kernel, rfl, rfl⟩
  exact absurd (single _ 0 1 first second) (by decide)

/-- What was revoked can be attested again. -/
theorem duplicate_free_sample :
    ∃ added, addAttestation (.signedByAll ⟨0⟩ 3) attestedState.storage ⟨2⟩ ⟨3⟩ "kyc" 3 =
      .ok added := by
  have guarded : Externals.reference.Guarded ⟨0⟩ := CredenceBond.guarded_reference ⟨0⟩
  have fresh : attestersSample.storage.Unattested := ⟨rfl, rfl, rfl, rfl⟩
  apply (duplicate_free_iff guarded rfl fresh attestedTrace_run).2 ⟨⟨2⟩, ⟨3⟩, "kyc"⟩
  · intro id stands
    have counter : attestedState.storage.attestationCounter = 3 := by decide +kernel
    have below := stands.lt_counter (indexed_of_run guarded fresh.indexed attestedTrace_run)
    have checked : ∀ id < 3, (attestedState.storage.attestation id).all fun record =>
        record.dedupKey ≠ ⟨⟨2⟩, ⟨3⟩, "kyc"⟩ || record.revoked := by
      decide +kernel
    obtain ⟨record, found, same, unrevoked⟩ := stands
    have failed := checked id (counter ▸ below)
    simp [found, same, unrevoked] at failed
  · constructor <;> decide +kernel

end Sample

end Attestations
