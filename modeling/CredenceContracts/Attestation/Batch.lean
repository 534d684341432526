import CredenceContracts.Attestation.Duplicates

/-!
# A batch and its items one by one

A batch authorizes all its items, then checks, weighs and stores them, and indexes them
at once.  Added one by one, each item does all this before the next: nothing that an
item writes is read by the others, so that the same attestations result.
-/

namespace Attestations

open Soroban MachineInt Transition
open CredenceBond (Externals)

/-- The items of a batch, each added by a call of its own. -/
def addEach (env : Env) (subject : Address) :
    Storage → List AttestationBatchItem → Outcome (Storage × List Attestation)
  | storage, [] => return (storage, [])
  | storage, item :: rest => do
      let (storage, attestation) ← addAttestation env storage item.attester subject
        item.attestationData item.nonce
      let (storage, added) ← addEach env subject storage rest
      return (storage, attestation :: added)

section Single

variable {env : Env} {storage authorized : Storage} {subject : Address}
variable {item : AttestationBatchItem}

/-- The attestation of an item under the next id. -/
def Storage.attest (storage : Storage) (env : Env) (subject : Address)
    (item : AttestationBatchItem) : Attestation where
  id := storage.attestationCounter
  verifier := item.attester
  identity := subject
  timestamp := env.timestamp
  weight := computeWeight storage item.attester
  attestationData := item.attestationData
  revoked := false

/-- The entries with an attestation more. -/
def Storage.attested (storage : Storage) (env : Env) (subject : Address)
    (item : AttestationBatchItem) (nonces : Address → Nat) : Storage :=
  { storage with
    nonce := nonces
    attestationCounter := storage.attestationCounter + 1
    attestation := Function.update storage.attestation storage.attestationCounter
      (some (storage.attest env subject item))
    bond := indexAdded storage subject [storage.attestationCounter] }

/-- The authority for an item depends on the registrations and the nonces alone. -/
theorem authorizeAttester_congr {other : Storage} {attester : Address} {nonce : Nat}
    (registered : other.attester = storage.attester) (nonces : other.nonce = storage.nonce)
    (done : authorizeAttester env storage attester nonce = .ok authorized) :
    authorizeAttester env other attester nonce =
      .ok { other with nonce := authorized.nonce } := by
  simp only [authorizeAttester, consumeNonce, Outcome.bind_eq_ok, Outcome.rejectIf_eq_ok,
    checkedU64_eq_ok, Outcome.pure_eq_ok, registered, nonces] at done ⊢
  obtain ⟨_, signed, _, known, _, current, _, ⟨fits, rfl⟩, rfl⟩ := done
  exact ⟨(), signed, (), known, (), current, _, ⟨fits, rfl⟩, rfl⟩

/-- An item that the batch accepts is accepted alone. -/
theorem addAttestation_eq (indexed : Indexed storage) (sound : storage.bond.Sound)
    (done : authorizeAttester env storage item.attester item.nonce = .ok authorized)
    (unrecorded : storage.dedup (item.dedupKey subject) = false)
    (counterRoom : storage.attestationCounter + 1 < 2 ^ 64)
    (listRoom : (storage.subjectAttestations subject).length + 1 < 2 ^ 32) :
    addAttestation env storage item.attester subject item.attestationData item.nonce =
      .ok (storage.attested env subject item authorized.nonce,
        storage.attest env subject item) := by
  have authority := authorizeAttester_congr rfl rfl done
  simp only [addAttestation, Outcome.bind_eq_ok, Outcome.rejectIf_eq_ok, checkedU64_eq_ok,
    Outcome.pure_eq_ok, Prod.mk.injEq]
  refine ⟨_, authority, (), ?_, _, ⟨counterRoom, rfl⟩, (), validateWeight_computeWeight _ _, (),
    ?_, rfl, rfl⟩
  · simpa [AttestationBatchItem.dedupKey] using unrecorded
  · exact indexed.passes_added sound listRoom (added_single rfl rfl rfl unrecorded) rfl

end Single

section Several

variable {env : Env} {storage base batch allowed permitted : Storage} {subject : Address}
variable {items : List AttestationBatchItem} {last : Nat} {added : List Attestation}

/-- The index with some new ids; without any, nothing is written. -/
def Storage.indexing (storage : Storage) (subject : Address) (ids : List Nat) :
    CredenceBond.Storage :=
  if ids = [] then storage.bond else indexAdded storage subject ids

/-- Indexing one id and then some others indexes them all. -/
theorem indexing_attested {item : AttestationBatchItem} {nonces : Address → Nat}
    {ids : List Nat} :
    (storage.attested env subject item nonces).indexing subject ids =
      storage.indexing subject (storage.attestationCounter :: ids) := by
  cases ids with
  | nil => rfl
  | cons id rest =>
      have sums : ∀ count : Nat, saturatingU32 (saturatingU32 (count + 1) + (rest.length + 1)) =
          saturatingU32 (count + (rest.length + 1 + 1)) := by
        intro count
        unfold saturatingU32
        omega
      simp [Storage.indexing, indexAdded, Storage.attested, Storage.subjectAttestations,
        Storage.subjectAttestationCount, sums]

/-- The items that a batch authorizes and stores are added one by one, to the records and
the counter that the batch stores and the nonces that it consumes. -/
theorem addEach_eq (indexed : Indexed storage) (sound : storage.bond.Sound)
    (authorized : items.foldlM (fun storage item =>
      authorizeAttester env storage item.attester item.nonce) allowed = .ok permitted)
    (registered : storage.attester = allowed.attester) (nonces : storage.nonce = allowed.nonce)
    (unrecorded : ∀ item ∈ items, storage.dedup (item.dedupKey subject) = false)
    (stored : storeBatch env subject base storage.attestationCounter items =
      .ok (batch, last, added))
    (records : base.attestation = storage.attestation)
    (weights : ∀ attester, computeWeight base attester = computeWeight storage attester)
    (room : (storage.subjectAttestations subject).length + items.length < 2 ^ 32) :
    addEach env subject storage items =
      .ok ({ storage with
        nonce := permitted.nonce
        attestation := batch.attestation
        attestationCounter := last
        bond := storage.indexing subject (added.map Attestation.id) }, added) := by
  induction items generalizing storage base allowed added with
  | nil =>
      obtain rfl := Outcome.pure_eq_ok.mp authorized
      simp only [storeBatch, Outcome.pure_eq_ok, Prod.mk.injEq] at stored
      obtain ⟨rfl, rfl, rfl⟩ := stored
      simp [addEach, Storage.indexing, ← nonces, records]
  | cons item rest ih =>
      rw [List.foldlM_cons] at authorized
      obtain ⟨middle, first, others⟩ := Outcome.bind_eq_ok.mp authorized
      obtain ⟨freshItem, freshRest⟩ := List.forall_mem_cons.mp unrecorded
      simp only [storeBatch, Outcome.bind_eq_ok, checkedU64_eq_ok, Outcome.pure_eq_ok,
        Prod.mk.injEq] at stored
      obtain ⟨_, ⟨counterRoom, rfl⟩, ⟨_, _, later⟩, remaining, rfl, rfl, rfl⟩ := stored
      rw [List.length_cons] at room
      have listRoom : (storage.subjectAttestations subject).length + 1 < 2 ^ 32 := by omega
      -- The first item alone.
      have single := addAttestation_eq indexed sound
        (authorizeAttester_congr registered nonces first) freshItem counterRoom listRoom
      let next := storage.attested env subject item middle.nonce
      have changed : Added storage next subject [storage.attest env subject item] :=
        added_single rfl rfl rfl freshItem
      have listed : next.subjectAttestations subject =
          storage.subjectAttestations subject ++ [storage.attestationCounter] := by
        simpa [Storage.attest] using changed.subjectAttestations_eq subject
      have sameRegistry : next.attester = middle.attester := by
        obtain ⟨_, rfl⟩ := authorizeAttester_ok first
        exact registered
      have attested : storage.attest env subject item =
          { id := storage.attestationCounter
            verifier := item.attester
            identity := subject
            timestamp := env.timestamp
            weight := computeWeight base item.attester
            attestationData := item.attestationData
            revoked := false } := by
        rw [Storage.attest, weights]
      -- The others from there.
      have following := @ih next _ middle later (indexed.of_added changed listRoom)
        (sound.same rfl) others sameRegistry rfl freshRest remaining
        (by rw [records, ← attested]; rfl) (fun attester => weights attester)
        (by rw [listed, List.length_append, List.length_singleton]; omega)
      rw [indexing_attested] at following
      refine Outcome.bind_eq_ok.mpr ⟨_, single, Outcome.bind_eq_ok.mpr ⟨_, following, ?_⟩⟩
      rw [attested]
      rfl

/-- What a batch does, once for each of its loops. -/
theorem addAttestationBatch_parts {after : Storage}
    (done : addAttestationBatch env storage subject items = .ok (after, added)) :
    ∃ permitted batch last,
      items.foldlM (fun storage item =>
        authorizeAttester env storage item.attester item.nonce) storage = .ok permitted ∧
      (∀ item ∈ items, storage.dedup (item.dedupKey subject) = false) ∧
      storeBatch env subject permitted storage.attestationCounter items =
        .ok (batch, last, added) ∧
      after = { batch with
        attestationCounter := last
        bond := indexAdded batch subject (added.map Attestation.id) } ∧ items ≠ [] := by
  simp only [addAttestationBatch, Outcome.bind_eq_ok, Outcome.rejectIf_eq_ok,
    Outcome.pure_eq_ok, Prod.mk.injEq, not_exists, not_and, Bool.not_eq_true] at done
  obtain ⟨_, some, _, -, _, -, _, authorized, _, unrecorded, _, -, _, -, ⟨batch, last, _⟩, stored,
    _, -, rfl, rfl⟩ := done
  obtain ⟨_, rfl⟩ := authorizeAll_ok authorized
  exact ⟨_, batch, last, authorized, unrecorded, stored, rfl, some⟩

end Several

section Runs

variable {Ledger : Type} {ext : Externals Ledger} {self : Address}
variable {start final : State Ledger} {trace : List (Event (State Ledger) Label)}

/-- In every reachable state, the items of a batch that succeeds can be added one by one,
which returns the same attestations and ends in the same state but for the keys that the
batch records. -/
theorem batch_eq_singles (guarded : ext.Guarded self)
    (unbonded : start.storage.bond.bond = none) (fresh : start.storage.Unattested)
    (run : Run (Step ext self) start trace final) {env : Env} {subject : Address}
    {items : List AttestationBatchItem} {batched : Storage} {added : List Attestation}
    (done : addAttestationBatch env final.storage subject items = .ok (batched, added)) :
    addEach env subject final.storage items =
      .ok ({ batched with dedup := final.storage.dedup }, added) := by
  have indexed := indexed_of_run guarded fresh.indexed run
  have sound := sound_of_run guarded unbonded run
  obtain ⟨changed, keys, -, passed⟩ := addAttestationBatch_ok done
  obtain ⟨permitted, batch, last, authorized, unrecorded, stored, rfl, some⟩ :=
    addAttestationBatch_parts done
  obtain ⟨nonces, rfl⟩ := authorizeAll_ok authorized
  have several : added.length = items.length := by simpa using congrArg List.length keys
  have room := changed.room_of_passed indexed passed
  have each := addEach_eq indexed sound authorized rfl rfl unrecorded stored rfl
    (fun _ => rfl) (several ▸ room)
  obtain ⟨-, -, -, -, frame⟩ := storeBatch_ok stored
  have written : added.map Attestation.id ≠ [] := by
    intro none
    rw [List.map_eq_nil_iff] at none
    exact some (List.length_eq_zero_iff.mp (by rw [← several, none, List.length_nil]))
  rw [each, Storage.indexing, if_neg written, frame]
  rfl

end Runs

section Sample

/-- A batch of the two attesters. -/
def batchItems : List AttestationBatchItem :=
  [⟨⟨2⟩, "kyc", 3⟩, ⟨⟨4⟩, "aml", 1⟩]

/-- The two items can be added one by one. -/
theorem batch_eq_singles_sample :
    ∃ batched added,
      addAttestationBatch (.signedByAll ⟨0⟩ 3) attestedState.storage ⟨3⟩ batchItems =
        .ok (batched, added) ∧
      addEach (.signedByAll ⟨0⟩ 3) ⟨3⟩ attestedState.storage batchItems =
        .ok ({ batched with dedup := attestedState.storage.dedup }, added) := by
  have guarded : Externals.reference.Guarded ⟨0⟩ := CredenceBond.guarded_reference ⟨0⟩
  have fresh : attestersSample.storage.Unattested := ⟨rfl, rfl, rfl, rfl⟩
  have succeeds : (addAttestationBatch (.signedByAll ⟨0⟩ 3) attestedState.storage ⟨3⟩
      batchItems).isOk = true := by decide +kernel
  obtain ⟨⟨batched, added⟩, done⟩ := Outcome.exists_of_isOk succeeds
  exact ⟨batched, added, done, batch_eq_singles guarded rfl fresh attestedTrace_run done⟩

end Sample

end Attestations
