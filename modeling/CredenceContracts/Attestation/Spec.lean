import CredenceContracts.Attestation.Contract
import CredenceContracts.Bond.Change
import Mathlib.Data.List.Nodup

/-!
# What each attestation operation does

An operation adds live attestations of one subject under the next ids, marks one of
them revoked, or leaves them all alone.  The bond contract sees of this that the
lists of ids and their counters change.
-/

namespace Attestations

open Soroban MachineInt Transition

section Parts

variable {env : Env} {storage after : Storage} {attester subject : Address}

theorem consumeNonce_ok {nonce : Nat} (done : consumeNonce storage attester nonce = .ok after) :
    storage.nonce attester = nonce ∧ ∃ nonces, after = { storage with nonce := nonces } := by
  simp only [consumeNonce, Outcome.bind_eq_ok, Outcome.rejectIf_eq_ok, checkedU64_eq_ok,
    Outcome.pure_eq_ok, not_not] at done
  obtain ⟨_, current, _, -, rfl⟩ := done
  exact ⟨current, _, rfl⟩

theorem authorizeAttester_ok {nonce : Nat}
    (done : authorizeAttester env storage attester nonce = .ok after) :
    ∃ nonces, after = { storage with nonce := nonces } := by
  simp only [authorizeAttester, Outcome.bind_eq_ok] at done
  obtain ⟨_, -, _, -, consumed⟩ := done
  exact (consumeNonce_ok consumed).2

theorem authorizeAll_ok {items : List AttestationBatchItem}
    (done : items.foldlM
      (fun storage item => authorizeAttester env storage item.attester item.nonce) storage =
        .ok after) :
    ∃ nonces, after = { storage with nonce := nonces } := by
  induction items generalizing storage with
  | nil =>
      obtain rfl := Outcome.pure_eq_ok.mp done
      exact ⟨_, rfl⟩
  | cons item rest ih =>
      rw [List.foldlM_cons] at done
      obtain ⟨middle, authorized, remaining⟩ := Outcome.bind_eq_ok.mp done
      obtain ⟨_, rfl⟩ := authorizeAttester_ok authorized
      obtain ⟨nonces, rfl⟩ := ih remaining
      exact ⟨nonces, rfl⟩

@[simp] theorem checkAttestationCountConsistent_eq_ok {result : Unit} :
    checkAttestationCountConsistent storage subject = .ok result ↔
      ∀ count, storage.subjectAttestationCount subject = some count →
        (storage.subjectAttestations subject).length = count := by
  unfold checkAttestationCountConsistent
  cases storage.subjectAttestationCount subject with
  | none => simp
  | some count => simp

/-- The check after a write covers the owner of the bond and the subject. -/
theorem assertSelfConsistentForSubject_eq_ok :
    assertSelfConsistentForSubject storage subject = .ok () ↔
      CredenceBond.assertSelfConsistent storage.bond = .ok () ∧
        checkAttestationCountConsistent storage subject = .ok () := by
  simp only [assertSelfConsistentForSubject, Outcome.bind_eq_ok]
  cases stored : storage.bond.bond with
  | none => simp
  | some bond =>
      by_cases owner : bond.identity = subject
      · subst owner
        have counted : CredenceBond.assertSelfConsistent storage.bond = .ok () →
            checkAttestationCountConsistent storage bond.identity = .ok () := by
          intro passed
          apply checkAttestationCountConsistent_eq_ok.mpr
          exact ((CredenceBond.assertSelfConsistent_iff stored).mp passed).2
        simpa using counted
      · simp [owner]

end Parts

section Adding

/-- New live attestations of a subject, stored under the ids from the counter on. -/
structure Appends (before after : Nat → Option Attestation) (subject : Address) (nextId : Nat)
    (added : List Attestation) : Prop where
  ids : added.map Attestation.id = List.range' nextId added.length
  live : ∀ attestation ∈ added, attestation.identity = subject ∧ attestation.revoked = false
  stored : ∀ attestation ∈ added, after attestation.id = some attestation
  kept : ∀ id, id < nextId ∨ nextId + added.length ≤ id → after id = before id

variable {env : Env} {storage after : Storage} {subject : Address} {nextId last : Nat}
variable {items : List AttestationBatchItem} {added : List Attestation}

theorem Appends.single {before : Nat → Option Attestation} {attestation : Attestation}
    (numbered : attestation.id = nextId) (about : attestation.identity = subject)
    (unrevoked : attestation.revoked = false) :
    Appends before (Function.update before nextId (some attestation)) subject nextId
      [attestation] where
  ids := by simp [numbered]
  live := by simp [about, unrevoked]
  stored := by simp [numbered]
  kept id outside := by
    have other : id ≠ nextId := by
      simp only [List.length_singleton] at outside
      omega
    exact Function.update_of_ne other _ _

theorem Appends.cons {before middle after : Nat → Option Attestation}
    {attestation : Attestation} (numbered : attestation.id = nextId)
    (about : attestation.identity = subject) (unrevoked : attestation.revoked = false)
    (first : middle = Function.update before nextId (some attestation))
    (rest : Appends middle after subject (nextId + 1) added) :
    Appends before after subject nextId (attestation :: added) where
  ids := by
    simp only [List.map_cons, List.length_cons, List.range'_succ, numbered, rest.ids]
  live := by
    simp only [List.forall_mem_cons]
    exact ⟨⟨about, unrevoked⟩, rest.live⟩
  stored := by
    simp only [List.forall_mem_cons]
    constructor
    · rw [rest.kept attestation.id (.inl (by omega)), first, numbered, Function.update_self]
    · exact rest.stored
  kept id outside := by
    simp only [List.length_cons] at outside
    rw [rest.kept id (by omega), first]
    exact Function.update_of_ne (by omega) _ _

/-- A batch appends one attestation for each item and records its key. -/
theorem storeBatch_ok
    (done : storeBatch env subject storage nextId items = .ok (after, last, added)) :
    Appends storage.attestation after.attestation subject nextId added ∧
      last = nextId + added.length ∧
        added.map Attestation.dedupKey = items.map (·.dedupKey subject) ∧
          (∀ key, after.dedup key = true ↔
            key ∈ items.map (·.dedupKey subject) ∨ storage.dedup key = true) ∧
            after = { storage with attestation := after.attestation, dedup := after.dedup } := by
  induction items generalizing storage nextId added with
  | nil =>
      simp only [storeBatch, Outcome.pure_eq_ok, Prod.mk.injEq] at done
      obtain ⟨rfl, rfl, rfl⟩ := done
      refine ⟨⟨rfl, by simp, by simp, fun _ _ => rfl⟩, rfl, rfl, by simp, rfl⟩
  | cons item rest ih =>
      simp only [storeBatch, Outcome.bind_eq_ok, checkedU64_eq_ok, Outcome.pure_eq_ok,
        Prod.mk.injEq] at done
      obtain ⟨_, ⟨-, rfl⟩, ⟨_, _, others⟩, remaining, rfl, rfl, rfl⟩ := done
      obtain ⟨appends, rfl, keys, recorded, frame⟩ := ih remaining
      refine ⟨appends.cons rfl rfl rfl rfl, ?_, ?_, ?_, ?_⟩
      · simp only [List.length_cons]
        omega
      · simp only [List.map_cons, keys]
        rfl
      · intro key
        rw [recorded]
        by_cases same : key = item.dedupKey subject
        · simp [same]
        · simp [same]
      · rw [frame]

end Adding

section Operations

variable {env : Env} {storage after : Storage} {attester subject : Address}

/-- Attestations of a subject were added and indexed. -/
structure Added (before after : Storage) (subject : Address) (added : List Attestation) :
    Prop where
  appends : Appends before.attestation after.attestation subject before.attestationCounter
    added
  distinct : (added.map Attestation.dedupKey).Nodup
  unrecorded : ∀ attestation ∈ added, before.dedup attestation.dedupKey = false
  counter : after.attestationCounter = before.attestationCounter + added.length
  bond : after.bond = indexAdded before subject (added.map Attestation.id)

theorem added_single {attestation : Attestation} {nonces : Address → Nat}
    (numbered : attestation.id = storage.attestationCounter)
    (about : attestation.identity = subject) (unrevoked : attestation.revoked = false)
    (unrecorded : storage.dedup attestation.dedupKey = false) :
    Added storage { storage with
      nonce := nonces
      attestationCounter := storage.attestationCounter + 1
      attestation :=
        Function.update storage.attestation storage.attestationCounter (some attestation)
      bond := indexAdded storage subject [storage.attestationCounter] } subject
      [attestation] where
  appends := .single numbered about unrevoked
  distinct := by simp
  unrecorded := by simpa using unrecorded
  counter := rfl
  bond := by simp [numbered]

theorem addAttestation_ok {attestationData : String} {nonce : Nat} {attestation : Attestation}
    (done : addAttestation env storage attester subject attestationData nonce =
      .ok (after, attestation)) :
    Added storage after subject [attestation] ∧
      attestation.dedupKey = ⟨attester, subject, attestationData⟩ ∧
        after.dedup = storage.dedup ∧
          assertSelfConsistentForSubject after subject = .ok () := by
  simp only [addAttestation, Outcome.bind_eq_ok, Outcome.rejectIf_eq_ok, checkedU64_eq_ok,
    Outcome.pure_eq_ok, Prod.mk.injEq, Bool.not_eq_true] at done
  obtain ⟨_, authorized, _, unrecorded, _, ⟨-, rfl⟩, _, -, _, passed, rfl, rfl⟩ := done
  obtain ⟨_, rfl⟩ := authorizeAttester_ok authorized
  exact ⟨added_single rfl rfl rfl unrecorded, rfl, rfl, passed⟩

theorem added_batch {items : List AttestationBatchItem} {nonces : Address → Nat}
    {batch : Storage} {last : Nat} {added : List Attestation}
    (distinct : (items.map AttestationBatchItem.attester).Nodup)
    (unrecorded : ∀ item ∈ items, storage.dedup (item.dedupKey subject) = false)
    (stored : storeBatch env subject { storage with nonce := nonces }
      storage.attestationCounter items = .ok (batch, last, added)) :
    Added storage { batch with
      attestationCounter := last
      bond := indexAdded batch subject (added.map Attestation.id) } subject added := by
  obtain ⟨appends, rfl, keys, -, frame⟩ := storeBatch_ok stored
  constructor
  · exact appends
  · rw [keys]
    apply List.Nodup.of_map AttestationDedupKey.verifier
    simpa [Function.comp_def, AttestationBatchItem.dedupKey] using distinct
  · have named : ∀ key ∈ added.map Attestation.dedupKey, storage.dedup key = false := by
      simpa [keys] using unrecorded
    simpa using named
  · rfl
  · have same : batch.bond = storage.bond := by rw [frame]
    simp only [indexAdded, Storage.subjectAttestations, Storage.subjectAttestationCount, same]

theorem addAttestationBatch_ok {items : List AttestationBatchItem} {added : List Attestation}
    (done : addAttestationBatch env storage subject items = .ok (after, added)) :
    Added storage after subject added ∧
      added.map Attestation.dedupKey = items.map (·.dedupKey subject) ∧
        (∀ key, after.dedup key = true ↔
          key ∈ items.map (·.dedupKey subject) ∨ storage.dedup key = true) ∧
          assertSelfConsistentForSubject after subject = .ok () := by
  simp only [addAttestationBatch, Outcome.bind_eq_ok, Outcome.rejectIf_eq_ok,
    Outcome.pure_eq_ok, Prod.mk.injEq, not_not, not_exists, not_and, Bool.not_eq_true] at done
  obtain ⟨_, -, _, -, _, distinct, _, authorized, _, unrecorded, total, -, _, -,
    ⟨batch, last, several⟩, stored, _, passed, rfl, rfl⟩ := done
  obtain ⟨_, rfl⟩ := authorizeAll_ok authorized
  obtain ⟨-, -, keys, recorded, -⟩ := storeBatch_ok stored
  exact ⟨added_batch distinct unrecorded stored, keys, recorded, passed⟩

/-- An attestation of a subject was marked revoked and taken from the index. -/
structure Revoked (before after : Storage) (attestation : Attestation) (attestationId : Nat) :
    Prop where
  found : before.attestation attestationId = some attestation
  unrevoked : attestation.revoked = false
  stored : after.attestation = Function.update before.attestation attestationId
    (some { attestation with revoked := true })
  dedup : after.dedup = Function.update before.dedup attestation.dedupKey false
  counter : after.attestationCounter = before.attestationCounter
  bond : after.bond = indexRevoked before attestation.identity attestationId

theorem revokeAttestation_ok {attestationId nonce : Nat}
    (done : revokeAttestation env storage attester attestationId nonce = .ok after) :
    ∃ attestation, Revoked storage after attestation attestationId ∧
      assertSelfConsistentForSubject after attestation.identity = .ok () := by
  simp only [revokeAttestation, Outcome.bind_eq_ok, Outcome.unwrapOr_eq_ok,
    Outcome.rejectIf_eq_ok, Outcome.pure_eq_ok, Bool.not_eq_true] at done
  obtain ⟨_, -, _, consumed, attestation, found, _, -, _, unrevoked, _, passed, rfl⟩ := done
  obtain ⟨-, _, rfl⟩ := consumeNonce_ok consumed
  exact ⟨attestation, ⟨found, unrevoked, rfl, rfl, rfl, rfl⟩, passed⟩

end Operations

section Changes

/-- The keys of what an act would attest. -/
def Act.targets : Act → List AttestationDedupKey
  | .call (.addAttestation attester subject attestationData _) =>
      [⟨attester, subject, attestationData⟩]
  | .call (.addAttestationBatch subject items) => items.map (·.dedupKey subject)
  | _ => []

/-- The attestation that an act would revoke. -/
def Act.revokes : Act → Option Nat
  | .call (.revokeAttestation _ attestationId _) => some attestationId
  | _ => none

/-- An act of this kind records the keys of what it attests. -/
def Act.records : Act → Bool
  | .call (.addAttestationBatch ..) => true
  | _ => false

/-- What an act did to the attestations. -/
inductive Change (before after : Storage) (act : Act) : Prop where
  | added (subject : Address) (added : List Attestation) :
      Added before after subject added → added.map Attestation.dedupKey = act.targets →
      act.revokes = none →
      (∀ key, after.dedup key = true ↔
        (act.records = true ∧ key ∈ act.targets) ∨ before.dedup key = true) →
      assertSelfConsistentForSubject after subject = .ok () → Change before after act
  | revoked (attestation : Attestation) (attestationId : Nat) :
      Revoked before after attestation attestationId → act.targets = [] →
      act.revokes = some attestationId →
      assertSelfConsistentForSubject after attestation.identity = .ok () →
      Change before after act
  | kept : act.targets = [] → act.revokes = none → after.attestation = before.attestation →
      after.dedup = before.dedup → after.attestationCounter = before.attestationCounter →
      before.bond.KeepsRest after.bond → Change before after act

variable {env : Env} {storage stored : Storage} {call : Call}

theorem registerAttester_ok {attester : Address}
    (done : registerAttester env storage attester = .ok stored) :
    ∃ registered, stored = { storage with attester := registered } := by
  simp only [registerAttester, Outcome.bind_eq_ok, Outcome.pure_eq_ok] at done
  obtain ⟨_, -, _, -, rfl⟩ := done
  exact ⟨_, rfl⟩

theorem unregisterAttester_ok {attester : Address}
    (done : unregisterAttester env storage attester = .ok stored) :
    ∃ registered, stored = { storage with attester := registered } := by
  simp only [unregisterAttester, Outcome.bind_eq_ok, Outcome.pure_eq_ok] at done
  obtain ⟨_, -, _, -, rfl⟩ := done
  exact ⟨_, rfl⟩

theorem setAttesterStake_ok {admin attester : Address} {amount : Int}
    (done : setAttesterStake env storage admin attester amount = .ok stored) :
    ∃ stakes, stored = { storage with attesterStake := stakes } := by
  simp only [setAttesterStake, Outcome.bind_eq_ok, Outcome.pure_eq_ok] at done
  obtain ⟨_, -, _, -, _, -, _, -, rfl⟩ := done
  exact ⟨_, rfl⟩

theorem invoke_change (done : invoke env storage call = .ok stored) :
    Change storage stored (.call call) := by
  cases call with
  | registerAttester attester =>
      obtain ⟨_, rfl⟩ := registerAttester_ok done
      exact .kept rfl rfl rfl rfl rfl ⟨rfl, rfl, rfl⟩
  | unregisterAttester attester =>
      obtain ⟨_, rfl⟩ := unregisterAttester_ok done
      exact .kept rfl rfl rfl rfl rfl ⟨rfl, rfl, rfl⟩
  | setAttesterStake admin attester amount =>
      obtain ⟨_, rfl⟩ := setAttesterStake_ok done
      exact .kept rfl rfl rfl rfl rfl ⟨rfl, rfl, rfl⟩
  | addAttestation attester subject attestationData nonce =>
      obtain ⟨⟨_, attestation⟩, done, rfl⟩ := Outcome.map_eq_ok.mp done
      obtain ⟨added, key, dedup, passed⟩ := addAttestation_ok done
      apply Change.added subject [attestation] added
      · exact congrArg (fun named => [named]) key
      · rfl
      · simp [dedup, Act.records]
      · exact passed
  | addAttestationBatch subject items =>
      obtain ⟨⟨_, several⟩, done, rfl⟩ := Outcome.map_eq_ok.mp done
      obtain ⟨added, keys, recorded, passed⟩ := addAttestationBatch_ok done
      apply Change.added subject several added
      · exact keys
      · rfl
      · intro key
        simp only [Act.records, true_and]
        exact recorded key
      · exact passed
  | revokeAttestation attester attestationId nonce =>
      obtain ⟨attestation, revoked, passed⟩ := revokeAttestation_ok done
      exact .revoked attestation attestationId revoked rfl rfl passed

/-- The lists of ids and their counters are all that an attestation call writes of
the bond contract's other entries. -/
theorem invoke_bond (done : invoke env storage call = .ok stored) :
    ∃ subjectAttestations subjectAttestationCount, stored.bond =
      { storage.bond with subjectAttestations, subjectAttestationCount } := by
  cases call with
  | registerAttester attester =>
      obtain ⟨_, rfl⟩ := registerAttester_ok done
      exact ⟨_, _, rfl⟩
  | unregisterAttester attester =>
      obtain ⟨_, rfl⟩ := unregisterAttester_ok done
      exact ⟨_, _, rfl⟩
  | setAttesterStake admin attester amount =>
      obtain ⟨_, rfl⟩ := setAttesterStake_ok done
      exact ⟨_, _, rfl⟩
  | addAttestation attester subject attestationData nonce =>
      obtain ⟨⟨_, attestation⟩, done, rfl⟩ := Outcome.map_eq_ok.mp done
      exact ⟨_, _, (addAttestation_ok done).1.bond⟩
  | addAttestationBatch subject items =>
      obtain ⟨⟨_, several⟩, done, rfl⟩ := Outcome.map_eq_ok.mp done
      exact ⟨_, _, (addAttestationBatch_ok done).1.bond⟩
  | revokeAttestation attester attestationId nonce =>
      obtain ⟨attestation, revoked, -⟩ := revokeAttestation_ok done
      exact ⟨_, _, revoked.bond⟩

end Changes

section Refinement

variable {Ledger : Type} {ext : CredenceBond.Externals Ledger} {self : Address}
variable {before after start final : State Ledger} {label : Label}

theorem step_change (guarded : ext.Guarded self) (stepped : Step ext self before label after) :
    Change before.storage after.storage label.act := by
  cases stepped with
  | call _ done => exact invoke_change done
  | bond _ done =>
      exact .kept rfl rfl rfl rfl rfl (CredenceBond.invoke_keepsRest guarded done)

/-- To the bond contract, an attestation call is something that happens elsewhere. -/
def Label.bond (label : Label) : CredenceBond.Label where
  env := label.env
  act :=
    match label.act with
    | .call _ => .elsewhere
    | .bond call => .call call

theorem step_bond (stepped : Step ext self before label after) :
    CredenceBond.Step ext self before.bond label.bond after.bond := by
  cases stepped with
  | @call _ _ _ stored _ done =>
      obtain ⟨_, _, same⟩ := invoke_bond done
      have elsewhere : State.bond { before with storage := stored } =
          ⟨stored.bond, before.ledger⟩ := rfl
      rw [elsewhere, same]
      exact .elsewhere fun _ => le_rfl
  | bond addressed done => exact .call addressed done

/-- A run of the contract is, to the bond contract, one in which attestations are written
elsewhere. -/
theorem bond_of_run {trace : List (Event (State Ledger) Label)}
    (run : Run (Step ext self) start trace final) :
    Run (CredenceBond.Step ext self) start.bond (trace.map (Event.map State.bond Label.bond))
      final.bond :=
  run.map step_bond

/-- The amounts of the bond stay sound beside the attestations. -/
theorem sound_of_run {trace : List (Event (State Ledger) Label)} (guarded : ext.Guarded self)
    (unbonded : start.storage.bond.bond = none) (run : Run (Step ext self) start trace final) :
    final.storage.bond.Sound :=
  .of_run guarded unbonded (bond_of_run run)

end Refinement

end Attestations
