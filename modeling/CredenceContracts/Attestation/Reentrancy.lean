import CredenceContracts.Attestation.Spec
import CredenceContracts.Bond.Reentrancy

/-!
# Attestation calls in callbacks

The attestation entry points neither read nor write the lock of the bond contract, so
a callback may make them as well.  Their records lie beside the token ledger.
-/

namespace Attestations

open Soroban MachineInt Reentrancy

/-- The entries for attestations apart from the bond contract's other entries. -/
structure Records where
  attester : Address → Bool
  attesterStake : Address → Int
  attestationCounter : Nat
  attestation : Nat → Option Attestation
  dedup : AttestationDedupKey → Bool
  nonce : Address → Nat

def Storage.records (storage : Storage) : Records :=
  { storage with }

def Records.beside (records : Records) (bond : CredenceBond.Storage) : Storage :=
  { records with bond }

/-- The storage with the lock held or free. -/
def Storage.withLock (storage : Storage) (locked : Bool) : Storage :=
  { storage with bond := storage.bond.withLock locked }

section Lock

variable {env : Env} {storage : Storage} {locked : Bool} {attester subject : Address}

theorem consumeNonce_withLock {nonce : Nat} :
    consumeNonce (storage.withLock locked) attester nonce =
      (Storage.withLock · locked) <$> consumeNonce storage attester nonce := by
  simp only [consumeNonce, map_bind, map_pure]
  rfl

theorem authorizeAttester_withLock {nonce : Nat} :
    authorizeAttester env (storage.withLock locked) attester nonce =
      (Storage.withLock · locked) <$> authorizeAttester env storage attester nonce := by
  simp only [authorizeAttester, consumeNonce_withLock, map_bind]
  rfl

theorem authorizeAll_withLock {items : List AttestationBatchItem} :
    items.foldlM (fun storage item =>
        authorizeAttester env storage item.attester item.nonce) (storage.withLock locked) =
      (Storage.withLock · locked) <$> items.foldlM (fun storage item =>
        authorizeAttester env storage item.attester item.nonce) storage := by
  induction items generalizing storage with
  | nil => rfl
  | cons item rest ih =>
      simp only [List.foldlM_cons, authorizeAttester_withLock, map_bind, bind_map_left, ih]

theorem totalWeight_withLock {items : List AttestationBatchItem} {total : Nat} :
    totalWeight (storage.withLock locked) items total = totalWeight storage items total := by
  induction items generalizing total with
  | nil => rfl
  | cons item rest ih =>
      simp only [totalWeight, ih]
      rfl

theorem storeBatch_withLock {items : List AttestationBatchItem} {nextId last : Nat}
    {added : List Attestation} {after : Storage}
    (stored : storeBatch env subject storage nextId items = .ok (after, last, added)) :
    storeBatch env subject (storage.withLock locked) nextId items =
      .ok (after.withLock locked, last, added) := by
  induction items generalizing storage nextId added with
  | nil =>
      simp only [storeBatch, Outcome.pure_eq_ok, Prod.mk.injEq] at stored
      obtain ⟨rfl, rfl, rfl⟩ := stored
      rfl
  | cons item rest ih =>
      simp only [storeBatch, Outcome.bind_eq_ok, checkedU64_eq_ok, Outcome.pure_eq_ok,
        Prod.mk.injEq] at stored ⊢
      obtain ⟨_, fits, others, remaining, rfl, rfl, rfl⟩ := stored
      exact ⟨_, fits, _, ih remaining, rfl, rfl, rfl⟩

theorem addAttestationBatch_withLock {items : List AttestationBatchItem}
    {after : Storage × List Attestation}
    (done : addAttestationBatch env storage subject items = .ok after) :
    addAttestationBatch env (storage.withLock locked) subject items =
      .ok (after.1.withLock locked, after.2) := by
  simp only [addAttestationBatch, Outcome.bind_eq_ok, Outcome.pure_eq_ok] at done
  obtain ⟨_, nonempty, _, fits, _, distinct, _, authorized, _, unrecorded, total, weighed, _,
    capped, ⟨_, _, _⟩, stored, _, passed, rfl⟩ := done
  simp only [addAttestationBatch, authorizeAll_withLock, Outcome.bind_eq_ok,
    Outcome.pure_eq_ok]
  exact ⟨_, nonempty, _, fits, _, distinct, _, Outcome.map_eq_ok.mpr ⟨_, authorized, rfl⟩, _,
    unrecorded, total, totalWeight_withLock.trans weighed, _, capped, _,
    storeBatch_withLock stored, _, passed, rfl⟩

/-- An attestation call that succeeds does the same whether the lock is held or free. -/
theorem invoke_withLock {call : Call} {after : Storage}
    (done : invoke env storage call = .ok after) :
    invoke env (storage.withLock locked) call = .ok (after.withLock locked) := by
  cases call with
  | registerAttester attester =>
      refine Outcome.ok_of_map (Storage.withLock · locked) ?_ done
      simp only [invoke, registerAttester, map_bind, map_pure]
      rfl
  | unregisterAttester attester =>
      refine Outcome.ok_of_map (Storage.withLock · locked) ?_ done
      simp only [invoke, unregisterAttester, map_bind, map_pure]
      rfl
  | setAttesterStake admin attester amount =>
      refine Outcome.ok_of_map (Storage.withLock · locked) ?_ done
      simp only [invoke, setAttesterStake, map_bind, map_pure]
      rfl
  | addAttestation attester subject attestationData nonce =>
      refine Outcome.ok_of_map (Storage.withLock · locked) ?_ done
      simp only [invoke, addAttestation, authorizeAttester_withLock, map_bind, map_pure,
        bind_map_left]
      rfl
  | addAttestationBatch subject items =>
      obtain ⟨added, batch, rfl⟩ := Outcome.map_eq_ok.mp done
      exact Outcome.map_eq_ok.mpr ⟨_, addAttestationBatch_withLock batch, rfl⟩
  | revokeAttestation attester attestationId nonce =>
      refine Outcome.ok_of_map (Storage.withLock · locked) ?_ done
      simp only [invoke, revokeAttestation, consumeNonce_withLock, map_bind, map_pure,
        bind_map_left]
      rfl

end Lock

section Aside

variable {Ledger : Type} {env : Env} {call : Call}

/-- The whole of what the attestation calls read and write. -/
def view (state : CredenceBond.State (Ledger × Records)) : Storage :=
  state.ledger.2.beside state.storage

/-- An attestation call, as a callback of the bond contract makes it. -/
def performAside (env : Env) (call : Call) (state : CredenceBond.State (Ledger × Records)) :
    Outcome (CredenceBond.State (Ledger × Records)) := do
  let after ← invoke env (view state) call
  return ⟨after.bond, (state.ledger.1, after.records)⟩

/-- A callback may make attestation calls besides calls of the bond contract. -/
def aside (env : Env) (call : Call) : CredenceBond.Aside (Ledger × Records) where
  perform := performAside env call
  withLock {state after} locked performed := by
    simp only [performAside, Outcome.bind_eq_ok, Outcome.pure_eq_ok] at performed ⊢
    obtain ⟨stored, done, rfl⟩ := performed
    exact ⟨_, invoke_withLock done, rfl⟩

variable {ext : CredenceBond.Externals (Ledger × Records)}
variable {state after : CredenceBond.State (Ledger × Records)}

theorem performAside_frame (performed : performAside env call state = .ok after) :
    after.storage.bond = state.storage.bond ∧ after.ledger.1 = state.ledger.1 := by
  simp only [performAside, Outcome.bind_eq_ok, Outcome.pure_eq_ok] at performed
  obtain ⟨stored, done, rfl⟩ := performed
  obtain ⟨_, _, written⟩ := invoke_bond done
  refine ⟨?_, rfl⟩
  rw [written]
  rfl

theorem serial_frame {actions : List (CredenceBond.Action (Ledger × Records))}
    (attesting : ∀ action ∈ actions, ∃ env call, action = .aside (aside env call))
    (done : serial (CredenceBond.Action.perform ext) actions state = .ok after) :
    after.storage.bond = state.storage.bond ∧ after.ledger.1 = state.ledger.1 := by
  induction actions generalizing state with
  | nil =>
      obtain rfl := Outcome.pure_eq_ok.mp done
      exact ⟨rfl, rfl⟩
  | cons action rest ih =>
      obtain ⟨next, performed, remaining⟩ := Outcome.bind_eq_ok.mp done
      obtain ⟨⟨env, call, rfl⟩, others⟩ := List.forall_mem_cons.mp attesting
      obtain ⟨bonds, tokens⟩ := ih others remaining
      obtain ⟨bond, token⟩ := performAside_frame performed
      exact ⟨bonds.trans bond, tokens.trans token⟩

/-- A callback contract that achieves nothing but attestations leaves the bond and the
tokens as the call that notified it would have. -/
theorem attesting_callback_frame {callbacks : CredenceBond.Callbacks (Ledger × Records)}
    {notifying : CredenceBond.NotifyingCall} {amount : Int}
    (attesting : ∀ action ∈ notifying.heard ext callbacks env state,
      ∃ env call, action = .aside (aside env call))
    (performed : notifying.perform (ext.notifying (callbacks.answer ext)) env state =
      .ok (after, amount)) :
    ∃ alone, notifying.perform (ext.notifying silent) env state = .ok (alone, amount) ∧
      after.storage.bond = alone.storage.bond ∧ after.ledger.1 = alone.ledger.1 := by
  obtain ⟨alone, unanswered, later⟩ := CredenceBond.NotifyingCall.perform_serial performed
  exact ⟨alone, unanswered, serial_frame attesting later⟩

end Aside

end Attestations
