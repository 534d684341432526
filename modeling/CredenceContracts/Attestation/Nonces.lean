import CredenceContracts.Attestation.Index

/-!
# The nonces of attesters

Attesting, alone or in a batch, and revoking draw on one counter for each attester.  What
is accepted of an attester comes with consecutive nonces and is authorised by it, so that
nothing is accepted a second time and nobody uses up the nonces of another.
-/

namespace Attestations

open Soroban MachineInt Transition
open CredenceBond (Externals)

section Calls

/-- The nonces that a call presents for an identity. -/
def Call.spends (identity : Address) : Call → List Nat
  | .addAttestation attester _ _ nonce => if attester = identity then [nonce] else []
  | .addAttestationBatch _ items =>
      (items.filter (·.attester = identity)).map AttestationBatchItem.nonce
  | .revokeAttestation attester _ nonce => if attester = identity then [nonce] else []
  | _ => []

def Label.spends (identity : Address) (label : Label) : List Nat :=
  match label.act with
  | .call call => call.spends identity
  | .bond _ => []

variable {env : Env} {storage after : Storage} {attester identity : Address}

/-- What is presented for an identity are its next nonces. -/
structure Draws (before after : Storage) (identity : Address) (spent : List Nat) : Prop where
  next : spent = List.range' (before.nonce identity) spent.length
  advanced : after.nonce identity = before.nonce identity + spent.length

theorem Draws.none (same : after.nonce = storage.nonce) : Draws storage after identity [] where
  next := rfl
  advanced := by simp [same]

/-- One draw follows another. -/
theorem Draws.append {middle : Storage} {first second : List Nat}
    (earlier : Draws storage middle identity first)
    (later : Draws middle after identity second) :
    Draws storage after identity (first ++ second) where
  next := by
    rw [List.length_append, ← List.range'_append_1, ← earlier.next, ← earlier.advanced,
      ← later.next]
  advanced := by rw [later.advanced, earlier.advanced, List.length_append, Nat.add_assoc]

theorem consumeNonce_eq_ok {nonce : Nat} :
    consumeNonce storage attester nonce = .ok after ↔
      storage.nonce attester = nonce ∧ nonce + 1 < 2 ^ 64 ∧
        after = { storage with nonce := Function.update storage.nonce attester (nonce + 1) } := by
  simp only [consumeNonce, Outcome.bind_eq_ok, Outcome.rejectIf_eq_ok, checkedU64_eq_ok,
    Outcome.pure_eq_ok, not_not]
  constructor
  · rintro ⟨_, rfl, _, ⟨fits, rfl⟩, rfl⟩
    exact ⟨rfl, fits, rfl⟩
  · rintro ⟨rfl, fits, rfl⟩
    exact ⟨(), rfl, _, ⟨fits, rfl⟩, rfl⟩

/-- A consumed nonce is one draw of its attester. -/
theorem draws_of_consumed (identity : Address) {nonce : Nat}
    (consumed : consumeNonce storage attester nonce = .ok after) :
    Draws storage after identity (if attester = identity then [nonce] else []) := by
  obtain ⟨rfl, -, rfl⟩ := consumeNonce_eq_ok.mp consumed
  by_cases own : attester = identity
  · subst own
    rw [if_pos rfl]
    exact ⟨by simp, by simp⟩
  · rw [if_neg own]
    exact ⟨rfl, by simp [Ne.symm own]⟩

/-- What an attester is authorised for, it signed. -/
theorem draws_of_authorized (identity : Address) {nonce : Nat}
    (done : authorizeAttester env storage attester nonce = .ok after) :
    Draws storage after identity (if attester = identity then [nonce] else []) ∧
      env.authorized attester = true := by
  simp only [authorizeAttester, Outcome.bind_eq_ok, requireAuth_eq_ok] at done
  obtain ⟨_, signed, _, -, consumed⟩ := done
  exact ⟨draws_of_consumed identity consumed, signed⟩

/-- A batch draws for its attesters one after another. -/
theorem draws_of_authorizedAll (identity : Address) {items : List AttestationBatchItem}
    (done : items.foldlM (fun storage item =>
      authorizeAttester env storage item.attester item.nonce) storage = .ok after) :
    Draws storage after identity
      ((items.filter (·.attester = identity)).map AttestationBatchItem.nonce) ∧
      ∀ item ∈ items, env.authorized item.attester = true := by
  induction items generalizing storage with
  | nil =>
      obtain rfl := Outcome.pure_eq_ok.mp done
      exact ⟨.none rfl, by simp⟩
  | cons item rest ih =>
      rw [List.foldlM_cons, Outcome.bind_eq_ok] at done
      obtain ⟨middle, first, remaining⟩ := done
      obtain ⟨drawn, signed⟩ := draws_of_authorized identity first
      obtain ⟨others, all⟩ := ih remaining
      refine ⟨?_, List.forall_mem_cons.mpr ⟨signed, all⟩⟩
      have both := drawn.append others
      by_cases own : item.attester = identity <;> simpa [own] using both

/-- A call draws the nonces of its attesters, who sign it. -/
theorem draws_of_invoke (identity : Address) {call : Call}
    (done : invoke env storage call = .ok after) :
    Draws storage after identity (call.spends identity) ∧
      (call.spends identity ≠ [] → env.authorized identity = true) := by
  cases call with
  | registerAttester attester =>
      obtain ⟨_, rfl⟩ := registerAttester_ok done
      exact ⟨.none rfl, by simp [Call.spends]⟩
  | unregisterAttester attester =>
      obtain ⟨_, rfl⟩ := unregisterAttester_ok done
      exact ⟨.none rfl, by simp [Call.spends]⟩
  | setAttesterStake admin attester amount =>
      obtain ⟨_, rfl⟩ := setAttesterStake_ok done
      exact ⟨.none rfl, by simp [Call.spends]⟩
  | addAttestation attester subject attestationData nonce =>
      obtain ⟨⟨_, attestation⟩, done, rfl⟩ := Outcome.map_eq_ok.mp done
      simp only [addAttestation, Outcome.bind_eq_ok, Outcome.pure_eq_ok, Prod.mk.injEq] at done
      obtain ⟨authorized, first, _, -, _, -, _, -, _, -, rfl, -⟩ := done
      obtain ⟨drawn, signed⟩ := draws_of_authorized identity first
      refine ⟨⟨drawn.next, drawn.advanced⟩, fun some => ?_⟩
      have own : attester = identity := by simpa [Call.spends] using some
      exact own ▸ signed
  | addAttestationBatch subject items =>
      obtain ⟨⟨_, added⟩, done, rfl⟩ := Outcome.map_eq_ok.mp done
      simp only [addAttestationBatch, Outcome.bind_eq_ok, Outcome.pure_eq_ok,
        Prod.mk.injEq] at done
      obtain ⟨_, -, _, -, _, -, authorized, first, _, -, _, -, _, -, ⟨stored, _, _⟩, batch, _, -,
        rfl, -⟩ := done
      have kept : stored.nonce = authorized.nonce := by rw [(storeBatch_ok batch).2.2.2.2]
      obtain ⟨drawn, signed⟩ := draws_of_authorizedAll identity first
      refine ⟨⟨drawn.next, (congrFun kept identity).trans drawn.advanced⟩, fun some => ?_⟩
      obtain ⟨item, member, own⟩ : ∃ item ∈ items, item.attester = identity := by
        simpa [Call.spends] using some
      exact own ▸ signed item member
  | revokeAttestation attester attestationId nonce =>
      have revoked : revokeAttestation env storage attester attestationId nonce = .ok after := done
      simp only [revokeAttestation, Outcome.bind_eq_ok, requireAuth_eq_ok,
        Outcome.pure_eq_ok] at revoked
      obtain ⟨_, signed, consumed, first, attestation, -, _, -, _, -, _, -, rfl⟩ := revoked
      have drawn := draws_of_consumed identity first
      refine ⟨⟨drawn.next, drawn.advanced⟩, fun some => ?_⟩
      have own : attester = identity := by simpa [Call.spends] using some
      exact own ▸ signed

end Calls

section Runs

variable {Ledger : Type} {ext : Externals Ledger} {self : Address}
variable {start final : State Ledger} {trace : List (Event (State Ledger) Label)}

theorem draws_of_step (identity : Address) {before after : State Ledger} {label : Label}
    (stepped : Step ext self before label after) :
    Draws before.storage after.storage identity (label.spends identity) ∧
      (label.spends identity ≠ [] → label.env.authorized identity = true) := by
  cases stepped with
  | call _ done => exact draws_of_invoke identity done
  | bond _ _ => exact ⟨.none rfl, by simp [Label.spends]⟩

/-- The nonces that were accepted of an identity along a run. -/
def spent (identity : Address) (trace : List (Event (State Ledger) Label)) : List Nat :=
  trace.flatMap fun event => event.label.spends identity

theorem draws_of_run (identity : Address) (run : Run (Step ext self) start trace final) :
    Draws start.storage final.storage identity (spent identity trace) := by
  induction run with
  | nil => exact .none rfl
  | @snoc trace before after label _ stepped ih =>
      have drawn := ih.append (draws_of_step identity stepped).1
      simpa [spent] using drawn

/-- An attester's accepted nonces are its stored one and those that follow it, in the
order of the run, and it signed each call that used one: none is accepted twice, and
nobody uses up another's.  A call that presents one of them again, alone or in a batch, to
attest or to revoke, never succeeds any more. -/
theorem nonces_sequential (run : Run (Step ext self) start trace final) (identity : Address) :
    (∃ number, spent identity trace = List.range' (start.storage.nonce identity) number ∧
      final.storage.nonce identity = start.storage.nonce identity + number) ∧
      (∀ event ∈ trace, event.label.spends identity ≠ [] →
        event.label.env.authorized identity = true) ∧
      ∀ env call nonce, nonce ∈ call.spends identity → nonce ∈ spent identity trace →
        ∀ after, invoke env final.storage call ≠ .ok after := by
  have drawn := draws_of_run identity run
  refine ⟨⟨_, drawn.next, drawn.advanced⟩, ?_, ?_⟩
  · intro event member some
    exact (draws_of_step identity (run.stepped_of_mem member)).2 some
  · intro env call nonce again used after done
    have next := (draws_of_invoke identity done).1.next
    rw [next, List.mem_range'_1] at again
    rw [drawn.next, List.mem_range'_1] at used
    have advanced := drawn.advanced
    omega

/-- The second nonce of an attester went into a batch, and serves for no revocation. -/
theorem nonces_sequential_sample :
    spent ⟨2⟩ attestedTrace = [0, 1, 2] ∧
      ∀ env after,
        invoke env attestedState.storage (.revokeAttestation ⟨2⟩ 1 1) ≠ .ok after := by
  have used : spent ⟨2⟩ attestedTrace = [0, 1, 2] := by decide +kernel
  refine ⟨used, fun env => ?_⟩
  apply (nonces_sequential attestedTrace_run ⟨2⟩).2.2 env _ 1
  · simp [Call.spends]
  · simp [used]

end Runs

end Attestations
