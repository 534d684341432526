import CredenceContracts.Delegation.Spec

/-!
# Replay safety

All actions of an owner, direct and relayed, draw on one counter.  It only grows,
a successful action takes exactly its current value, and so no value is taken
twice and none below an invalidation is taken after it.
-/

namespace Delegations

open Soroban Transition

variable {sha256 : Bytes → BytesN 32} {self : Address} {storage after start final : Storage}
variable {label : Label} {trace : List (Event Storage Label)}

/-- The call consumes this nonce of this identity. -/
def Label.consumes (identity : Address) (nonce : Nat) (label : Label) : Bool :=
  label.call.consumption = some (identity, nonce)

theorem step_consumes {identity : Address} {nonce : Nat}
    (stepped : Step sha256 self storage label after)
    (consumes : label.consumes identity nonce = true) :
    storage.nonce identity = nonce ∧
      after.nonce = Function.update storage.nonce identity (nonce + 1) := by
  obtain ⟨env, verify, call⟩ := label
  have taken : call.consumption = some (identity, nonce) := by
    simpa [Label.consumes] using consumes
  cases step_nonces stepped with
  | kept none _ _ => simp [none] at taken
  | consumed used current =>
      obtain ⟨rfl, rfl⟩ : _ = identity ∧ _ = nonce := by simpa [used] using taken
      exact ⟨current, rfl⟩
  | invalidated above => simp [Call.consumption] at taken

/-- No step lowers a nonce. -/
theorem step_nonce_le (stepped : Step sha256 self storage label after) (identity : Address) :
    storage.nonce identity ≤ after.nonce identity := by
  obtain ⟨env, verify, call⟩ := label
  cases step_nonces stepped with
  | kept _ _ same => rw [same]
  | @consumed _ key nonce _ _ current =>
      by_cases same : identity = key.owner
      · simp [Storage.acted, same, current]
      · simp [Storage.acted, same]
  | @invalidated owner newNonce above =>
      by_cases same : identity = owner
      · simpa [same] using above.le
      · simp [same]

theorem nonce_le_of_run (run : Run (Step sha256 self) start trace final)
    (identity : Address) : start.nonce identity ≤ final.nonce identity :=
  run.monotone (fun storage => storage.nonce identity)
    fun _ stepped => step_nonce_le stepped identity

/-- No nonce is consumed twice. -/
theorem consumed_once (run : Run (Step sha256 self) start trace final) (identity : Address)
    (nonce : Nat) :
    (trace.filter fun event => event.label.consumes identity nonce).length ≤ 1 := by
  refine run.length_filter_le_one (fun event => event.label.consumes identity nonce)
    (fun storage => nonce < storage.nonce identity) ?_ ?_ ?_
  · intro event consumes stepped
    have current := (step_consumes stepped consumes).1
    omega
  · intro event consumes stepped
    have advanced := (step_consumes stepped consumes).2
    simp [advanced]
  · intro event spent stepped
    exact spent.trans_le (step_nonce_le stepped identity)

theorem step_invalidates {identity : Address} {newNonce : Nat}
    (stepped : Step sha256 self storage label after)
    (called : label.call = .invalidateNonceRange identity newNonce) :
    after.nonce identity = newNonce := by
  obtain ⟨env, verify, call⟩ := label
  subst called
  cases step_nonces stepped with
  | kept _ other _ => exact absurd rfl (other identity newNonce)
  | consumed used _ => simp [Call.consumption] at used
  | invalidated _ => simp

/-- An invalidation leaves the nonce it names, and no later call of the run
consumes one below it. -/
theorem invalidated_of_run (run : Run (Step sha256 self) start trace final)
    {earlier later : List (Event Storage Label)} {event : Event Storage Label}
    (position : trace = earlier ++ event :: later) {identity : Address} {newNonce : Nat}
    (called : event.label.call = .invalidateNonceRange identity newNonce) :
    event.after.nonce identity = newNonce ∧
      ∀ other ∈ later, ∀ nonce, other.label.consumes identity nonce = true →
        newNonce ≤ nonce := by
  obtain ⟨_, stepped, rest⟩ := run.split position
  have set := step_invalidates stepped called
  refine ⟨set, fun other member nonce consumes => ?_⟩
  obtain ⟨first, prior, consuming⟩ := rest.reached_of_mem member
  have current := (step_consumes consuming consumes).1
  have grown := nonce_le_of_run prior identity
  omega

/-- Replay safety of a run: nonces only grow, a successful consuming call takes
exactly the stored nonce and advances it by one, no nonce is consumed twice, and
none below an invalidation is consumed after it. -/
theorem replay_safety (run : Run (Step sha256 self) start trace final) :
    (∀ identity, start.nonce identity ≤ final.nonce identity) ∧
      (∀ event ∈ trace, ∀ identity nonce, event.label.consumes identity nonce = true →
        event.before.nonce identity = nonce ∧
          event.after.nonce = Function.update event.before.nonce identity (nonce + 1)) ∧
      (∀ identity nonce,
        (trace.filter fun event => event.label.consumes identity nonce).length ≤ 1) ∧
      (∀ earlier event later, trace = earlier ++ event :: later →
        ∀ identity newNonce,
          event.label.call = .invalidateNonceRange identity newNonce →
            event.after.nonce identity = newNonce ∧
              ∀ other ∈ later, ∀ nonce, other.label.consumes identity nonce = true →
                newNonce ≤ nonce) := by
  refine ⟨nonce_le_of_run run, ?_, consumed_once run, ?_⟩
  · intro event member identity nonce consumes
    exact step_consumes (run.stepped_of_mem member) consumes
  · intro earlier event later position identity newNonce called
    exact invalidated_of_run run position called

section Sample

/-- A stand-in digest: the input's first bytes, padded. -/
def samplePadding (input : Bytes) : BytesN 32 :=
  Vector.ofFn fun index => input.getD index 0

def sampleLabel (timestamp : Nat) (call : Call) : Label where
  env := .signedByAll ⟨0⟩ timestamp
  verify := fun _ _ _ _ => none
  call := call

/-- A relayed delegation under nonce zero. -/
def samplePayload : DelegatedActionPayload where
  domain := .delegate
  owner := ⟨2⟩
  target := ⟨3⟩
  contractId := ⟨0⟩
  nonce := 0
  scheme := 0

/-- A relayed delegation, a direct revocation, an invalidation up to nonce nine
and a direct delegation under nonce nine. -/
def sampleLabels : List Label :=
  [ sampleLabel 1 (.executeDelegatedDelegate ⟨2⟩ ⟨3⟩ .management 50 samplePayload),
    sampleLabel 2 (.revokeDelegation ⟨2⟩ ⟨3⟩ .management 1),
    sampleLabel 3 (.invalidateNonceRange ⟨2⟩ 9),
    sampleLabel 4 (.delegate ⟨2⟩ ⟨4⟩ .attestation 60 9) ]

theorem replay_safety_sample :
    ∃ trace final, Run (Step samplePadding ⟨0⟩) .deployed trace final ∧
      trace.map Event.label = sampleLabels ∧ final.nonce ⟨2⟩ = 10 ∧
        ∀ nonce,
          (trace.filter fun event => event.label.consumes ⟨2⟩ nonce).length ≤ 1 := by
  obtain ⟨trace, run, labelled⟩ := run_of_replay step_of_next
    (rfl : replay (next samplePadding ⟨0⟩) .deployed sampleLabels = some _)
  exact ⟨trace, _, run, labelled, rfl, (replay_safety run).2.2.1 ⟨2⟩⟩

end Sample

end Delegations
