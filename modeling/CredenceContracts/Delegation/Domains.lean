import CredenceContracts.Delegation.Replay

/-!
# Domain separation of relayed payloads

A payload binds its domain, owner, target, contract and nonce.  Presented to any
relayed entry point it succeeds at most once, at the entry point of its own
domain on the contract it names, and rewrites one record of its own owner and
target.
-/

namespace Delegations

open Soroban Transition

variable {sha256 : Bytes → BytesN 32} {self : Address} {storage after start final : Storage}
variable {label : Label} {trace : List (Event Storage Label)}
variable {payload : DelegatedActionPayload}

/-- The domain of a relayed entry point and the payload presented to it. -/
def Call.presented : Call → Option (DomainTag × DelegatedActionPayload)
  | .executeDelegatedDelegate _ _ _ _ payload => some (.delegate, payload)
  | .executeDelegatedRevoke _ _ _ payload => some (.revokeDelegation, payload)
  | .executeDelegatedRevokeAttest _ _ payload => some (.revokeAttestation, payload)
  | _ => none

/-- The call presents this payload to one of the relayed entry points. -/
def Label.presents (payload : DelegatedActionPayload) (label : Label) : Bool :=
  label.call.presented.map Prod.snd = some payload

/-- The step is at the payload's own domain and contract, takes its nonce from its
owner and rewrites one record of its owner and target. -/
structure ActsFor (payload : DelegatedActionPayload) (address : Address)
    (storage : Storage) (call : Call) (after : Storage) : Prop where
  domain : call.presented = some (payload.domain, payload)
  contract : payload.contractId = address
  consumes : call.consumption = some (payload.owner, payload.nonce)
  acted : ∃ delegationType record, after =
    storage.acted ⟨payload.owner, payload.target, delegationType⟩ payload.nonce record

theorem step_actsFor (stepped : Step sha256 self storage label after)
    (presents : label.presents payload = true) :
    ActsFor payload self storage label.call after := by
  obtain ⟨env, verify, call⟩ := label
  obtain ⟨rfl, accepted⟩ := stepped
  have presented : call.presented.map Prod.snd = some payload := by
    simpa [Label.presents] using presents
  cases call with
  | executeDelegatedDelegate owner target delegationType expiresAt other =>
      obtain rfl : other = payload := by simpa [Call.presented] using presented
      obtain ⟨⟨_, record⟩, delegated, rfl⟩ := Outcome.map_eq_ok.mp accepted
      obtain ⟨⟨domain, rfl, rfl, contract⟩, granted⟩ := executeDelegatedDelegate_ok delegated
      exact ⟨by rw [domain]; rfl, contract, rfl, delegationType, record, granted.acted⟩
  | executeDelegatedRevoke owner target delegationType other =>
      obtain rfl : other = payload := by simpa [Call.presented] using presented
      obtain ⟨⟨domain, rfl, rfl, contract⟩, _, revoked⟩ := executeDelegatedRevoke_ok accepted
      exact ⟨by rw [domain]; rfl, contract, rfl, delegationType, _, revoked.acted⟩
  | executeDelegatedRevokeAttest attester subject other =>
      obtain rfl : other = payload := by simpa [Call.presented] using presented
      obtain ⟨⟨domain, rfl, rfl, contract⟩, _, revoked⟩ :=
        executeDelegatedRevokeAttest_ok accepted
      exact ⟨by rw [domain]; rfl, contract, rfl, .attestation, _, revoked.acted⟩
  | _ => simp [Call.presented] at presented

/-- A payload succeeds at most once in a run, over all relayed entry points. -/
theorem presented_once (run : Run (Step sha256 self) start trace final)
    (payload : DelegatedActionPayload) :
    (trace.filter fun event => event.label.presents payload).length ≤ 1 := by
  refine run.length_filter_le_one (fun event => event.label.presents payload)
    (fun storage => payload.nonce < storage.nonce payload.owner) ?_ ?_ ?_
  · intro event presents stepped
    have acts := step_actsFor stepped presents
    have consumes : event.label.consumes payload.owner payload.nonce = true := by
      simp [Label.consumes, acts.consumes]
    have current := (step_consumes stepped consumes).1
    omega
  · intro event presents stepped
    obtain ⟨_, _, acted⟩ := (step_actsFor stepped presents).acted
    simp [acted, Storage.acted]
  · intro event spent stepped
    exact spent.trans_le (step_nonce_le stepped payload.owner)

/-- A payload presented outside its domain or its contract is rejected. -/
theorem foreign_rejected {env : Env} {verify : VerifierCalls} {call : Call}
    {domain : DomainTag} (presented : call.presented = some (domain, payload))
    (foreign : payload.domain ≠ domain ∨ payload.contractId ≠ env.currentContractAddress) :
    ∃ failure, invoke sha256 env verify storage call = .error failure := by
  cases result : invoke sha256 env verify storage call with
  | error failure => exact ⟨failure, rfl⟩
  | ok after =>
      have stepped : Step sha256 env.currentContractAddress storage ⟨env, verify, call⟩
          after := ⟨rfl, result⟩
      have acts : ActsFor payload _ storage call after :=
        step_actsFor stepped (by simp [Label.presents, presented])
      have own : payload.domain = domain := by
        simpa [presented] using (acts.domain.symm.trans presented)
      rcases foreign with otherDomain | otherContract
      · exact absurd own otherDomain
      · exact absurd acts.contract otherContract

/-- Domain separation of a payload along a run: of all calls that present it at
most one succeeds, that one is at the payload's own domain and contract and
rewrites one record of its owner and target; elsewhere it is rejected in every
state. -/
theorem domain_separation (run : Run (Step sha256 self) start trace final)
    (payload : DelegatedActionPayload) :
    (trace.filter fun event => event.label.presents payload).length ≤ 1 ∧
      (∀ event ∈ trace, event.label.presents payload = true →
        ActsFor payload self event.before event.label.call event.after) ∧
      (∀ storage env verify call domain, env.currentContractAddress = self →
        call.presented = some (domain, payload) →
          payload.domain ≠ domain ∨ payload.contractId ≠ self →
            ∃ failure, invoke sha256 env verify storage call = .error failure) := by
  refine ⟨presented_once run payload, ?_, ?_⟩
  · intro event member presents
    exact step_actsFor (run.stepped_of_mem member) presents
  · intro storage env verify call domain addressed presented foreign
    exact foreign_rejected presented (addressed ▸ foreign)

/-- The sample payload delegates once; as a revocation it is rejected. -/
theorem domain_separation_sample :
    ∃ trace final event, Run (Step samplePadding ⟨0⟩) .deployed trace final ∧
      event ∈ trace ∧ event.label.presents samplePayload = true ∧
        ActsFor samplePayload ⟨0⟩ event.before event.label.call event.after ∧
          (trace.filter fun event => event.label.presents samplePayload).length ≤ 1 ∧
            ∃ failure, invoke samplePadding (.signedByAll ⟨0⟩ 5) (fun _ _ _ _ => none) final
              (.executeDelegatedRevoke ⟨2⟩ ⟨3⟩ .management samplePayload) =
                .error failure := by
  obtain ⟨after, stepped⟩ : ∃ after, next samplePadding ⟨0⟩ .deployed
      (sampleLabel 1 (.executeDelegatedDelegate ⟨2⟩ ⟨3⟩ .management 50 samplePayload)) =
        some after := ⟨_, rfl⟩
  have run := Run.single (step_of_next stepped)
  obtain ⟨once, acts, rejected⟩ := domain_separation run samplePayload
  exact ⟨_, after, _, run, List.mem_cons_self, rfl, acts _ List.mem_cons_self rfl, once,
    rejected after _ _ _ .revokeDelegation rfl rfl (.inl (by decide))⟩

end Delegations
