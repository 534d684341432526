import CredenceContracts.Delegation.Domains

/-!
# What a verifier contract is handed

A relayed call of another scheme than the first asks a registered verifier contract
about a message and a signature.  What it hands over is what its outcome depends on:
an empty message and an empty signature, whatever the payload says.
-/

namespace Delegations

open Soroban Transition
open Outcome (rejectIf)

section Requests

/-- What a verifier contract is asked. -/
structure VerifierRequest where
  verifier : Address
  owner : Address
  message : Bytes
  signature : Bytes
  deriving DecidableEq

/-- The same verifiers, but with this answer to one request. -/
def VerifierCalls.answering (verify : VerifierCalls) (request : VerifierRequest)
    (answer : Option Bool) : VerifierCalls :=
  fun verifier owner message signature =>
    if (⟨verifier, owner, message, signature⟩ : VerifierRequest) = request then answer
    else verify verifier owner message signature

/-- A request is handed over where the outcome depends on its answer. -/
def Hands (outcome : VerifierCalls → Outcome Storage) (request : VerifierRequest) : Prop :=
  ∃ (verify : VerifierCalls) (answer : Option Bool),
    outcome (verify.answering request answer) ≠ outcome verify

/-- Of the messages that two calls hand over, none is the other's. -/
def MessagesDiffer (first second : VerifierCalls → Outcome Storage) : Prop :=
  ∀ request other, Hands first request → Hands second other → request.message ≠ other.message

end Requests

section Relayed

/-- The domain of a relayed call, its owner, its target and its payload. -/
def Call.relayed : Call → Option (DomainTag × Address × Address × DelegatedActionPayload)
  | .executeDelegatedDelegate owner target _ _ payload => some (.delegate, owner, target, payload)
  | .executeDelegatedRevoke owner target _ payload =>
      some (.revokeDelegation, owner, target, payload)
  | .executeDelegatedRevokeAttest attester subject payload =>
      some (.revokeAttestation, attester, subject, payload)
  | _ => none

/-- A relayed call passes the checks before its verifier is asked. -/
structure Reaches (env : Env) (storage : Storage) (call : Call) (verifier owner : Address)
    (payload : DelegatedActionPayload) : Prop where
  relayed : ∃ domain target, call.relayed = some (domain, owner, target, payload) ∧
    Matches env domain owner target payload
  unpaused : storage.pause.paused = false
  signed : env.authorized owner = true
  scheme : payload.scheme = 1 ∨ payload.scheme = 2
  registered : storage.verifier payload.scheme = some verifier

/-- The answer of a verifier contract as the outcome of the check. -/
def answered (answer : Option Bool) : Outcome Unit := do
  let ok ← calling answer
  rejectIf (ok = false) (.contract .verificationFailed)

variable {env : Env} {storage : Storage} {call : Call} {verifier owner target : Address}
variable {payload : DelegatedActionPayload} {domain : DomainTag}

/-- A known scheme is asked about under its own number. -/
theorem verifyDelegatedSignature_of_registered (verify : VerifierCalls)
    (scheme : payload.scheme = 1 ∨ payload.scheme = 2)
    (registered : storage.verifier payload.scheme = some verifier) :
    verifyDelegatedSignature verify storage owner [] [] (decodeSchemeSafe payload).toU32 =
      answered (verify verifier owner [] []) := by
  rcases scheme with one | two
  · have found : storage.verifier 1 = some verifier := one ▸ registered
    simp [verifyDelegatedSignature, decodeSchemeSafe, SchemeTag.tryFromU32, SchemeTag.toU32, one,
      found, answered, Outcome.unwrapOr, bind, Except.bind]
  · have found : storage.verifier 2 = some verifier := two ▸ registered
    simp [verifyDelegatedSignature, decodeSchemeSafe, SchemeTag.tryFromU32, SchemeTag.toU32, two,
      found, answered, Outcome.unwrapOr, bind, Except.bind]

theorem verifyRelayed_of_reaches (verify : VerifierCalls)
    (same : Matches env domain owner target payload) (unpaused : storage.pause.paused = false)
    (signed : env.authorized owner = true) (scheme : payload.scheme = 1 ∨ payload.scheme = 2)
    (registered : storage.verifier payload.scheme = some verifier) :
    verifyRelayed env storage verify domain owner target payload =
      answered (verify verifier owner [] []) := by
  have open' : Pausable.requireNotPaused storage.pause = .ok () := by simp [unpaused]
  have authorised : requireAuth env owner = .ok () := by simp [signed]
  have matching : verifyPayload env payload domain owner target = .ok () :=
    verifyPayload_eq_ok.mpr ⟨same.domain, same.owner, same.target, same.contract⟩
  rw [← verifyDelegatedSignature_of_registered verify scheme registered]
  simp only [verifyRelayed, open', authorised, matching]
  rfl

/-- The outcome of a call that reaches its verifier is one of the answer. -/
theorem invoke_of_reaches (sha256 : Bytes → BytesN 32)
    (reaches : Reaches env storage call verifier owner payload) :
    ∃ onward : Unit → Outcome Storage, ∀ verify, invoke sha256 env verify storage call =
      answered (verify verifier owner [] []) >>= onward := by
  obtain ⟨⟨domain, target, relayed, same⟩, unpaused, signed, scheme, registered⟩ := reaches
  cases call with
  | executeDelegatedDelegate owner target delegationType expiresAt payload =>
      simp only [Call.relayed, Option.some.injEq, Prod.mk.injEq] at relayed
      obtain ⟨rfl, rfl, rfl, rfl⟩ := relayed
      refine ⟨fun _ => Prod.fst <$> do
        validateDelegationExpiry env expiresAt
        let consumed ← consumeNonce storage owner payload.nonce
        return storeDelegation consumed owner target delegationType expiresAt, fun verify => ?_⟩
      simp only [invoke, executeDelegatedDelegate, map_bind,
        verifyRelayed_of_reaches verify same unpaused signed scheme registered]
  | executeDelegatedRevoke owner target delegationType payload =>
      simp only [Call.relayed, Option.some.injEq, Prod.mk.injEq] at relayed
      obtain ⟨rfl, rfl, rfl, rfl⟩ := relayed
      refine ⟨fun _ => do
        let consumed ← consumeNonce storage owner payload.nonce
        markDelegationRevoked env consumed owner target delegationType, fun verify => ?_⟩
      simp only [invoke, executeDelegatedRevoke,
        verifyRelayed_of_reaches verify same unpaused signed scheme registered]
  | executeDelegatedRevokeAttest attester subject payload =>
      simp only [Call.relayed, Option.some.injEq, Prod.mk.injEq] at relayed
      obtain ⟨rfl, rfl, rfl, rfl⟩ := relayed
      refine ⟨fun _ => do
        let consumed ← consumeNonce storage attester payload.nonce
        markDelegationRevoked env consumed attester subject .attestation, fun verify => ?_⟩
      simp only [invoke, executeDelegatedRevokeAttest,
        verifyRelayed_of_reaches verify same unpaused signed scheme registered]
  | _ => cases relayed

variable {sha256 : Bytes → BytesN 32}

/-- A call that reaches its verifier hands over one request, with neither a message
nor a signature in it. -/
theorem hands_iff (reaches : Reaches env storage call verifier owner payload)
    {request : VerifierRequest} :
    Hands (fun verify => invoke sha256 env verify storage call) request ↔
      request = ⟨verifier, owner, [], []⟩ := by
  obtain ⟨onward, outcome⟩ := invoke_of_reaches sha256 reaches
  simp only [Hands, outcome]
  constructor
  · rintro ⟨verify, answer, differ⟩
    by_contra other
    apply differ
    simp only [VerifierCalls.answering, if_neg (Ne.symm other)]
  · rintro rfl
    refine ⟨fun _ _ _ _ => some false, none, ?_⟩
    simp [VerifierCalls.answering, answered, calling, Outcome.unwrapOr, Outcome.rejectIf, bind,
      Except.bind]

variable {otherSha256 : Bytes → BytesN 32} {otherEnv : Env} {otherStorage : Storage}
variable {other : Call} {otherVerifier otherOwner : Address}
variable {otherPayload : DelegatedActionPayload}

/-- Of two relayed calls that reach their verifiers, whatever their payloads, the
messages handed over do not differ and no signature is handed over; one verifier is
handed the same request for every payload of an owner. -/
theorem messages_never_differ (first : Reaches env storage call verifier owner payload)
    (second : Reaches otherEnv otherStorage other otherVerifier otherOwner otherPayload) :
    ¬MessagesDiffer (fun verify => invoke sha256 env verify storage call)
        (fun verify => invoke otherSha256 otherEnv verify otherStorage other) ∧
      (∀ request, Hands (fun verify => invoke sha256 env verify storage call) request →
        request.signature = []) ∧
        (verifier = otherVerifier → owner = otherOwner → ∀ request,
          Hands (fun verify => invoke sha256 env verify storage call) request ↔
            Hands (fun verify => invoke otherSha256 otherEnv verify otherStorage other)
              request) := by
  refine ⟨?_, ?_, ?_⟩
  · intro differ
    exact differ _ _ ((hands_iff first).mpr rfl) ((hands_iff second).mpr rfl) rfl
  · intro request handed
    rw [(hands_iff first).mp handed]
  · rintro rfl rfl request
    rw [hands_iff first, hands_iff second]

end Relayed

section Sample

/-- The admin registers a verifier for the second scheme. -/
def registration : List Label :=
  [ sampleLabel 1 (.initializeDelegation ⟨1⟩),
    sampleLabel 2 (.registerVerifier ⟨1⟩ 1 ⟨8⟩) ]

def registeredStorage : Storage :=
  registration.foldl (advance (next samplePadding ⟨0⟩)) .deployed

/-- A payload of the second scheme. -/
def schemePayload (domain : DomainTag) (nonce : Nat) : DelegatedActionPayload where
  domain
  owner := ⟨2⟩
  target := ⟨3⟩
  contractId := ⟨0⟩
  nonce
  scheme := 1

theorem delegate_reaches (nonce : Nat) :
    Reaches (.signedByAll ⟨0⟩ 3) registeredStorage
      (.executeDelegatedDelegate ⟨2⟩ ⟨3⟩ .management 50 (schemePayload .delegate nonce)) ⟨8⟩ ⟨2⟩
      (schemePayload .delegate nonce) where
  relayed := ⟨_, _, rfl, ⟨rfl, rfl, rfl, rfl⟩⟩
  unpaused := rfl
  signed := rfl
  scheme := .inl rfl
  registered := rfl

theorem revoke_reaches (nonce : Nat) :
    Reaches (.signedByAll ⟨0⟩ 3) registeredStorage
      (.executeDelegatedRevoke ⟨2⟩ ⟨3⟩ .management (schemePayload .revokeDelegation nonce)) ⟨8⟩
      ⟨2⟩ (schemePayload .revokeDelegation nonce) where
  relayed := ⟨_, _, rfl, ⟨rfl, rfl, rfl, rfl⟩⟩
  unpaused := rfl
  signed := rfl
  scheme := .inl rfl
  registered := rfl

/-- A relayed delegation and a relayed revocation under another nonce hand the
verifier the same message. -/
theorem delegation_and_revocation_alike :
    ∃ trace, Run (Step samplePadding ⟨0⟩) .deployed trace registeredStorage ∧
      schemePayload .delegate 0 ≠ schemePayload .revokeDelegation 1 ∧
        Reaches (.signedByAll ⟨0⟩ 3) registeredStorage
          (.executeDelegatedDelegate ⟨2⟩ ⟨3⟩ .management 50 (schemePayload .delegate 0)) ⟨8⟩ ⟨2⟩
          (schemePayload .delegate 0) ∧
        Reaches (.signedByAll ⟨0⟩ 3) registeredStorage
          (.executeDelegatedRevoke ⟨2⟩ ⟨3⟩ .management (schemePayload .revokeDelegation 1)) ⟨8⟩
          ⟨2⟩ (schemePayload .revokeDelegation 1) ∧
        ¬MessagesDiffer
          (fun verify => invoke samplePadding (.signedByAll ⟨0⟩ 3) verify registeredStorage
            (.executeDelegatedDelegate ⟨2⟩ ⟨3⟩ .management 50 (schemePayload .delegate 0)))
          (fun verify => invoke samplePadding (.signedByAll ⟨0⟩ 3) verify registeredStorage
            (.executeDelegatedRevoke ⟨2⟩ ⟨3⟩ .management
              (schemePayload .revokeDelegation 1))) := by
  refine ⟨_, run_of_record step_of_next (rfl : (replay _ _ registration).isSome = true),
    by decide, delegate_reaches 0,
    revoke_reaches 1, ?_⟩
  intro differ
  apply differ ⟨⟨8⟩, ⟨2⟩, [], []⟩ ⟨⟨8⟩, ⟨2⟩, [], []⟩
  · exact (hands_iff (delegate_reaches 0)).mpr rfl
  · exact (hands_iff (revoke_reaches 1)).mpr rfl
  · rfl

/-- No verifier can tell a relayed delegation from a relayed revocation. -/
theorem messages_never_differ_sample :
    ¬MessagesDiffer
      (fun verify => invoke samplePadding (.signedByAll ⟨0⟩ 3) verify registeredStorage
        (.executeDelegatedDelegate ⟨2⟩ ⟨3⟩ .management 50 (schemePayload .delegate 0)))
      (fun verify => invoke samplePadding (.signedByAll ⟨0⟩ 3) verify registeredStorage
        (.executeDelegatedRevoke ⟨2⟩ ⟨3⟩ .management (schemePayload .revokeDelegation 1))) :=
  (messages_never_differ (delegate_reaches 0) (revoke_reaches 1)).1

end Sample

end Delegations
