import CredenceContracts.Delegation.Spec
import CredenceContracts.Soroban.PauseSpec

/-!
# What each pause operation of the delegation contract does

The functions that the delegation contract has of its own are inverted here; those it
shares are inverted with the shared pause module.
-/

namespace Delegations

open Soroban MachineInt
open Pausable (PauseAction AdminAuth SignerAuth recordApproval)

section Calls

variable {sha256 : Bytes → BytesN 32} {env : Env} {storedAdmin : Option Address}
variable {pauses after : Pausable.Storage}

/-- The pause entries after a signer was added; a threshold of zero becomes one. -/
def withSigner (pauses : Pausable.Storage) (signer : Address) : Pausable.Storage :=
  { pauses with
    pauseSigner := Function.update pauses.pauseSigner signer true
    pauseSignerCount := min (pauses.pauseSignerCount + 1) (2 ^ 32 - 1)
    pauseThreshold := if pauses.pauseThreshold = 0 then 1 else pauses.pauseThreshold }

/-- The pause entries after a signer was removed; the threshold is capped. -/
def withoutSigner (pauses : Pausable.Storage) (signer : Address) : Pausable.Storage :=
  { pauses with
    pauseSigner := Function.update pauses.pauseSigner signer false
    pauseSignerCount := pauses.pauseSignerCount - 1
    pauseThreshold := min pauses.pauseThreshold (pauses.pauseSignerCount - 1) }

theorem setPauseSigner_eq_ok {admin signer : Address} {enabled : Bool} :
    setPauseSigner env storedAdmin pauses admin signer enabled = .ok after ↔
      AdminAuth env storedAdmin admin ∧
        ((pauses.pauseSigner signer = enabled ∧ after = pauses) ∨
          (pauses.pauseSigner signer = false ∧ enabled = true ∧
            after = withSigner pauses signer) ∨
          (pauses.pauseSigner signer = true ∧ enabled = false ∧
            after = withoutSigner pauses signer)) := by
  have capped (low high : Nat) : (if low > high then high else low) = min low high := by
    split <;> omega
  unfold setPauseSigner withSigner withoutSigner
  cases enabled <;> cases existing : pauses.pauseSigner signer <;> simp [capped]

theorem setPauseThreshold_eq_ok {admin : Address} {threshold : Nat} :
    setPauseThreshold env storedAdmin pauses admin threshold = .ok after ↔
      AdminAuth env storedAdmin admin ∧ threshold ≤ pauses.pauseSignerCount ∧
        (threshold = 0 → pauses.pauseSignerCount = 0) ∧
          after = { pauses with pauseThreshold := threshold } := by
  simp [setPauseThreshold]

/-- The pause entries once the proposal is live: as they are, or with it opened. -/
def opened (pauses : Pausable.Storage) (id : Nat) (action : PauseAction) :
    Pausable.Storage :=
  if (pauses.pauseProposal id).isSome then
    pauses
  else
    { pauses with
      pauseProposal := Function.update pauses.pauseProposal id (some action.code)
      pauseApprovalCount := Function.update pauses.pauseApprovalCount id 0 }

theorem proposeAction_eq_ok {caller : Address} {action : PauseAction} {id : Option Nat} :
    proposeAction sha256 env pauses caller action = .ok (after, id) ↔
      SignerAuth env pauses caller ∧
        recordApproval (opened pauses (deriveProposalId sha256 env action) action)
            (deriveProposalId sha256 env action) caller = .ok after ∧
          id = some (deriveProposalId sha256 env action) := by
  simp only [proposeAction, opened, Outcome.bind_eq_ok,
    Pausable.requirePauseSigner_eq_ok, Outcome.pure_eq_ok, Prod.mk.injEq]
  grind

/-- The call that asks for an action. -/
def requesting (action : PauseAction) (caller : Address) : Pausable.Call :=
  match action with
  | .pause => .pause caller
  | .unpause => .unpause caller

/-- The request takes effect at once: at a threshold of zero, or as an unpause by the
stored admin. -/
def Immediate (storedAdmin : Option Address) (pauses : Pausable.Storage)
    (action : PauseAction) (caller : Address) : Prop :=
  pauses.pauseThreshold = 0 ∨ action = .unpause ∧ storedAdmin = some caller

/-- A request takes effect at once for the admin or is a signer's proposal. -/
theorem requesting_eq_ok {action : PauseAction} {caller : Address} :
    invokePausable sha256 env storedAdmin pauses (requesting action caller) = .ok after ↔
      (Immediate storedAdmin pauses action caller ∧ AdminAuth env storedAdmin caller ∧
          after = { pauses with paused := action.leaves }) ∨
        (¬Immediate storedAdmin pauses action caller ∧
          (action = .unpause → storedAdmin.isSome = true) ∧
            ∃ id, proposeAction sha256 env pauses caller action = .ok (after, id)) := by
  cases action with
  | pause =>
      simp only [requesting, invokePausable, pause, Immediate]
      split
      · rename_i zero
        simp [zero, PauseAction.leaves]
      · rename_i positive
        simp [positive]
  | unpause =>
      simp only [requesting, invokePausable, unpause, Immediate]
      split
      · rename_i zero
        simp [zero, PauseAction.leaves]
      · rename_i positive
        cases storedAdmin with
        | none => simp [positive, AdminAuth]
        | some admin =>
            by_cases same : caller = admin
            · simp [positive, same, AdminAuth, PauseAction.leaves]
            · simp [positive, same, Ne.symm same]

theorem executePauseProposal_eq_ok {proposalId : Nat} :
    executePauseProposal pauses proposalId = .ok after ↔
      ∃ action : PauseAction, pauses.pauseProposal proposalId = some action.code ∧
        pauses.pauseThreshold ≤ pauses.pauseApprovalCount proposalId ∧
          after = { pauses with
            paused := action.leaves
            pauseProposal := Function.update pauses.pauseProposal proposalId none
            pauseApprovalCount :=
              Function.update pauses.pauseApprovalCount proposalId 0 } := by
  simp only [executePauseProposal, Outcome.bind_eq_ok, Outcome.pure_eq_ok,
    Pausable.executePauseProposal_eq_ok]
  grind

/-- What a call of the pause module can do. -/
inductive PauseEffect (sha256 : Bytes → BytesN 32) (env : Env) (storedAdmin : Option Address)
    (pauses : Pausable.Storage) : Pausable.Call → Pausable.Storage → Prop where
  | immediate {action : PauseAction} {caller : Address} :
      Immediate storedAdmin pauses action caller → AdminAuth env storedAdmin caller →
      PauseEffect sha256 env storedAdmin pauses (requesting action caller)
        { pauses with paused := action.leaves }
  | submitted {action : PauseAction} {caller : Address} {after : Pausable.Storage} :
      ¬Immediate storedAdmin pauses action caller → SignerAuth env pauses caller →
      recordApproval (opened pauses (deriveProposalId sha256 env action) action)
        (deriveProposalId sha256 env action) caller = .ok after →
      PauseEffect sha256 env storedAdmin pauses (requesting action caller) after
  | signerKept {admin signer : Address} {enabled : Bool} : AdminAuth env storedAdmin admin →
      PauseEffect sha256 env storedAdmin pauses (.setPauseSigner admin signer enabled) pauses
  | signerAdded {admin signer : Address} : AdminAuth env storedAdmin admin →
      pauses.pauseSigner signer = false →
      PauseEffect sha256 env storedAdmin pauses (.setPauseSigner admin signer true)
        (withSigner pauses signer)
  | signerRemoved {admin signer : Address} : AdminAuth env storedAdmin admin →
      pauses.pauseSigner signer = true →
      PauseEffect sha256 env storedAdmin pauses (.setPauseSigner admin signer false)
        (withoutSigner pauses signer)
  | thresholdSet {admin : Address} {threshold : Nat} : AdminAuth env storedAdmin admin →
      threshold ≤ pauses.pauseSignerCount →
      (threshold = 0 → pauses.pauseSignerCount = 0) →
      PauseEffect sha256 env storedAdmin pauses (.setPauseThreshold admin threshold)
        { pauses with pauseThreshold := threshold }
  | approved {signer : Address} {proposalId : Nat} {after : Pausable.Storage} :
      SignerAuth env pauses signer → (pauses.pauseProposal proposalId).isSome = true →
      recordApproval pauses proposalId signer = .ok after →
      PauseEffect sha256 env storedAdmin pauses (.approvePauseProposal signer proposalId)
        after
  | executed {action : PauseAction} {proposalId : Nat} :
      pauses.pauseProposal proposalId = some action.code →
      pauses.pauseThreshold ≤ pauses.pauseApprovalCount proposalId →
      PauseEffect sha256 env storedAdmin pauses (.executePauseProposal proposalId)
        { pauses with
          paused := action.leaves
          pauseProposal := Function.update pauses.pauseProposal proposalId none
          pauseApprovalCount := Function.update pauses.pauseApprovalCount proposalId 0 }

theorem effect_of_requesting {action : PauseAction} {caller : Address}
    (invoked : invokePausable sha256 env storedAdmin pauses (requesting action caller) =
      .ok after) :
    PauseEffect sha256 env storedAdmin pauses (requesting action caller) after := by
  rcases requesting_eq_ok.mp invoked with ⟨immediate, signed, rfl⟩ | ⟨slow, -, id, proposed⟩
  · exact .immediate immediate signed
  · obtain ⟨signed, recorded, -⟩ := proposeAction_eq_ok.mp proposed
    exact .submitted slow signed recorded

theorem effect_of_invoke {call : Pausable.Call}
    (invoked : invokePausable sha256 env storedAdmin pauses call = .ok after) :
    PauseEffect sha256 env storedAdmin pauses call after := by
  cases call with
  | pause caller => exact @effect_of_requesting _ _ _ _ _ .pause caller invoked
  | unpause caller => exact @effect_of_requesting _ _ _ _ _ .unpause caller invoked
  | setPauseSigner admin signer enabled =>
      obtain ⟨signed, ⟨-, rfl⟩ | ⟨absent, rfl, rfl⟩ | ⟨present, rfl, rfl⟩⟩ :=
        setPauseSigner_eq_ok.mp invoked
      · exact .signerKept signed
      · exact .signerAdded signed absent
      · exact .signerRemoved signed present
  | setPauseThreshold admin threshold =>
      obtain ⟨signed, reachable, positive, rfl⟩ := setPauseThreshold_eq_ok.mp invoked
      exact .thresholdSet signed reachable positive
  | approvePauseProposal signer proposalId =>
      obtain ⟨signed, ⟨_, found⟩, recorded⟩ :=
        Pausable.approvePauseProposal_eq_ok.mp invoked
      exact .approved signed (by simp [found]) recorded
  | executePauseProposal proposalId =>
      obtain ⟨action, found, reached, rfl⟩ := executePauseProposal_eq_ok.mp invoked
      exact .executed found reached

/-- What is stored about the pause signers: who they are, their count and the threshold. -/
def signerEntries (pauses : Pausable.Storage) : (Address → Bool) × Nat × Nat :=
  (pauses.pauseSigner, pauses.pauseSignerCount, pauses.pauseThreshold)

/-- What a call of the pause module does to the signers. -/
inductive SignerChange (pauses after : Pausable.Storage) : Prop where
  | kept : signerEntries after = signerEntries pauses → SignerChange pauses after
  | added {signer : Address} : pauses.pauseSigner signer = false →
      after = withSigner pauses signer → SignerChange pauses after
  | removed {signer : Address} : pauses.pauseSigner signer = true →
      after = withoutSigner pauses signer → SignerChange pauses after
  | thresholdSet {threshold : Nat} : threshold ≤ pauses.pauseSignerCount →
      (threshold = 0 → pauses.pauseSignerCount = 0) →
      after = { pauses with pauseThreshold := threshold } → SignerChange pauses after

theorem signerEntries_opened {id : Nat} {action : PauseAction} :
    signerEntries (opened pauses id action) = signerEntries pauses := by
  unfold opened
  split <;> rfl

theorem signerEntries_recorded {id : Nat} {signer : Address}
    (recorded : recordApproval pauses id signer = .ok after) :
    signerEntries after = signerEntries pauses := by
  rw [Pausable.recordApproval_frame recorded]
  rfl

/-- Only the setters touch the signers; requests, approvals and executions do not. -/
theorem PauseEffect.signers {call : Pausable.Call}
    (effect : PauseEffect sha256 env storedAdmin pauses call after) :
    SignerChange pauses after := by
  cases effect with
  | immediate => exact .kept rfl
  | submitted _ _ recorded =>
      exact .kept ((signerEntries_recorded recorded).trans signerEntries_opened)
  | signerKept => exact .kept rfl
  | signerAdded _ absent => exact .added absent rfl
  | signerRemoved _ present => exact .removed present rfl
  | thresholdSet _ reachable positive => exact .thresholdSet reachable positive rfl
  | approved _ _ recorded => exact .kept (signerEntries_recorded recorded)
  | executed => exact .kept rfl

end Calls

section Steps

variable {sha256 : Bytes → BytesN 32} {self : Address} {storage after : Storage}
variable {label : Label}

/-- How a step changes the pause entries and the admin. -/
inductive PauseChange (sha256 : Bytes → BytesN 32) (storage : Storage) (label : Label)
    (after : Storage) : Prop where
  | kept : (∀ call, label.call ≠ .pausable call) → after.pause = storage.pause →
      after.admin = storage.admin → PauseChange sha256 storage label after
  | started {admin : Address} : label.call = .initializeDelegation admin →
      storage.admin = none → after.pause = storage.pause.reset →
      after.admin = some admin → PauseChange sha256 storage label after
  | called {call : Pausable.Call} : label.call = .pausable call →
      PauseEffect sha256 label.env storage.admin storage.pause call after.pause →
      after.admin = storage.admin → PauseChange sha256 storage label after

/-- A step that is no pause call leaves the pause entries alone or initialises them. -/
theorem step_pause (stepped : Step sha256 self storage label after) :
    PauseChange sha256 storage label after := by
  obtain ⟨env, verify, call⟩ := label
  obtain ⟨addressed, accepted⟩ := stepped
  cases call with
  | initializeDelegation admin =>
      obtain ⟨unset, rfl⟩ := initializeDelegation_ok accepted
      exact .started rfl unset rfl rfl
  | delegate owner target delegationType expiresAt nonce =>
      obtain ⟨⟨_, record⟩, delegated, rfl⟩ := Outcome.map_eq_ok.mp accepted
      obtain ⟨-, -, -, -, rfl⟩ := delegate_ok delegated
      exact .kept (by simp) rfl rfl
  | revokeDelegation owner target delegationType nonce =>
      obtain ⟨_, -, -, -, -, rfl⟩ := revokeDelegation_ok accepted
      exact .kept (by simp) rfl rfl
  | revokeAttestation attester subject nonce =>
      obtain ⟨_, -, -, -, -, rfl⟩ := revokeAttestation_ok accepted
      exact .kept (by simp) rfl rfl
  | executeDelegatedDelegate owner target delegationType expiresAt payload =>
      obtain ⟨⟨_, record⟩, delegated, rfl⟩ := Outcome.map_eq_ok.mp accepted
      obtain ⟨-, -, -, -, -, rfl⟩ := executeDelegatedDelegate_ok delegated
      exact .kept (by simp) rfl rfl
  | executeDelegatedRevoke owner target delegationType payload =>
      obtain ⟨-, _, -, -, -, -, rfl⟩ := executeDelegatedRevoke_ok accepted
      exact .kept (by simp) rfl rfl
  | executeDelegatedRevokeAttest attester subject payload =>
      obtain ⟨-, _, -, -, -, -, rfl⟩ := executeDelegatedRevokeAttest_ok accepted
      exact .kept (by simp) rfl rfl
  | cleanupExpired owner target delegationType =>
      obtain ⟨_, -, -, rfl⟩ := cleanupExpired_ok accepted
      exact .kept (by simp) rfl rfl
  | setRevocationGracePeriod admin graceSeconds =>
      obtain ⟨-, -, rfl⟩ := setRevocationGracePeriod_ok accepted
      exact .kept (by simp) rfl rfl
  | invalidateNonceRange identity newNonce =>
      obtain ⟨-, -, rfl⟩ := invalidateNonceRange_ok accepted
      exact .kept (by simp) rfl rfl
  | registerVerifier admin scheme verifierId =>
      obtain ⟨-, -, rfl⟩ := registerVerifier_ok accepted
      exact .kept (by simp) rfl rfl
  | pausable call =>
      simp only [invoke, Outcome.bind_eq_ok, Outcome.pure_eq_ok] at accepted
      obtain ⟨pauses, invoked, rfl⟩ := accepted
      exact .called rfl (effect_of_invoke invoked) rfl

end Steps

end Delegations
