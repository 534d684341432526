import CredenceContracts.Delegation.PauseSigners
import CredenceContracts.Library.Freeze

/-!
# The paused delegation contract

A pause freezes the delegations, the nonces, the admin and the grace period.  Verifiers may
be registered meanwhile.  The admin lifts the pause alone at any threshold; everyone else
needs a proposal.
-/

namespace Delegations

open Soroban Transition
open Pausable (PauseAction)

/-- The call lifts the pause: it is that of the admin, or executes a proposal to unpause
whose count has reached the threshold. -/
inductive LiftsPause (storage : Storage) (env : Env) : Call → Prop where
  | byAdmin {admin : Address} : storage.admin = some admin → env.authorized admin = true →
      LiftsPause storage env (.pausable (.unpause admin))
  | byProposal {proposalId : Nat} :
      storage.pause.pauseProposal proposalId = some PauseAction.unpause.code →
      storage.pause.pauseThreshold ≤ storage.pause.pauseApprovalCount proposalId →
      LiftsPause storage env (.pausable (.executePauseProposal proposalId))

/-- The event lifts the pause. -/
def Lifts (event : Event Storage Label) : Prop :=
  event.after.pause.paused = false ∧ LiftsPause event.before event.label.env event.label.call

/-- What a pause freezes: all but the pause entries and the verifiers. -/
def frozenPart (storage : Storage) : Storage :=
  { storage with
    pause := .deployed
    verifier := fun _ => none }

/-- A paused state of a contract that has an admin, or had nothing stored before. -/
structure Paused (storage : Storage) : Prop where
  paused : storage.pause.paused = true
  fresh : storage.admin = none → storage.pause = .deployed

section Pauses

variable {sha256 : Bytes → BytesN 32} {self : Address} {storage before after : Storage}
variable {start final : Storage} {label : Label} {past trace : List (Event Storage Label)}

/-- Nothing was stored in the pause entries before there is an admin. -/
theorem fresh_step (fresh : storage.admin = none → storage.pause = .deployed)
    (stepped : Step sha256 self storage label after) :
    after.admin = none → after.pause = .deployed := by
  intro unset
  cases step_pause stepped with
  | kept _ pause admin => rw [pause, fresh (admin ▸ unset)]
  | started _ _ _ admin => simp [admin] at unset
  | called _ effect admin =>
      have none : storage.admin = none := admin ▸ unset
      rw [none, fresh none] at effect
      exact absurd effect no_effect_deployed

/-- The calls that a pause does not forbid. -/
inductive Open : Call → Prop where
  | initializeDelegation {admin : Address} : Open (.initializeDelegation admin)
  | registerVerifier {admin verifierId : Address} {scheme : Nat} :
      Open (.registerVerifier admin scheme verifierId)
  | pausable {call : Pausable.Call} : Open (.pausable call)

/-- While the contract is paused, no other call succeeds. -/
theorem open_of_step (paused : before.pause.paused = true)
    (stepped : Step sha256 self before label after) : Open label.call := by
  obtain ⟨env, verify, call⟩ := label
  obtain ⟨-, accepted⟩ := stepped
  cases call with
  | initializeDelegation admin => exact .initializeDelegation
  | registerVerifier admin scheme verifierId => exact .registerVerifier
  | pausable call => exact .pausable
  | _ =>
      simp [invoke, delegate, revokeDelegation, revokeAttestation, executeDelegatedDelegate,
        executeDelegatedRevoke, executeDelegatedRevokeAttest, verifyRelayed, cleanupExpired,
        setRevocationGracePeriod, invalidateNonceRange, paused] at accepted

/-- A call of the pause module that lowers the flag is one that lifts the pause. -/
theorem lifts_of_effect {env : Env} {call : Pausable.Call} {pauses : Pausable.Storage}
    (paused : storage.pause.paused = true) (lowered : pauses.paused = false)
    (effect : PauseEffect sha256 env storage.admin storage.pause call pauses) :
    LiftsPause storage env (.pausable call) := by
  have unchanged {later : Pausable.Storage} (same : later.paused = storage.pause.paused)
      (falls : later.paused = false) : False := by
    rw [same, paused] at falls
    cases falls
  cases effect with
  | @immediate action caller _ signed =>
      cases action with
      | pause => cases lowered
      | unpause => exact .byAdmin signed.1 signed.2
  | submitted _ _ recorded =>
      rw [Pausable.recordApproval_frame recorded] at lowered
      refine (unchanged ?_ lowered).elim
      unfold opened
      split <;> rfl
  | signerKept => exact (unchanged rfl lowered).elim
  | signerAdded => exact (unchanged rfl lowered).elim
  | signerRemoved => exact (unchanged rfl lowered).elim
  | thresholdSet => exact (unchanged rfl lowered).elim
  | approved _ _ recorded =>
      rw [Pausable.recordApproval_frame recorded] at lowered
      exact (unchanged rfl lowered).elim
  | @executed action proposalId found reached =>
      cases action with
      | pause => cases lowered
      | unpause => exact .byProposal found reached

/-- A step of the paused contract lifts the pause, or keeps it and what it freezes. -/
theorem keeps_frozen : Freeze.Keeps (Step sha256 self) Paused frozenPart Lifts := by
  rintro before ⟨env, verify, call⟩ after ⟨paused, fresh⟩ stepped
  have still := fresh_step fresh stepped
  have accepted := stepped.2
  cases open_of_step paused stepped with
  | initializeDelegation =>
      obtain ⟨unset, -⟩ := initializeDelegation_ok accepted
      rw [fresh unset] at paused
      cases paused
  | registerVerifier =>
      obtain ⟨-, -, rfl⟩ := registerVerifier_ok accepted
      exact .inr ⟨⟨paused, still⟩, rfl⟩
  | pausable =>
      obtain ⟨pauses, invoked, stored⟩ := Outcome.bind_eq_ok.mp accepted
      obtain rfl := Outcome.pure_eq_ok.mp stored
      cases lowered : pauses.paused with
      | true => exact .inr ⟨⟨lowered, still⟩, rfl⟩
      | false => exact .inl ⟨lowered, lifts_of_effect paused lowered (effect_of_invoke invoked)⟩

/-- From a paused state of the contract on, the delegations, the nonces, the admin and the
grace period stay as they are until the admin, or the execution of a proposal that has its
count, lifts the pause. -/
theorem paused_delegations_frozen (reached : Run (Step sha256 self) .deployed past start)
    (paused : start.pause.paused = true) (run : Run (Step sha256 self) start trace final) :
    (Freeze.Still Paused frozenPart start trace ∧ Paused final ∧
      frozenPart final = frozenPart start) ∨
      Freeze.Thawed Paused frozenPart Lifts start trace := by
  have fresh : start.admin = none → start.pause = .deployed :=
    reached.invariant (fun storage => storage.admin = none → storage.pause = .deployed)
      (fun _ => rfl) fun _ fresh stepped => fresh_step fresh stepped
  exact keeps_frozen.run ⟨paused, fresh⟩ run

/-- A signer pauses by a proposal, the admin registers a verifier and unpauses alone. -/
theorem paused_delegations_frozen_sample :
    ∃ start trace final, Run (Step samplePadding ⟨0⟩) start trace final ∧
      start.pause.paused = true ∧ start.verifier 0 = none ∧ final.verifier 0 = some ⟨30⟩ ∧
        final.pause.paused = false ∧
          ((Freeze.Still Paused frozenPart start trace ∧ Paused final ∧
            frozenPart final = frozenPart start) ∨
            Freeze.Thawed Paused frozenPart Lifts start trace) := by
  obtain ⟨start, final, begun, followed, paused, absent, registered, lifted⟩ : ∃ start final,
      replay (next samplePadding ⟨0⟩) .deployed
          [ sampleLabel 1 (.initializeDelegation ⟨1⟩),
            sampleLabel 2 (.delegate ⟨2⟩ ⟨3⟩ .management 100 0),
            sampleLabel 3 (.pausable (.setPauseSigner ⟨1⟩ ⟨7⟩ true)),
            sampleLabel 4 (.pausable (.pause ⟨7⟩)),
            sampleLabel 5 (.pausable (.executePauseProposal (2 ^ 32))) ] = some start ∧
        replay (next samplePadding ⟨0⟩) start
          [ sampleLabel 6 (.registerVerifier ⟨1⟩ 0 ⟨30⟩),
            sampleLabel 7 (.pausable (.unpause ⟨1⟩)) ] = some final ∧
        start.pause.paused = true ∧ start.verifier 0 = none ∧
        final.verifier 0 = some ⟨30⟩ ∧ final.pause.paused = false :=
    ⟨_, _, rfl, rfl, rfl, rfl, rfl, rfl⟩
  obtain ⟨_, reached, -⟩ := run_of_replay step_of_next begun
  obtain ⟨trace, run, -⟩ := run_of_replay step_of_next followed
  exact ⟨start, trace, final, run, paused, absent, registered, lifted,
    paused_delegations_frozen reached paused run⟩

end Pauses

end Delegations
