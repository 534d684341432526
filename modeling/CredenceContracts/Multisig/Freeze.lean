import CredenceContracts.Multisig.Contract
import CredenceContracts.Soroban.PauseLift

/-!
# The paused multisig

A paused multisig keeps its signers, its threshold, its proposals with their signatures and
the record of executed operations.  This ends when the pause is lifted, or when anyone
initialises the contract again.
-/

namespace Multisig

open Soroban Transition

def Paused (storage : Storage) : Prop :=
  storage.pause.paused = true

/-- What a pause freezes: all entries but those of the pause module. -/
def frozenPart (storage : Storage) : Storage :=
  { storage with pause := .deployed }

/-- The event ends the pause: as a call that lifts it, or as another initialisation. -/
inductive Reopens (event : Event Storage Label) : Prop where
  | lifted {call : Pausable.Call} : event.label.call = .pausable call →
      event.after.pause.paused = false →
      Pausable.Lifts (Pausable.AdminAuth event.label.env event.before.admin) event.before.pause
        call →
      Reopens event
  | initialized {admin : Address} {signers : List Address} {threshold : Nat} :
      event.label.call = .initializeMultisig admin signers threshold →
      event.label.env.authorized admin = true → Reopens event

/-- The calls that a pause does not forbid. -/
inductive Open : Call → Prop where
  | initializeMultisig {admin : Address} {signers : List Address} {threshold : Nat} :
      Open (.initializeMultisig admin signers threshold)
  | pausable {call : Pausable.Call} : Open (.pausable call)

section Pauses

variable {env : Env} {before after start final : Storage} {label : Label}
variable {trace : List (Event Storage Label)}

/-- While the multisig is paused, no other call succeeds. -/
theorem open_of_invoke {call : Call} (paused : Paused before)
    (accepted : invoke env before call = .ok after) : Open call := by
  unfold Paused at paused
  cases call with
  | initializeMultisig admin signers threshold => exact .initializeMultisig
  | pausable call => exact .pausable
  | _ =>
      simp [invoke, addSigner, removeSigner, setThreshold, submitProposal, signProposal,
        executeProposal, rejectProposal, pruneExpiredProposals, paused] at accepted

/-- A step of the paused multisig ends the pause, or keeps it and what it freezes. -/
theorem keeps_frozen : Freeze.Keeps Step Paused frozenPart Reopens := by
  rintro before ⟨env, call⟩ after paused stepped
  cases open_of_invoke paused stepped with
  | initializeMultisig =>
      obtain ⟨_, signed, -⟩ := Outcome.bind_eq_ok.mp stepped
      exact .inl (.initialized rfl (requireAuth_eq_ok.mp signed))
  | pausable =>
      obtain ⟨pause, invoked, stored⟩ := Outcome.bind_eq_ok.mp stepped
      obtain rfl := Outcome.pure_eq_ok.mp stored
      cases lowered : pause.paused with
      | true => exact .inr ⟨lowered, rfl⟩
      | false =>
          exact .inl (.lifted rfl lowered ((Pausable.lowered_iff paused invoked).mp lowered))

/-- A multisig that is paused keeps all its entries but those of the pause module, whatever
is called and by whom, up to the first call that lifts the pause or initialises the contract
again. -/
theorem paused_multisig_frozen (paused : Paused start) (run : Run Step start trace final) :
    (Freeze.Still Paused frozenPart start trace ∧ Paused final ∧
      frozenPart final = frozenPart start) ∨
      Freeze.Thawed Paused frozenPart Reopens start trace :=
  keeps_frozen.run paused run

/-- A pause signer pauses the multisig, and unpauses it by another proposal. -/
theorem paused_multisig_frozen_sample :
    ∃ start final trace, Run Step start trace final ∧ Paused start ∧ ¬Paused final ∧
      Freeze.Thawed Paused frozenPart Reopens start trace := by
  obtain ⟨start, final, begun, followed, paused, running⟩ : ∃ start final,
      replay next .deployed
          [ ⟨.signedByAll ⟨0⟩ 1, .initializeMultisig ⟨1⟩ [⟨2⟩, ⟨3⟩] 2⟩,
            ⟨.signedByAll ⟨0⟩ 2, .pausable (.setPauseSigner ⟨1⟩ ⟨2⟩ true)⟩,
            ⟨.signedByAll ⟨0⟩ 3, .pausable (.setPauseThreshold ⟨1⟩ 1)⟩,
            ⟨.signedByAll ⟨0⟩ 4, .pausable (.pause ⟨2⟩)⟩,
            ⟨.signedByAll ⟨0⟩ 5, .pausable (.executePauseProposal 0)⟩ ] = some start ∧
        replay next start
          [ ⟨.signedByAll ⟨0⟩ 6, .pausable (.unpause ⟨2⟩)⟩,
            ⟨.signedByAll ⟨0⟩ 7, .pausable (.executePauseProposal 1)⟩ ] = some final ∧
        start.pause.paused = true ∧ final.pause.paused = false :=
    ⟨_, _, rfl, rfl, rfl, rfl⟩
  obtain ⟨trace, run, -⟩ := run_of_replay step_of_next followed
  have unpaused : ¬Paused final := by
    unfold Paused
    simp [running]
  rcases paused_multisig_frozen paused run with ⟨-, held, -⟩ | thawed
  · exact absurd held unpaused
  · exact ⟨start, final, trace, run, paused, unpaused, thawed⟩

end Pauses

end Multisig
