import CredenceContracts.Upgrade.Spec

/-!
# Approved upgrades

An upgrade is recorded with the implementation it replaces, so it needs one.  Nothing but
an upgrade stores an implementation, and none is stored at the initialisation: the first
upgrade never comes, whatever was approved.
-/

namespace UpgradeAuth

open Soroban Transition

variable {strkey : Address → String} {env : Env} {storage before after : Storage}
variable {executor newImplementation : Address} {proposalId : Nat}

/-- The upgrade replaced the implementation, closed its proposal and continued the
history by one record. -/
structure Upgraded (env : Env) (before after : Storage) (executor newImplementation : Address)
    (proposalId : Nat) : Prop where
  implementation : after.implementation = some newImplementation
  executed : ∃ proposal, after.proposal proposalId = some proposal ∧ proposal.status = .executed
  recorded : ∃ record, after.history = before.history ++ [record] ∧
    record.newImplementation = newImplementation ∧ record.executedBy = executor ∧
      record.proposalId = some proposalId ∧ record.executedAt = env.timestamp ∧
        ∀ previous, before.history.getLast? = some previous →
          record.oldImplementation = previous.newImplementation

/-- The proposal is approved, the executor is an upgrader who signed, and the
implementation is the proposed one and not the last one executed. -/
structure Executable (env : Env) (storage : Storage) (executor newImplementation : Address)
    (proposalId : Nat) : Prop where
  signed : env.authorized executor = true
  authorized : isAuthorizedUpgrader env storage executor = true
  approved : ∃ proposal, storage.proposal proposalId = some proposal ∧
    proposal.status = .approved ∧ proposal.newImplementation = newImplementation
  different : ∀ previous, storage.history.getLast? = some previous →
    previous.newImplementation ≠ newImplementation

/-- No upgrade was executed. -/
structure NeverUpgraded (storage : Storage) : Prop where
  implementation : storage.implementation = none
  history : storage.history = []

theorem neverUpgraded_step {label : Label} (never : NeverUpgraded before)
    (stepped : Step strkey before label after) : NeverUpgraded after := by
  obtain ⟨env, call⟩ := label
  cases upgrade_change stepped with
  | initialized _ stored => exact ⟨by rw [stored]; exact never.implementation, by rw [stored]⟩
  | granted _ _ _ _ stored | revoked _ _ _ stored | accepted _ stored =>
      exact ⟨by rw [stored]; exact never.implementation, by rw [stored]; exact never.history⟩
  | executed present _ => simp [never.implementation] at present
  | elsewhere _ implementation history =>
      exact ⟨implementation.trans never.implementation, history.trans never.history⟩

/-- An approved upgrade fails for want of an implementation to replace. -/
theorem executeUpgrade_of_executable (never : NeverUpgraded storage)
    (executable : Executable env storage executor newImplementation proposalId) :
    executeUpgrade env storage executor newImplementation (some proposalId) =
      .error (.panicked "no current implementation") := by
  obtain ⟨proposal, found, approved, proposed⟩ := executable.approved
  obtain ⟨marked, marks⟩ : ∃ marked,
      markExecuted storage newImplementation (some proposalId) = .ok marked := by
    simp [markExecuted, found, approved, proposed]
  have missing : marked.implementation = none := by
    rw [markExecuted_same marks]
    exact never.implementation
  simp only [executeUpgrade, Outcome.bind_eq_error]
  refine .inr ⟨(), requireAuth_eq_ok.mpr executable.signed, .inr ⟨(), ?_, .inr ⟨marked, marks, ?_⟩⟩⟩
  · exact requireUpgradeAuth_eq_ok.mpr executable.authorized
  · exact .inl (Outcome.unwrapOr_eq_error.mpr ⟨missing, rfl⟩)

/-- In every state that a run reaches, every execution of an upgrade fails, and that of an
approved upgrade by an authorised executor fails because there is no implementation yet. -/
theorem upgrade_never_executed {trace : List (Event Storage Label)} {storage : Storage}
    (run : Run (Step strkey) .deployed trace storage) (env : Env)
    (executor newImplementation : Address) (proposalId : Nat) :
    (¬∃ after, executeUpgrade env storage executor newImplementation (some proposalId) =
        .ok after ∧ Upgraded env storage after executor newImplementation proposalId) ∧
      (Executable env storage executor newImplementation proposalId →
        executeUpgrade env storage executor newImplementation (some proposalId) =
          .error (.panicked "no current implementation")) := by
  have never : NeverUpgraded storage :=
    run.invariant NeverUpgraded ⟨rfl, rfl⟩ fun _ never stepped => neverUpgraded_step never stepped
  refine ⟨?_, executeUpgrade_of_executable never⟩
  rintro ⟨after, succeeded, -⟩
  obtain ⟨-, -, marked, marks, currentImpl, current, -⟩ := executeUpgrade_eq_ok.mp succeeded
  rw [markExecuted_same marks] at current
  exact absurd (current.symm.trans never.implementation) (by simp)

section Sample

/-- An upgrade is proposed and approved. -/
def approvedUpgrade : List Label :=
  [ ⟨.signedByAll ⟨0⟩ 10, .initializeUpgradeAuth ⟨1⟩⟩,
    ⟨.signedByAll ⟨0⟩ 20, .grantUpgradeAuth ⟨1⟩ ⟨2⟩ .proposer 0⟩,
    ⟨.signedByAll ⟨0⟩ 30, .proposeUpgrade ⟨2⟩ ⟨9⟩ [] 1⟩,
    ⟨.signedByAll ⟨0⟩ 40, .approveUpgradeProposal ⟨1⟩ 1⟩ ]

def sampleApproved : Storage :=
  approvedUpgrade.foldl (advance (next fun _ => "")) .deployed

theorem sampleApproved_executable :
    Executable (.signedByAll ⟨0⟩ 50) sampleApproved ⟨1⟩ ⟨9⟩ 1 where
  signed := rfl
  authorized := by decide +kernel
  approved := ⟨_, rfl, by decide +kernel, by decide +kernel⟩
  different := by
    have fresh : sampleApproved.history.getLast? = none := by decide +kernel
    simp [fresh]

/-- The approved upgrade is not executed. -/
theorem approved_upgrade_fails :
    ∃ trace, Run (Step fun _ => "") .deployed trace sampleApproved ∧
      Executable (.signedByAll ⟨0⟩ 50) sampleApproved ⟨1⟩ ⟨9⟩ 1 ∧
        ¬∃ after, executeUpgrade (.signedByAll ⟨0⟩ 50) sampleApproved ⟨1⟩ ⟨9⟩ (some 1) =
          .ok after ∧ Upgraded (.signedByAll ⟨0⟩ 50) sampleApproved after ⟨1⟩ ⟨9⟩ 1 := by
  have run : Run (Step fun _ => "") .deployed
      (record (next fun _ => "") .deployed approvedUpgrade) sampleApproved :=
    run_of_record step_of_next (by decide +kernel)
  refine ⟨_, run, sampleApproved_executable, ?_⟩
  have failed : executeUpgrade (.signedByAll ⟨0⟩ 50) sampleApproved ⟨1⟩ ⟨9⟩ (some 1) =
      .error (.panicked "no current implementation") := by
    rfl
  rintro ⟨after, succeeded, -⟩
  exact absurd (failed.symm.trans succeeded) (by simp)

theorem upgrade_never_executed_sample :
    executeUpgrade (.signedByAll ⟨0⟩ 50) sampleApproved ⟨1⟩ ⟨9⟩ (some 1) =
      .error (.panicked "no current implementation") := by
  have run : Run (Step fun _ => "") .deployed
      (record (next fun _ => "") .deployed approvedUpgrade) sampleApproved :=
    run_of_record step_of_next (by decide +kernel)
  exact (upgrade_never_executed run _ _ _ _).2 sampleApproved_executable

end Sample

end UpgradeAuth
