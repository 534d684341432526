import CredenceContracts.Multisig.Quorum

/-!
# Each operation hash executes once

Proposal ids come again after a second initialisation and proposal records are
pruned, so a proposal's own status does not keep its operation from executing
twice.  The mark on the operation hash does: no step clears it.
-/

namespace Multisig

open Soroban Transition

variable {storage after : Storage} {label : Label} {trace : List (Event Storage Label)}

/-- The event executes a proposal that carries the operation hash. -/
def executes (opHash : BytesN 32) (event : Event Storage Label) : Bool :=
  match event.label.call with
  | .executeProposal proposalId =>
      (event.before.proposal proposalId).any fun proposal => proposal.opHash = opHash
  | _ => false

/-- A step marks the hash that it executes and no other, and clears no mark. -/
theorem executedOp_of_step {opHash : BytesN 32} (stepped : Step storage label after) :
    isOperationExecuted after opHash = true ↔
      isOperationExecuted storage opHash = true ∨
        executes opHash ⟨storage, label, after⟩ = true := by
  obtain ⟨env, call⟩ := label
  unfold isOperationExecuted executes
  cases call with
  | initializeMultisig admin signers threshold =>
      obtain ⟨_, _, _, _, rfl⟩ := initializeMultisig_eq_ok.mp stepped
      simp
  | addSigner admin signer =>
      obtain ⟨_, _, _, _, rfl⟩ := addSigner_eq_ok.mp stepped
      simp
  | removeSigner admin signer =>
      obtain ⟨_, _, _, _, rfl⟩ := removeSigner_eq_ok.mp stepped
      simp
  | setThreshold admin threshold =>
      obtain ⟨_, _, _, _, rfl⟩ := setThreshold_eq_ok.mp stepped
      simp
  | submitProposal proposer submission =>
      obtain ⟨⟨_, id⟩, submitted, rfl⟩ := Outcome.map_eq_ok.mp stepped
      obtain ⟨_, _, _, _, _, _, rfl⟩ := submitProposal_eq_ok.mp submitted
      simp
  | signProposal signer proposalId =>
      obtain ⟨_, _, _, _, _, _, _, _, _, rfl⟩ := signProposal_eq_ok.mp stepped
      simp
  | executeProposal proposalId =>
      obtain ⟨_, proposal, _, found, _, _, _, _, _, rfl⟩ := executeProposal_eq_ok.mp stepped
      by_cases same : opHash = proposal.opHash
      · simp [found, same]
      · simp [found, same, Ne.symm same]
  | rejectProposal admin proposalId =>
      obtain ⟨_, _, _, _, _, rfl⟩ := rejectProposal_eq_ok.mp stepped
      simp
  | pruneExpiredProposals startId maxIter =>
      obtain ⟨_, _, _, rfl, _⟩ := pruneExpiredProposals_frame stepped
      simp
  | pausable call =>
      simp only [Step, invoke, Outcome.bind_eq_ok, Outcome.pure_eq_ok] at stepped
      obtain ⟨pause, _, rfl⟩ := stepped
      simp

/-- An execution finds its hash unmarked. -/
theorem unmarked_of_executes {opHash : BytesN 32} {event : Event Storage Label}
    (executed : executes opHash event = true)
    (stepped : Step event.before event.label event.after) :
    isOperationExecuted event.before opHash = false := by
  obtain ⟨before, ⟨env, call⟩, after⟩ := event
  unfold executes at executed
  split at executed
  · rename_i proposalId called
    obtain rfl : call = .executeProposal proposalId := called
    obtain ⟨_, proposal, _, found, _, _, _, _, unmarked, _⟩ := executeProposal_eq_ok.mp stepped
    obtain rfl : proposal.opHash = opHash := by
      simpa [show before.proposal proposalId = some proposal from found] using executed
    exact unmarked
  · simp at executed

/-- In every run each operation hash executes at most once, and the hash counts as
executed exactly in the states from its execution on. -/
theorem operation_executes_once (run : Run Step .deployed trace storage)
    (opHash : BytesN 32) :
    (trace.filter (executes opHash)).length ≤ 1 ∧
      (isOperationExecuted storage opHash = true ↔
        ∃ event ∈ trace, executes opHash event = true) := by
  constructor
  · apply run.length_filter_le_one (executes opHash)
      (fun storage => isOperationExecuted storage opHash = true)
    · intro event executed stepped
      simp [unmarked_of_executes executed stepped]
    · intro event executed stepped
      exact (executedOp_of_step stepped).mpr (.inr executed)
    · intro event marked stepped
      exact (executedOp_of_step stepped).mpr (.inl marked)
  · induction run with
    | nil => simp [isOperationExecuted, Storage.deployed]
    | snoc run stepped ih =>
        rw [executedOp_of_step stepped, ih]
        simp [or_and_right, exists_or]

section Sample

/-- A proposal executes, a second initialisation hands out its id again for the same
operation, and the hash stays executed. -/
theorem operation_executes_once_sample :
    ∃ trace storage, Run Step .deployed trace storage ∧
      (trace.filter (executes sampleSubmission.opHash)).length ≤ 1 ∧
        isOperationExecuted storage sampleSubmission.opHash = true ∧
          ∃ event ∈ trace, executes sampleSubmission.opHash event = true := by
  obtain ⟨storage, followed, marked⟩ : ∃ storage,
      replay next .deployed
          [ sampleLabel 1 (.initializeMultisig ⟨1⟩ [⟨2⟩, ⟨3⟩] 1),
            sampleLabel 2 (.submitProposal ⟨2⟩ sampleSubmission),
            sampleLabel 3 (.signProposal ⟨2⟩ 0),
            sampleLabel 4 (.executeProposal 0),
            sampleLabel 5 (.initializeMultisig ⟨1⟩ [⟨3⟩] 1),
            sampleLabel 6 (.submitProposal ⟨3⟩ sampleSubmission),
            sampleLabel 7 (.signProposal ⟨3⟩ 0) ] = some storage ∧
        isOperationExecuted storage sampleSubmission.opHash = true :=
    ⟨_, rfl, rfl⟩
  obtain ⟨trace, run, _⟩ := run_of_replay step_of_next followed
  obtain ⟨once, exactly⟩ := operation_executes_once run sampleSubmission.opHash
  exact ⟨trace, storage, run, once, marked, exactly.mp marked⟩

end Sample

end Multisig
