import CredenceContracts.Library.Cells
import CredenceContracts.Multisig.Quorum

/-!
# Pruning removes the dead proposals

A pruning scans a window of the ids and removes what is stored under those whose proposal
is dead.  A dead proposal stays dead: no later call signs or executes it.
-/

namespace Multisig

open Soroban MachineInt Transition Roster

section Scan

variable {now : Nat} {storage : Storage}

/-- What is stored under a proposal id. -/
structure ProposalCell where
  proposal : Option Proposal
  signature : Address → Bool
  signatureCount : Nat

def ProposalCell.dead (now : Nat) (cell : ProposalCell) : Bool :=
  cell.proposal.any fun proposal => proposal.isExpired now

/-- The cell once its proposal is removed; some signatures stay behind. -/
def ProposalCell.clear (signers : List Address) (cell : ProposalCell) : ProposalCell where
  proposal := none
  signature := (signers ++ cell.proposal.toList.map fun proposal => proposal.proposer).foldl
    (fun flags signer => Function.update flags signer false) cell.signature
  signatureCount := 0

/-- What is stored under each id. -/
def Storage.cell (storage : Storage) (id : Nat) : ProposalCell where
  proposal := storage.proposal id
  signature := storage.signature id
  signatureCount := storage.signatureCount id

/-- The entries once what is stored under each id is replaced. -/
def Storage.withCells (storage : Storage) (cells : Nat → ProposalCell) : Storage :=
  { storage with
    proposal := fun id => (cells id).proposal
    signature := fun id => (cells id).signature
    signatureCount := fun id => (cells id).signatureCount }

@[simp] theorem cell_withCells {cells : Nat → ProposalCell} :
    (storage.withCells cells).cell = cells :=
  rfl

theorem ProposalCell.dead_iff {id : Nat} :
    (storage.cell id).dead now = true ↔
      ∃ proposal, storage.proposal id = some proposal ∧ proposal.isExpired now := by
  simp [ProposalCell.dead, Storage.cell, Option.any_eq_true]

theorem removeProposal_eq {id : Nat} {proposal : Proposal}
    (found : storage.proposal id = some proposal) :
    removeProposal storage id proposal = storage.withCells
      (Function.update storage.cell id ((storage.cell id).clear storage.signerList)) := by
  have cleared : ∀ other, Function.update storage.cell id
      ((storage.cell id).clear storage.signerList) other =
        (removeProposal storage id proposal).cell other := by
    intro other
    by_cases same : other = id
    · subst same
      simp [removeProposal, Storage.cell, ProposalCell.clear, found]
    · simp [removeProposal, Storage.cell, same]
  rw [funext cleared]
  rfl

/-- The ids of a scan, which stops where ids end. -/
def scannedIds (startId count : Nat) : List Nat :=
  List.range' startId (min count (2 ^ 64 - startId))

theorem lists_scannedIds (startId count : Nat) :
    Lists (scannedIds startId count)
      {id | startId ≤ id ∧ id < startId + count ∧ id < 2 ^ 64} where
  nodup := List.nodup_range'
  mem_iff id := by
    simp only [scannedIds, List.mem_range'_1, Set.mem_ofPred_eq]
    omega

/-- The scan is a pass over what is stored under its ids. -/
theorem pruneFrom_eq (storage : Storage) (startId count : Nat) :
    pruneFrom now storage startId count =
      let pass := Cells.pass (ProposalCell.dead now) (ProposalCell.clear storage.signerList)
        (scannedIds startId count) storage.cell
      (storage.withCells pass.1, pass.2) := by
  induction count generalizing storage startId with
  | zero => simp [pruneFrom, scannedIds, Cells.pass, Storage.withCells, Storage.cell]
  | succ count ih =>
      rw [pruneFrom]
      by_cases ended : startId ≥ 2 ^ 64
      · rw [if_pos ended, scannedIds, Nat.sub_eq_zero_of_le ended]
        simp [Cells.pass, Storage.withCells, Storage.cell]
      · have ids : scannedIds startId (count + 1) =
            startId :: scannedIds (startId + 1) count := by
          have size : min (count + 1) (2 ^ 64 - startId) =
              min count (2 ^ 64 - (startId + 1)) + 1 := by omega
          rw [scannedIds, size, List.range'_succ, scannedIds]
        rw [if_neg ended, ids]
        cases found : storage.proposal startId with
        | none =>
            have alive : ¬(storage.cell startId).dead now = true := by
              simp [ProposalCell.dead, Storage.cell, found]
            rw [Cells.pass_cons_of_neg alive]
            exact ih storage (startId + 1)
        | some proposal =>
            by_cases expired : proposal.isExpired now
            · have dead : (storage.cell startId).dead now = true :=
                ProposalCell.dead_iff.mpr ⟨proposal, found, expired⟩
              rw [Cells.pass_cons_of_pos dead]
              simp only [if_pos expired, ih, removeProposal_eq found]
              rfl
            · have alive : ¬(storage.cell startId).dead now = true := by
                simpa [ProposalCell.dead, Storage.cell, found] using expired
              rw [Cells.pass_cons_of_neg alive]
              simp only [if_neg expired]
              exact ih storage (startId + 1)

end Scan

section Effect

variable {env : Env} {storage after : Storage} {startId maxIter id pruned : Nat}

/-- How many ids a pruning scans. -/
def effectiveMax (maxIter : Nat) : Nat :=
  if maxIter = 0 then defaultMaxIter else min maxIter maxIterHardCap

/-- The id is in the window of the pruning, and its proposal is dead. -/
def Prunes (env : Env) (storage : Storage) (startId maxIter id : Nat) : Prop :=
  (startId ≤ id ∧ id < startId + effectiveMax maxIter ∧ id < 2 ^ 64) ∧
    ∃ proposal, storage.proposal id = some proposal ∧ proposal.isExpired env.timestamp

/-- A pruning is a pass over its window. -/
theorem pruneExpiredProposals_pass
    (done : pruneExpiredProposals env storage startId maxIter = .ok (after, pruned)) :
    let pass := Cells.pass (ProposalCell.dead env.timestamp)
      (ProposalCell.clear storage.signerList) (scannedIds startId (effectiveMax maxIter))
        storage.cell
    after = storage.withCells pass.1 ∧ pruned = pass.2 := by
  obtain ⟨-, scanned⟩ := pruneExpiredProposals_eq_ok.mp done
  rw [pruneFrom_eq] at scanned
  exact Prod.mk.inj scanned

/-- The cells after a pruning: those of the dead proposals in the window are cleared. -/
theorem cell_of_pruneExpiredProposals
    (done : pruneExpiredProposals env storage startId maxIter = .ok (after, pruned)) :
    (Prunes env storage startId maxIter id →
      after.cell id = (storage.cell id).clear storage.signerList) ∧
    (¬Prunes env storage startId maxIter id → after.cell id = storage.cell id) := by
  obtain ⟨rfl, -⟩ := pruneExpiredProposals_pass done
  have window := lists_scannedIds startId (effectiveMax maxIter)
  have prunes : Prunes env storage startId maxIter id ↔
      id ∈ scannedIds startId (effectiveMax maxIter) ∧
        (storage.cell id).dead env.timestamp = true := by
    rw [window.mem_iff id, ProposalCell.dead_iff]
    rfl
  rw [prunes, cell_withCells, Cells.pass_apply window.nodup]
  exact ⟨fun inside => if_pos inside, fun outside => if_neg outside⟩

/-- A pruning returns the number of the proposals that it removes. -/
theorem encard_prunes
    (done : pruneExpiredProposals env storage startId maxIter = .ok (after, pruned)) :
    {id | Prunes env storage startId maxIter id}.encard = pruned := by
  obtain ⟨-, rfl⟩ := pruneExpiredProposals_pass done
  rw [← Cells.encard_passing (lists_scannedIds startId (effectiveMax maxIter))]
  simp only [Prunes, Set.mem_ofPred_eq, ProposalCell.dead_iff]

/-- Of a pruned proposal the signatures stay that neither a listed signer nor the proposer
gave. -/
theorem signature_of_pruned {proposal : Proposal} {signer : Address}
    (done : pruneExpiredProposals env storage startId maxIter = .ok (after, pruned))
    (prunes : Prunes env storage startId maxIter id)
    (found : storage.proposal id = some proposal) :
    after.signature id signer = true ↔
      signer ∉ storage.signerList ∧ signer ≠ proposal.proposer ∧
        storage.signature id signer = true := by
  have cleared := (cell_of_pruneExpiredProposals done).1 prunes
  have left := congrArg ProposalCell.signature cleared
  have lowered : after.signature id =
      (storage.signerList ++ [proposal.proposer]).foldl
        (fun flags signer => Function.update flags signer false) (storage.signature id) := by
    simpa only [Storage.cell, ProposalCell.clear, found, Option.toList_some, List.map_cons,
      List.map_nil] using left
  rw [lowered, Flags.foldl_lower, List.mem_append, List.mem_singleton, not_or, and_assoc]

end Effect

section Death

variable {storage after final : Storage} {label : Label} {now id : Nat}
variable {trace : List (Event Storage Label)}

/-- The proposal is decided, or its expiration has come. -/
def Proposal.Closed (proposal : Proposal) (now : Nat) : Prop :=
  proposal.status ≠ .pending ∨ proposal.lapsed now

/-- Whatever is stored under the id is closed. -/
def ClosedAt (now id : Nat) (storage : Storage) : Prop :=
  ∀ proposal, storage.proposal id = some proposal → proposal.Closed now

theorem Proposal.isExpired.closed {proposal : Proposal} (dead : proposal.isExpired now) :
    proposal.Closed now := by
  rcases dead with expired | ⟨-, lapsed⟩
  · exact .inl (by simp [expired])
  · exact .inr lapsed

/-- A closed proposal is not pending before its expiration at any later time. -/
theorem Proposal.Closed.not_open {proposal : Proposal} {later : Nat}
    (closed : proposal.Closed now) (late : now ≤ later) :
    ¬(proposal.status = .pending ∧ ¬proposal.lapsed later) := by
  rintro ⟨pending, unlapsed⟩
  rcases closed with decided | ⟨some, lapsed⟩
  · exact decided pending
  · exact unlapsed ⟨some, lapsed.trans late⟩

/-- Nobody signs what is closed. -/
theorem ClosedAt.not_signed {env : Env} {signer : Address} (closed : ClosedAt now id storage)
    (late : now ≤ env.timestamp) : signProposal env storage signer id ≠ .ok after := by
  intro done
  obtain ⟨-, -, -, proposal, found, pending, unlapsed, -⟩ := signProposal_eq_ok.mp done
  exact (closed proposal found).not_open late ⟨pending, unlapsed⟩

/-- Nobody executes what is closed. -/
theorem ClosedAt.not_executed {env : Env} (closed : ClosedAt now id storage)
    (late : now ≤ env.timestamp) : executeProposal env storage id ≠ .ok after := by
  intro done
  obtain ⟨-, proposal, -, found, pending, unlapsed, -⟩ := executeProposal_eq_ok.mp done
  exact (closed proposal found).not_open late ⟨pending, unlapsed⟩

/-- What is closed stays so, until the id is submitted under again. -/
theorem ClosedAt.step (closed : ClosedAt now id storage) (stepped : Step storage label after)
    (late : now ≤ label.env.timestamp) (old : ¬Submits id ⟨storage, label, after⟩) :
    ClosedAt now id after := by
  obtain ⟨env, call⟩ := label
  cases call with
  | initializeMultisig admin signers threshold =>
      obtain ⟨_, _, _, _, rfl⟩ := initializeMultisig_eq_ok.mp stepped
      exact closed
  | addSigner admin signer =>
      obtain ⟨_, _, _, _, rfl⟩ := addSigner_eq_ok.mp stepped
      exact closed
  | removeSigner admin signer =>
      obtain ⟨_, _, _, _, rfl⟩ := removeSigner_eq_ok.mp stepped
      exact closed
  | setThreshold admin threshold =>
      obtain ⟨_, _, _, _, rfl⟩ := setThreshold_eq_ok.mp stepped
      exact closed
  | submitProposal proposer submission =>
      obtain ⟨⟨_, _⟩, submitted, rfl⟩ := Outcome.map_eq_ok.mp stepped
      obtain ⟨_, _, _, _, _, _, rfl⟩ := submitProposal_eq_ok.mp submitted
      have other : id ≠ storage.proposalCounter := fun same =>
        old ⟨⟨proposer, submission, rfl⟩, same.symm⟩
      intro proposal found
      exact closed proposal (by simpa [other] using found)
  | signProposal signer proposalId =>
      obtain ⟨_, _, _, _, _, _, _, _, _, rfl⟩ := signProposal_eq_ok.mp stepped
      exact closed
  | executeProposal proposalId =>
      have different : id ≠ proposalId := by
        rintro rfl
        exact closed.not_executed late stepped
      obtain ⟨_, _, _, _, _, _, _, _, _, rfl⟩ := executeProposal_eq_ok.mp stepped
      intro proposal found
      exact closed proposal (by simpa [different] using found)
  | rejectProposal admin proposalId =>
      obtain ⟨_, _, rejected, _, _, rfl⟩ := rejectProposal_eq_ok.mp stepped
      intro proposal found
      by_cases same : id = proposalId
      · subst same
        obtain rfl : { rejected with status := .rejected } = proposal := by simpa using found
        exact .inl (by simp)
      · exact closed proposal (by simpa [same] using found)
  | pruneExpiredProposals startId maxIter =>
      obtain ⟨⟨_, pruned⟩, done, rfl⟩ := Outcome.map_eq_ok.mp stepped
      intro proposal found
      by_cases prunes : Prunes env storage startId maxIter id
      · have cleared := (cell_of_pruneExpiredProposals done).1 prunes
        have none := congrArg ProposalCell.proposal cleared
        exact absurd (none.symm.trans found) (by simp [ProposalCell.clear])
      · have kept := (cell_of_pruneExpiredProposals done).2 prunes
        have same := congrArg ProposalCell.proposal kept
        exact closed proposal (same.symm.trans found)
  | pausable call =>
      simp only [Step, invoke, Outcome.bind_eq_ok, Outcome.pure_eq_ok] at stepped
      obtain ⟨pause, _, rfl⟩ := stepped
      exact closed

theorem ClosedAt.run (closed : ClosedAt now id storage) (run : Run Step storage trace final)
    (late : ∀ event ∈ trace, now ≤ event.label.env.timestamp)
    (old : ∀ event ∈ trace, ¬Submits id event) : ClosedAt now id final := by
  refine (run.restrict
    (fun event => now ≤ event.label.env.timestamp ∧ ¬Submits id event)
    (ClosedAt now id) (fun event member => ⟨late event member, old event member⟩) closed ?_).2
  exact fun event allowed before stepped => before.step stepped allowed.1 allowed.2

end Death

/-- Unless the contract is paused, a pruning removes exactly the dead proposals of its
window and returns their number; and those could not have been signed or executed from
then on, whatever else was called. -/
theorem pruning_removes_the_dead (env : Env) (storage : Storage) (startId maxIter : Nat) :
    (storage.pause.paused = true ∧ pruneExpiredProposals env storage startId maxIter =
      .error (.contract .contractPaused)) ∨
    ∃ after pruned, pruneExpiredProposals env storage startId maxIter = .ok (after, pruned) ∧
      {id | Prunes env storage startId maxIter id}.encard = pruned ∧
      (∀ id, Prunes env storage startId maxIter id → after.proposal id = none ∧
        ∀ trace final, Run Step storage trace final →
          (∀ event ∈ trace, env.timestamp ≤ event.label.env.timestamp) →
          (∀ event ∈ trace, ¬Submits id event) →
          ∀ later : Env, env.timestamp ≤ later.timestamp → ∀ signer result,
            signProposal later final signer id ≠ .ok result ∧
              executeProposal later final id ≠ .ok result) ∧
      (∀ id, ¬Prunes env storage startId maxIter id →
        after.proposal id = storage.proposal id ∧ after.signature id = storage.signature id ∧
          after.signatureCount id = storage.signatureCount id) ∧
      after.executedOp = storage.executedOp ∧
      signerEntries after = signerEntries storage ∧
      after.proposalCounter = storage.proposalCounter := by
  cases paused : storage.pause.paused with
  | true => exact .inl ⟨rfl, by
      simp [pruneExpiredProposals, Pausable.requireNotPaused, paused]⟩
  | false =>
      refine .inr ?_
      obtain ⟨⟨after, pruned⟩, done⟩ :
          ∃ result, pruneExpiredProposals env storage startId maxIter = .ok result :=
        ⟨_, pruneExpiredProposals_eq_ok.mpr ⟨paused, rfl⟩⟩
      obtain ⟨unchanged, -⟩ := pruneExpiredProposals_pass done
      refine ⟨after, pruned, done, encard_prunes done, ?_, ?_, ?_⟩
      · intro id prunes
        have cleared := (cell_of_pruneExpiredProposals done).1 prunes
        obtain ⟨-, proposal, found, dead⟩ := prunes
        refine ⟨congrArg ProposalCell.proposal cleared, ?_⟩
        intro trace final run late old later passed signer result
        have closed : ClosedAt env.timestamp id storage := by
          intro other same
          obtain rfl : proposal = other := Option.some.inj (found.symm.trans same)
          exact dead.closed
        have still := closed.run run late old
        exact ⟨still.not_signed passed, still.not_executed passed⟩
      · intro id alive
        have kept := (cell_of_pruneExpiredProposals done).2 alive
        simpa [Storage.cell] using kept
      · rw [unchanged]
        exact ⟨rfl, rfl, rfl⟩

section Sample

/-- Of two proposals the one that expired is removed, and its signature with it. -/
theorem pruning_removes_the_dead_sample :
    ∃ storage after pruned,
      replay next .deployed
          [ sampleLabel 1 (.initializeMultisig ⟨1⟩ [⟨2⟩, ⟨3⟩] 2),
            sampleLabel 2 (.submitProposal ⟨2⟩ { sampleSubmission with expiresAt := 5 }),
            sampleLabel 3 (.submitProposal ⟨3⟩ sampleSubmission),
            sampleLabel 4 (.signProposal ⟨2⟩ 0) ] = some storage ∧
        pruneExpiredProposals (.signedByAll ⟨0⟩ 5) storage 0 0 = .ok (after, pruned) ∧
          after.proposal 0 = none ∧ after.proposal 1 = storage.proposal 1 ∧
            (storage.proposal 1).isSome = true := by
  obtain ⟨storage, followed, running, dead, alive, stored⟩ : ∃ storage,
      replay next .deployed
          [ sampleLabel 1 (.initializeMultisig ⟨1⟩ [⟨2⟩, ⟨3⟩] 2),
            sampleLabel 2 (.submitProposal ⟨2⟩ { sampleSubmission with expiresAt := 5 }),
            sampleLabel 3 (.submitProposal ⟨3⟩ sampleSubmission),
            sampleLabel 4 (.signProposal ⟨2⟩ 0) ] = some storage ∧
        storage.pause.paused = false ∧ (storage.cell 0).dead 5 = true ∧
          (storage.cell 1).dead 5 = false ∧ (storage.proposal 1).isSome = true :=
    ⟨_, rfl, rfl, rfl, rfl, rfl⟩
  rcases pruning_removes_the_dead (.signedByAll ⟨0⟩ 5) storage 0 0 with ⟨paused, -⟩ | pruning
  · exact absurd (running.symm.trans paused) (by decide)
  · obtain ⟨after, pruned, done, -, removed, kept, -⟩ := pruning
    refine ⟨storage, after, pruned, followed, done, (removed 0 ⟨by decide, ?_⟩).1,
      (kept 1 ?_).1, stored⟩
    · exact ProposalCell.dead_iff.mp dead
    · exact fun prunes =>
        absurd ((ProposalCell.dead_iff.mpr prunes.2).symm.trans alive) (by decide)

end Sample

end Multisig
