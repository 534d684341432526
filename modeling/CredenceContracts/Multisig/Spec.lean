import CredenceContracts.Library.Flags
import CredenceContracts.Multisig.Contract

/-!
# What each multi-signature operation does

One lemma for each operation says when it succeeds and what entries it then
leaves.
-/

namespace Multisig

open Soroban MachineInt

variable {env : Env} {storage after : Storage}

@[simp] theorem requireSigner_eq_ok {signer : Address} {result : Unit} :
    requireSigner storage signer = .ok result ↔ storage.signer signer = true := by
  simp [requireSigner]

/-- The named admin is the stored one and authorised the call. -/
def AdminCall (env : Env) (storage : Storage) (admin : Address) : Prop :=
  env.authorized admin = true ∧ storage.admin = some admin

@[simp] theorem requireAdmin_eq_ok {admin : Address} {result : Unit} :
    requireAdmin env storage admin = .ok result ↔ AdminCall env storage admin := by
  simp only [requireAdmin, AdminCall, Outcome.bind_eq_ok, requireAuth_eq_ok,
    Outcome.unwrapOr_eq_ok, Outcome.rejectIf_eq_ok]
  grind

theorem initializeMultisig_eq_ok {admin : Address} {signers : List Address}
    {threshold : Nat} :
    initializeMultisig env storage admin signers threshold = .ok after ↔
      env.authorized admin = true ∧ signers ≠ [] ∧ 0 < threshold ∧
        threshold ≤ signers.length ∧
          after = { storage with
            admin := some admin
            pause := storage.pause.reset
            signerCount := some signers.length
            threshold
            proposalCounter := 0
            signerList := signers
            signer := signers.foldl
              (fun flags signer => Function.update flags signer true) storage.signer } := by
  simp only [initializeMultisig, Outcome.bind_eq_ok, requireAuth_eq_ok,
    Outcome.rejectIf_eq_ok, Outcome.pure_eq_ok]
  grind

theorem addSigner_eq_ok {admin signer : Address} :
    addSigner env storage admin signer = .ok after ↔
      storage.pause.paused = false ∧ AdminCall env storage admin ∧
        storage.signer signer = false ∧ storage.signerCount.getD 0 + 1 < 2 ^ 32 ∧
          after = { storage with
            signer := Function.update storage.signer signer true
            signerCount := some (storage.signerCount.getD 0 + 1)
            signerList := storage.signerList ++ [signer] } := by
  simp [addSigner]

theorem removeSigner_eq_ok {admin signer : Address} :
    removeSigner env storage admin signer = .ok after ↔
      storage.pause.paused = false ∧ AdminCall env storage admin ∧
        storage.signer signer = true ∧ 1 < storage.signerCount.getD 1 ∧
          after = { storage with
            signer := Function.update storage.signer signer false
            signerCount := some (storage.signerCount.getD 1 - 1)
            signerList := storage.signerList.filter fun other => other ≠ signer
            threshold := min storage.threshold (storage.signerCount.getD 1 - 1) } := by
  have capped (low high : Nat) : (if low > high then high else low) = min low high := by
    split <;> omega
  simp [removeSigner, capped]

theorem setThreshold_eq_ok {admin : Address} {threshold : Nat} :
    setThreshold env storage admin threshold = .ok after ↔
      storage.pause.paused = false ∧ AdminCall env storage admin ∧ 0 < threshold ∧
        threshold ≤ storage.signerCount.getD 0 ∧ after = { storage with threshold } := by
  simp only [setThreshold, Outcome.bind_eq_ok, Pausable.requireNotPaused_eq_ok,
    requireAdmin_eq_ok, Outcome.rejectIf_eq_ok, Outcome.pure_eq_ok]
  grind

theorem submitProposal_eq_ok {proposer : Address} {submission : Submission} {id : Nat} :
    submitProposal env storage proposer submission = .ok (after, id) ↔
      storage.pause.paused = false ∧ env.authorized proposer = true ∧
        storage.signer proposer = true ∧ submission.description.length ≠ 0 ∧
          storage.proposalCounter + 1 < 2 ^ 64 ∧ id = storage.proposalCounter ∧
            after = { storage with
              proposalCounter := storage.proposalCounter + 1
              proposal := Function.update storage.proposal storage.proposalCounter
                (some { submission with
                  id := storage.proposalCounter
                  proposedAt := env.timestamp
                  proposer
                  status := .pending })
              signatureCount :=
                Function.update storage.signatureCount storage.proposalCounter 0 } := by
  simp only [submitProposal, Outcome.bind_eq_ok, Pausable.requireNotPaused_eq_ok,
    requireAuth_eq_ok, requireSigner_eq_ok, Outcome.rejectIf_eq_ok, checkedU64_eq_ok,
    Outcome.pure_eq_ok, Prod.mk.injEq]
  grind

theorem signProposal_eq_ok {signer : Address} {proposalId : Nat} :
    signProposal env storage signer proposalId = .ok after ↔
      storage.pause.paused = false ∧ env.authorized signer = true ∧
        storage.signer signer = true ∧
          ∃ proposal, storage.proposal proposalId = some proposal ∧
            proposal.status = .pending ∧ ¬proposal.lapsed env.timestamp ∧
              storage.signature proposalId signer = false ∧
                storage.signatureCount proposalId + 1 < 2 ^ 32 ∧
                  after = { storage with
                    signature := Function.update storage.signature proposalId
                      (Function.update (storage.signature proposalId) signer true)
                    signatureCount := Function.update storage.signatureCount proposalId
                      (storage.signatureCount proposalId + 1) } := by
  simp [signProposal]

/-- The count of a walk over a list, begun at a given count. -/
theorem foldlM_countSigned {signed : Address → Bool} {signers : List Address}
    {start count : Nat} :
    signers.foldlM
        (fun count signer =>
          if signed signer then
            checkedU32 (count + 1) (Failure.contract .overflow)
          else
            return count)
        start = .ok count →
      count = start + signers.countP signed := by
  induction signers generalizing start with
  | nil => simp +contextual
  | cons signer rest ih =>
      intro counted
      rw [List.foldlM_cons] at counted
      obtain ⟨middle, first, remaining⟩ := Outcome.bind_eq_ok.mp counted
      have later := ih remaining
      split at first
      · rename_i present
        obtain ⟨_, rfl⟩ := checkedU32_eq_ok.mp first
        rw [later, List.countP_cons_of_pos present]
        omega
      · rename_i absent
        obtain rfl := Outcome.pure_eq_ok.mp first
        rw [later, List.countP_cons_of_neg absent]

/-- A walk that cannot overflow reaches its end. -/
theorem foldlM_countSigned_of_fits {signed : Address → Bool} {signers : List Address}
    {start : Nat} (fits : start + signers.length < 2 ^ 32) :
    signers.foldlM
        (fun count signer =>
          if signed signer then
            checkedU32 (count + 1) (Failure.contract .overflow)
          else
            return count)
        start = .ok (start + signers.countP signed) := by
  induction signers generalizing start with
  | nil => rfl
  | cons signer rest ih =>
      rw [List.length_cons] at fits
      rw [List.foldlM_cons]
      by_cases present : signed signer = true
      · have next := @ih (start + 1) (by omega)
        simp only [present, if_true]
        refine Outcome.bind_eq_ok.mpr ⟨start + 1, checkedU32_eq_ok.mpr ⟨by omega, rfl⟩, ?_⟩
        rw [next, List.countP_cons_of_pos present]
        congr 1
        omega
      · have next := @ih start (by omega)
        rw [if_neg present, List.countP_cons_of_neg present]
        exact Outcome.bind_eq_ok.mpr ⟨start, rfl, next⟩

theorem countActiveSignatures_eq {proposalId count : Nat}
    (counted : countActiveSignatures storage proposalId = .ok count) :
    count = storage.signerList.countP (storage.signature proposalId) := by
  simpa using foldlM_countSigned counted

theorem executeProposal_eq_ok {proposalId : Nat} :
    executeProposal env storage proposalId = .ok after ↔
      storage.pause.paused = false ∧
        ∃ proposal signatures, storage.proposal proposalId = some proposal ∧
          proposal.status = .pending ∧ ¬proposal.lapsed env.timestamp ∧
            countActiveSignatures storage proposalId = .ok signatures ∧
              storage.threshold ≤ signatures ∧ storage.executedOp proposal.opHash = false ∧
                after = { storage with
                  signatureCount :=
                    Function.update storage.signatureCount proposalId signatures
                  executedOp := Function.update storage.executedOp proposal.opHash true
                  proposal := Function.update storage.proposal proposalId
                    (some { proposal with status := .executed }) } := by
  have revalidated (signatures : Nat) :
      (if signatures ≠ storage.signatureCount proposalId then
        Function.update storage.signatureCount proposalId signatures
      else storage.signatureCount) =
        Function.update storage.signatureCount proposalId signatures := by
    split
    · rfl
    · rename_i same
      simp [not_not.mp same]
  simp [executeProposal, revalidated]

theorem rejectProposal_eq_ok {admin : Address} {proposalId : Nat} :
    rejectProposal env storage admin proposalId = .ok after ↔
      storage.pause.paused = false ∧ AdminCall env storage admin ∧
        ∃ proposal, storage.proposal proposalId = some proposal ∧
          proposal.status = .pending ∧
            after = { storage with
              proposal := Function.update storage.proposal proposalId
                (some { proposal with status := .rejected }) } := by
  simp [rejectProposal]

/-- A pruning touches nothing but proposals, signatures and their counts, and raises
no signature. -/
theorem pruneFrom_frame (storage : Storage) (now proposalId remaining : Nat) :
    ∃ proposal signature signatureCount,
      (pruneFrom now storage proposalId remaining).1 =
          { storage with proposal, signature, signatureCount } ∧
        ∀ id signer, signature id signer = true → storage.signature id signer = true := by
  induction remaining generalizing storage proposalId with
  | zero => exact ⟨_, _, _, rfl, fun _ _ given => given⟩
  | succ remaining ih =>
      unfold pruneFrom
      split
      · exact ⟨_, _, _, rfl, fun _ _ given => given⟩
      · split
        · rename_i dead found
          split
          · obtain ⟨proposal, signature, signatureCount, same, given⟩ :=
              ih (removeProposal storage proposalId dead) (proposalId + 1)
            refine ⟨proposal, signature, signatureCount, same, fun id signer raised => ?_⟩
            have kept := given id signer raised
            by_cases sameId : id = proposalId
            · subst sameId
              simp only [removeProposal, Function.update_self, Flags.foldl_lower] at kept
              exact kept.2
            · simpa [removeProposal, sameId] using kept
          · exact ih storage (proposalId + 1)
        · exact ih storage (proposalId + 1)

theorem pruneExpiredProposals_eq_ok {startId maxIter pruned : Nat} :
    pruneExpiredProposals env storage startId maxIter = .ok (after, pruned) ↔
      storage.pause.paused = false ∧
        (after, pruned) = pruneFrom env.timestamp storage startId
          (if maxIter = 0 then defaultMaxIter else min maxIter maxIterHardCap) := by
  simp [pruneExpiredProposals]

/-- A pruning leaves every other entry as it was, and raises no signature. -/
theorem pruneExpiredProposals_frame {startId maxIter : Nat}
    (pruned : Prod.fst <$> pruneExpiredProposals env storage startId maxIter = .ok after) :
    ∃ proposal signature signatureCount,
      after = { storage with proposal, signature, signatureCount } ∧
        ∀ id signer, signature id signer = true → storage.signature id signer = true := by
  obtain ⟨⟨_, count⟩, accepted, rfl⟩ := Outcome.map_eq_ok.mp pruned
  obtain ⟨_, result⟩ := pruneExpiredProposals_eq_ok.mp accepted
  have frame := pruneFrom_frame storage env.timestamp startId
    (if maxIter = 0 then defaultMaxIter else min maxIter maxIterHardCap)
  rwa [← result] at frame

section Signers

variable {label : Label}

/-- What is stored about the signers: their flags, list and count, and the threshold. -/
def signerEntries (storage : Storage) :
    (Address → Bool) × List Address × Option Nat × Nat :=
  (storage.signer, storage.signerList, storage.signerCount, storage.threshold)

/-- What a step does to the signers. -/
inductive SignersChange (storage : Storage) (label : Label) (after : Storage) : Prop where
  | kept (same : signerEntries after = signerEntries storage)
  | initialized (admin : Address) (signers : List Address) (threshold : Nat)
      (called : label.call = .initializeMultisig admin signers threshold)
      (done : initializeMultisig label.env storage admin signers threshold = .ok after)
  | added (admin signer : Address)
      (done : addSigner label.env storage admin signer = .ok after)
  | removed (admin signer : Address)
      (done : removeSigner label.env storage admin signer = .ok after)
  | thresholdSet (admin : Address) (threshold : Nat)
      (done : setThreshold label.env storage admin threshold = .ok after)

/-- Proposals, signatures and the pause module do not touch the signers. -/
theorem signers_of_step (stepped : Step storage label after) :
    SignersChange storage label after := by
  obtain ⟨env, call⟩ := label
  cases call with
  | initializeMultisig admin signers threshold =>
      exact .initialized admin signers threshold rfl stepped
  | addSigner admin signer => exact .added admin signer stepped
  | removeSigner admin signer => exact .removed admin signer stepped
  | setThreshold admin threshold => exact .thresholdSet admin threshold stepped
  | submitProposal proposer submission =>
      obtain ⟨⟨_, id⟩, submitted, rfl⟩ := Outcome.map_eq_ok.mp stepped
      obtain ⟨_, _, _, _, _, _, rfl⟩ := submitProposal_eq_ok.mp submitted
      exact .kept rfl
  | signProposal signer proposalId =>
      obtain ⟨_, _, _, _, _, _, _, _, _, rfl⟩ := signProposal_eq_ok.mp stepped
      exact .kept rfl
  | executeProposal proposalId =>
      obtain ⟨_, _, _, _, _, _, _, _, _, rfl⟩ := executeProposal_eq_ok.mp stepped
      exact .kept rfl
  | rejectProposal admin proposalId =>
      obtain ⟨_, _, _, _, _, rfl⟩ := rejectProposal_eq_ok.mp stepped
      exact .kept rfl
  | pruneExpiredProposals startId maxIter =>
      obtain ⟨_, _, _, rfl, _⟩ := pruneExpiredProposals_frame stepped
      exact .kept rfl
  | pausable call =>
      simp only [Step, invoke, Outcome.bind_eq_ok, Outcome.pure_eq_ok] at stepped
      obtain ⟨pause, _, rfl⟩ := stepped
      exact .kept rfl

end Signers

end Multisig
