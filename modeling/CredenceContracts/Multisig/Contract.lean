import CredenceContracts.Library.Run
import CredenceContracts.Soroban.Pausable

/-!
# The multi-signature contract

Signers submit proposals and sign them; a proposal executes once the signatures
of the listed signers reach the threshold, and each operation hash executes
once.  Every entry point that writes is here, in the order of its own checks;
published events are not recorded.
-/

namespace Multisig

open Soroban MachineInt
open Outcome (rejectIf unwrapOr)

/-- Type of action that can be proposed and executed. -/
inductive ActionType where
  | contractCall
  | transfer
  | configChange
  | signerManagement
  | custom
  deriving DecidableEq, Repr

inductive ProposalStatus where
  | pending
  | executed
  | rejected
  | expired
  deriving DecidableEq, Repr

/-- What a signer submits. -/
structure Submission where
  actionType : ActionType
  target : Option Address
  functionName : Option String
  arguments : Option Bytes
  description : String
  /-- Zero means no expiration. -/
  expiresAt : Nat
  metadata : Option String
  opHash : BytesN 32

/-- A stored proposal. -/
structure Proposal extends Submission where
  id : Nat
  proposedAt : Nat
  proposer : Address
  status : ProposalStatus

/-- The stored entries. -/
structure Storage where
  admin : Option Address
  signer : Address → Bool
  /-- Optional because its reads differ in their defaults. -/
  signerCount : Option Nat
  threshold : Nat
  proposalCounter : Nat
  proposal : Nat → Option Proposal
  signature : Nat → Address → Bool
  signatureCount : Nat → Nat
  signerList : List Address
  pause : Pausable.Storage
  executedOp : BytesN 32 → Bool

/-- A contract in which nothing was stored yet. -/
def Storage.deployed : Storage where
  admin := none
  signer := fun _ => false
  signerCount := none
  threshold := 0
  proposalCounter := 0
  proposal := fun _ => none
  signature := fun _ _ => false
  signatureCount := fun _ => 0
  signerList := []
  pause := .deployed
  executedOp := fun _ => false

/-- Hard cap on the proposals one pruning scans. -/
def maxIterHardCap : Nat :=
  200

/-- Default page size for pruning. -/
def defaultMaxIter : Nat :=
  50

section Signers

variable (env : Env) (storage : Storage)

/-- Set the admin, the signers and the threshold.  Nothing stops a second call:
it resets the proposal counter and keeps proposals and signatures. -/
def initializeMultisig (admin : Address) (signers : List Address) (threshold : Nat) :
    Outcome Storage := do
  requireAuth env admin
  rejectIf (signers = []) (.contract .thresholdExceedsSigners)
  rejectIf (threshold = 0 ∨ threshold > signers.length) (.contract .thresholdExceedsSigners)
  return { storage with
    admin := some admin
    pause := storage.pause.reset
    signerCount := some signers.length
    threshold
    proposalCounter := 0
    signerList := signers
    signer := signers.foldl (fun flags signer => Function.update flags signer true)
      storage.signer }

def requireAdmin (admin : Address) : Outcome Unit := do
  requireAuth env admin
  let storedAdmin ← unwrapOr storage.admin (.contract .notInitialized)
  rejectIf (storedAdmin ≠ admin) (.contract .notAdmin)

def requireSigner (signer : Address) : Outcome Unit :=
  rejectIf (storage.signer signer = false) (.contract .notSigner)

def addSigner (admin signer : Address) : Outcome Storage := do
  Pausable.requireNotPaused storage.pause
  requireAdmin env storage admin
  rejectIf (storage.signer signer = true) (.contract .alreadyActive)
  let newCount ← checkedU32 (storage.signerCount.getD 0 + 1) (.contract .overflow)
  return { storage with
    signer := Function.update storage.signer signer true
    signerCount := some newCount
    signerList := storage.signerList ++ [signer] }

/-- Remove a signer and cap the threshold; the signatures it gave are kept. -/
def removeSigner (admin signer : Address) : Outcome Storage := do
  Pausable.requireNotPaused storage.pause
  requireAdmin env storage admin
  rejectIf (storage.signer signer = false) (.contract .notSigner)
  let count := storage.signerCount.getD 1
  rejectIf (count ≤ 1) (.contract .invalidPauseAction)
  let newCount := count - 1
  return { storage with
    signer := Function.update storage.signer signer false
    signerCount := some newCount
    signerList := storage.signerList.filter fun other => other ≠ signer
    threshold := if storage.threshold > newCount then newCount else storage.threshold }

def setThreshold (admin : Address) (threshold : Nat) : Outcome Storage := do
  Pausable.requireNotPaused storage.pause
  requireAdmin env storage admin
  rejectIf (threshold = 0 ∨ threshold > storage.signerCount.getD 0)
    (.contract .thresholdExceedsSigners)
  return { storage with threshold }

end Signers

section Proposals

variable (env : Env) (storage : Storage)

/-- Submit a proposal under the next id. -/
def submitProposal (proposer : Address) (submission : Submission) :
    Outcome (Storage × Nat) := do
  Pausable.requireNotPaused storage.pause
  requireAuth env proposer
  requireSigner storage proposer
  rejectIf (submission.description.length = 0) (.contract .invalidPauseAction)
  let id := storage.proposalCounter
  let nextId ← checkedU64 (id + 1) (.contract .overflow)
  let proposal : Proposal := { submission with
    id
    proposedAt := env.timestamp
    proposer
    status := .pending }
  return ({ storage with
    proposalCounter := nextId
    proposal := Function.update storage.proposal id (some proposal)
    signatureCount := Function.update storage.signatureCount id 0 }, id)

/-- The proposal has an expiration that has come. -/
def Proposal.lapsed (proposal : Proposal) (now : Nat) : Prop :=
  proposal.expiresAt > 0 ∧ now ≥ proposal.expiresAt

instance (proposal : Proposal) (now : Nat) : Decidable (proposal.lapsed now) := by
  unfold Proposal.lapsed
  infer_instance

def signProposal (signer : Address) (proposalId : Nat) : Outcome Storage := do
  Pausable.requireNotPaused storage.pause
  requireAuth env signer
  requireSigner storage signer
  let proposal ← unwrapOr (storage.proposal proposalId) (.contract .proposalNotFound)
  rejectIf (proposal.status ≠ .pending) (.contract .proposalAlreadyExecuted)
  rejectIf (proposal.lapsed env.timestamp) (.contract .proposalAlreadyExecuted)
  rejectIf (storage.signature proposalId signer = true) (.contract .alreadyActive)
  let newCount ← checkedU32 (storage.signatureCount proposalId + 1) (.contract .overflow)
  return { storage with
    signature := Function.update storage.signature proposalId
      (Function.update (storage.signature proposalId) signer true)
    signatureCount := Function.update storage.signatureCount proposalId newCount }

/-- Walk the signer list and count the entries whose signature is stored. -/
def countActiveSignatures (proposalId : Nat) : Outcome Nat :=
  storage.signerList.foldlM
    (fun count signer =>
      if storage.signature proposalId signer then
        checkedU32 (count + 1) (.contract .overflow)
      else
        return count)
    0

/-- Execute a proposal; anyone may call it.  An expired proposal would be marked
so before the call fails, and the failure undoes the mark. -/
def executeProposal (proposalId : Nat) : Outcome Storage := do
  Pausable.requireNotPaused storage.pause
  let proposal ← unwrapOr (storage.proposal proposalId) (.contract .proposalNotFound)
  rejectIf (proposal.status ≠ .pending) (.contract .proposalAlreadyExecuted)
  rejectIf (proposal.lapsed env.timestamp) (.contract .proposalAlreadyExecuted)
  let effectiveSignatures ← countActiveSignatures storage proposalId
  let revalidated : Storage := { storage with
    signatureCount :=
      if effectiveSignatures ≠ storage.signatureCount proposalId then
        Function.update storage.signatureCount proposalId effectiveSignatures
      else
        storage.signatureCount }
  rejectIf (effectiveSignatures < revalidated.threshold) (.contract .insufficientApprovals)
  rejectIf (revalidated.executedOp proposal.opHash = true)
    (.contract .proposalAlreadyExecuted)
  let executed : Proposal := { proposal with status := .executed }
  return { revalidated with
    executedOp := Function.update revalidated.executedOp proposal.opHash true
    proposal := Function.update revalidated.proposal proposalId (some executed) }

def rejectProposal (admin : Address) (proposalId : Nat) : Outcome Storage := do
  Pausable.requireNotPaused storage.pause
  requireAdmin env storage admin
  let proposal ← unwrapOr (storage.proposal proposalId) (.contract .proposalNotFound)
  rejectIf (proposal.status ≠ .pending) (.contract .proposalAlreadyExecuted)
  let rejected : Proposal := { proposal with status := .rejected }
  return { storage with
    proposal := Function.update storage.proposal proposalId (some rejected) }

end Proposals

section Pruning

/-- The proposal is dead: marked expired, or unexecuted and past its expiration. -/
def Proposal.isExpired (proposal : Proposal) (now : Nat) : Prop :=
  proposal.status = .expired ∨ proposal.status ≠ .executed ∧ proposal.lapsed now

instance (proposal : Proposal) (now : Nat) : Decidable (proposal.isExpired now) := by
  unfold Proposal.isExpired
  infer_instance

/-- Remove a proposal with its count and with the signatures of its proposer and
of the listed signers. -/
def removeProposal (storage : Storage) (proposalId : Nat) (proposal : Proposal) : Storage :=
  let cleared := (storage.signerList ++ [proposal.proposer]).foldl
    (fun flags signer => Function.update flags signer false) (storage.signature proposalId)
  { storage with
    proposal := Function.update storage.proposal proposalId none
    signature := Function.update storage.signature proposalId cleared
    signatureCount := Function.update storage.signatureCount proposalId 0 }

/-- Scan so many ids from one on, stopping where ids end. -/
def pruneFrom (now : Nat) (storage : Storage) (proposalId : Nat) :
    Nat → Storage × Nat
  | 0 => (storage, 0)
  | remaining + 1 =>
      if proposalId ≥ 2 ^ 64 then
        (storage, 0)
      else
        match storage.proposal proposalId with
        | some proposal =>
            if proposal.isExpired now then
              let (rest, pruned) := pruneFrom now (removeProposal storage proposalId proposal)
                (proposalId + 1) remaining
              (rest, pruned + 1)
            else
              pruneFrom now storage (proposalId + 1) remaining
        | none => pruneFrom now storage (proposalId + 1) remaining

/-- Prune expired proposals; anyone may call it.  Returns how many were pruned. -/
def pruneExpiredProposals (env : Env) (storage : Storage) (startId maxIter : Nat) :
    Outcome (Storage × Nat) := do
  Pausable.requireNotPaused storage.pause
  let effectiveMax := if maxIter = 0 then defaultMaxIter else min maxIter maxIterHardCap
  return pruneFrom env.timestamp storage startId effectiveMax

end Pruning

section Queries

/-- Check if a deterministic operation hash has already been executed. -/
def isOperationExecuted (storage : Storage) (opHash : BytesN 32) : Bool :=
  storage.executedOp opHash

def getSignerCount (storage : Storage) : Nat :=
  storage.signerCount.getD 0

end Queries

/-- The entry points that write. -/
inductive Call where
  | initializeMultisig (admin : Address) (signers : List Address) (threshold : Nat)
  | addSigner (admin signer : Address)
  | removeSigner (admin signer : Address)
  | setThreshold (admin : Address) (threshold : Nat)
  | submitProposal (proposer : Address) (submission : Submission)
  | signProposal (signer : Address) (proposalId : Nat)
  | executeProposal (proposalId : Nat)
  | rejectProposal (admin : Address) (proposalId : Nat)
  | pruneExpiredProposals (startId maxIter : Nat)
  | pausable (call : Pausable.Call)

/-- The entries after an entry point. -/
def invoke (env : Env) (storage : Storage) : Call → Outcome Storage
  | .initializeMultisig admin signers threshold =>
      initializeMultisig env storage admin signers threshold
  | .addSigner admin signer => addSigner env storage admin signer
  | .removeSigner admin signer => removeSigner env storage admin signer
  | .setThreshold admin threshold => setThreshold env storage admin threshold
  | .submitProposal proposer submission =>
      Prod.fst <$> submitProposal env storage proposer submission
  | .signProposal signer proposalId => signProposal env storage signer proposalId
  | .executeProposal proposalId => executeProposal env storage proposalId
  | .rejectProposal admin proposalId => rejectProposal env storage admin proposalId
  | .pruneExpiredProposals startId maxIter =>
      Prod.fst <$> pruneExpiredProposals env storage startId maxIter
  | .pausable call => do
      let pause ← Pausable.invoke env storage.admin storage.pause call
      return { storage with pause }

/-- One call and the environment it is made in. -/
structure Label where
  env : Env
  call : Call

/-- The successful steps; a failing call has no effect and is no step. -/
def Step (storage : Storage) (label : Label) (after : Storage) : Prop :=
  invoke label.env storage label.call = .ok after

/-- The entries after a step, where there is one. -/
def next (storage : Storage) (label : Label) : Option Storage :=
  (invoke label.env storage label.call).toOption

theorem step_of_next {storage after : Storage} {label : Label}
    (followed : next storage label = some after) : Step storage label after :=
  Outcome.toOption_eq_some.mp followed

end Multisig
