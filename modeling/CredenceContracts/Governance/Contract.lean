import CredenceContracts.Library.MachineInt
import CredenceContracts.Library.Run
import CredenceContracts.Soroban.Host
import Mathlib.Logic.Function.Basic

/-!
# Governance approval for slashing

Governors vote on slash proposals, each for itself or through a delegate.  Votes are
stored for whoever cast them and counted for each governor through the delegation that
stands at the moment of counting.  Published events are left out.
-/

namespace Governance

open Soroban MachineInt
open Outcome (rejectIf unwrapOr)

/-- Status of a slash proposal. -/
inductive ProposalStatus where
  | open
  | executed
  | rejected
  deriving DecidableEq, Repr

/-- A slash proposal. -/
structure SlashProposal where
  id : Nat
  amount : Int
  proposedBy : Address
  proposedAt : Nat
  status : ProposalStatus
  deriving DecidableEq, Repr

/-- The stored entries. -/
structure Storage where
  governanceNextProposalId : Nat
  governanceProposal : Nat → Option SlashProposal
  governanceVote : Nat → Address → Option Bool
  governanceDelegate : Address → Option Address
  governanceGovernors : Option (List Address)
  governanceQuorumBps : Option Nat
  governanceMinGovernors : Option Nat

/-- The entries before anything was stored. -/
def Storage.deployed : Storage where
  governanceNextProposalId := 0
  governanceProposal := fun _ => none
  governanceVote := fun _ _ => none
  governanceDelegate := fun _ => none
  governanceGovernors := none
  governanceQuorumBps := none
  governanceMinGovernors := none

def bpsDenominator : Nat :=
  10000

/-- Set governors and quorum; the caller must have checked the admin. -/
def initializeGovernance (storage : Storage) (governors : List Address)
    (quorumBps minGovernors : Nat) : Outcome Storage := do
  rejectIf (quorumBps > bpsDenominator) (.panicked "quorum_bps must be <= 10000")
  return { storage with
    governanceGovernors := some governors
    governanceQuorumBps := some quorumBps
    governanceMinGovernors := some minGovernors
    governanceNextProposalId := 0 }

def proposeSlash (env : Env) (storage : Storage) (proposer : Address) (amount : Int) :
    Outcome (Storage × Nat) := do
  rejectIf (amount ≤ 0) (.panicked "slash amount must be positive")
  let id := storage.governanceNextProposalId
  let nextId ← checkedU64 (id + 1) (.panicked "proposal id overflow")
  let proposal : SlashProposal := {
    id
    amount
    proposedBy := proposer
    proposedAt := env.timestamp
    status := .open }
  return ({ storage with
    governanceNextProposalId := nextId
    governanceProposal := Function.update storage.governanceProposal id (some proposal) }, id)

section Voting

variable (storage : Storage)

/-- Some governor has delegated to the address. -/
def isDelegateOfSome (governors : List Address) (voter : Address) : Bool :=
  governors.any fun governor => storage.governanceDelegate governor = some voter

/-- Record a vote of a governor or delegate, who votes once on a proposal. -/
def vote (voter : Address) (proposalId : Nat) (approve : Bool) : Outcome Storage := do
  let proposal ← unwrapOr (storage.governanceProposal proposalId)
    (.panicked "proposal not found")
  rejectIf (proposal.status ≠ .open) (.panicked "proposal not open for voting")
  let governors ← unwrapOr storage.governanceGovernors
    (.panicked "governance not initialized")
  let canVote := governors.contains voter || isDelegateOfSome storage governors voter
  rejectIf (canVote = false) (.panicked "not a governor or delegate")
  rejectIf ((storage.governanceVote proposalId voter).isSome) (.panicked "already voted")
  return { storage with
    governanceVote := Function.update storage.governanceVote proposalId
      (Function.update (storage.governanceVote proposalId) voter (some approve)) }

/-- Delegate the voting power of a governor, also after a vote was cast with it. -/
def delegate (env : Env) (governor delegatee : Address) : Outcome Storage := do
  requireAuth env governor
  let governors ← unwrapOr storage.governanceGovernors
    (.panicked "governance not initialized")
  rejectIf (governor ∉ governors) (.panicked "not a governor")
  return { storage with
    governanceDelegate := Function.update storage.governanceDelegate governor (some delegatee) }

/-- Whose vote counts for a governor: its delegate's, followed one level. -/
def effectiveVoter (governor : Address) : Address :=
  (storage.governanceDelegate governor).getD governor

def getGovernors : List Address :=
  storage.governanceGovernors.getD []

/-- Approving, rejecting and all votes on a proposal. -/
def countVotes (proposalId : Nat) : Nat × Nat × Nat :=
  (getGovernors storage).foldl
    (fun (approve, reject, voted) governor =>
      match storage.governanceVote proposalId (effectiveVoter storage governor) with
      | some true => (approve + 1, reject, voted + 1)
      | some false => (approve, reject + 1, voted + 1)
      | none => (approve, reject, voted))
    (0, 0, 0)

/-- Enough governors have voted and the majority of the votes approves. -/
def isApproved (proposalId : Nat) : Outcome Bool := do
  let total := (getGovernors storage).length
  if total = 0 then
    return false
  else
    let quorumBps := storage.governanceQuorumBps.getD 5100
    let minGovernors := storage.governanceMinGovernors.getD 1
    let (approve, _reject, voted) := countVotes storage proposalId
    let product ← checkedU32 (total * quorumBps) (.contract .overflow)
    let quorumThreshold := max (product / bpsDenominator) minGovernors
    let quorumOk := decide (voted ≥ quorumThreshold)
    let majorityApprove := decide (voted > 0) && decide (approve > voted / 2)
    return quorumOk && majorityApprove

/-- Close a proposal, as executed where it is approved. -/
def executeSlashIfApproved (proposalId : Nat) : Outcome (Storage × Bool) := do
  let proposal ← unwrapOr (storage.governanceProposal proposalId)
    (.panicked "proposal not found")
  rejectIf (proposal.status ≠ .open) (.panicked "proposal already closed")
  let approved ← isApproved storage proposalId
  let status : ProposalStatus := if approved then .executed else .rejected
  return ({ storage with
    governanceProposal := Function.update storage.governanceProposal proposalId
      (some { proposal with status }) }, approved)

end Voting

/-- The calls of the module. -/
inductive Call where
  | initializeGovernance (governors : List Address) (quorumBps minGovernors : Nat)
  | proposeSlash (proposer : Address) (amount : Int)
  | vote (voter : Address) (proposalId : Nat) (approve : Bool)
  | delegate (governor delegatee : Address)
  | executeSlashIfApproved (proposalId : Nat)

/-- The entries after a call. -/
def invoke (env : Env) (storage : Storage) : Call → Outcome Storage
  | .initializeGovernance governors quorumBps minGovernors =>
      initializeGovernance storage governors quorumBps minGovernors
  | .proposeSlash proposer amount => Prod.fst <$> proposeSlash env storage proposer amount
  | .vote voter proposalId approve => vote storage voter proposalId approve
  | .delegate governor delegatee => delegate storage env governor delegatee
  | .executeSlashIfApproved proposalId => Prod.fst <$> executeSlashIfApproved storage proposalId

/-- One call and the environment it is made in. -/
structure Label where
  env : Env
  call : Call

/-- The successful steps; a failing call has no effect and is no step. -/
def Step (storage : Storage) (label : Label) (after : Storage) : Prop :=
  invoke label.env storage label.call = .ok after

/-- The entries after a step, where there is one. -/
def next (storage : Storage) (label : Label) : Option Storage :=
  (invoke label.env storage label.call).toOption

theorem step_of_next {storage after : Storage} {label : Label}
    (followed : next storage label = some after) : Step storage label after :=
  Outcome.toOption_eq_some.mp followed

end Governance
