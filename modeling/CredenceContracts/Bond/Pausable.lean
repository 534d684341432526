import CredenceContracts.Soroban.Pausable

/-!
# The pause module of the bond contract

The bond contract carries the pause module with failures of its own; its entries, actions
and calls are those of the shared one.
-/

namespace BondPausable

open Soroban MachineInt
open Outcome (rejectIf unwrapOr)
open Pausable (Storage PauseAction)

variable (env : Env) (storedAdmin : Option Address) (storage : Storage)

def requireAdminAuth (admin : Address) : Outcome Unit := do
  let stored ← unwrapOr storedAdmin (.panicked "not initialized")
  rejectIf (stored ≠ admin) (.panicked "not admin")
  requireAuth env admin

def isPaused : Bool :=
  storage.paused

def setPauseSigner (admin signer : Address) (enabled : Bool) : Outcome Storage := do
  requireAdminAuth env storedAdmin admin
  let oldEnabled := storage.pauseSigner signer
  if enabled then
    if oldEnabled then
      return storage
    else
      return { storage with
        pauseSigner := Function.update storage.pauseSigner signer true
        pauseSignerCount := saturatingU32 (storage.pauseSignerCount + 1) }
  else if oldEnabled then
    let newCount := storage.pauseSignerCount - 1
    return { storage with
      pauseSigner := Function.update storage.pauseSigner signer false
      pauseSignerCount := newCount
      pauseThreshold :=
        if storage.pauseThreshold > newCount then newCount else storage.pauseThreshold }
  else
    return storage

def setPauseThreshold (admin : Address) (threshold : Nat) : Outcome Storage := do
  requireAdminAuth env storedAdmin admin
  rejectIf (threshold > storage.pauseSignerCount)
    (.panicked "threshold cannot exceed signer count")
  return { storage with pauseThreshold := threshold }

def requirePauseSigner (signer : Address) : Outcome Unit := do
  requireAuth env signer
  rejectIf (storage.pauseSigner signer = false) (.panicked "not pause signer")

/-- Take the next proposal id and advance the counter. -/
def nextProposalId : Outcome (Nat × Storage) := do
  let id := storage.pauseProposalCounter
  let next ← checkedU64 (id + 1) (.panicked "pause proposal counter overflow")
  return (id, { storage with pauseProposalCounter := next })

def recordApproval (proposalId : Nat) (signer : Address) : Outcome Storage :=
  if storage.pauseApproval proposalId signer then
    return storage
  else do
    let newCount ← checkedU32 (storage.pauseApprovalCount proposalId + 1)
      (.panicked "pause approval count overflow")
    return { storage with
      pauseApproval := Function.update storage.pauseApproval proposalId
        (Function.update (storage.pauseApproval proposalId) signer true)
      pauseApprovalCount := Function.update storage.pauseApprovalCount proposalId newCount }

def proposeAction (caller : Address) (action : PauseAction) :
    Outcome (Storage × Option Nat) := do
  requirePauseSigner env storage caller
  let (id, counted) ← nextProposalId storage
  let proposed : Storage := { counted with
    pauseProposal := Function.update counted.pauseProposal id (some action.code)
    pauseApprovalCount := Function.update counted.pauseApprovalCount id 0 }
  let approved ← recordApproval proposed id caller
  return (approved, some id)

def pause (caller : Address) : Outcome (Storage × Option Nat) :=
  if storage.pauseThreshold = 0 then do
    requireAdminAuth env storedAdmin caller
    return ({ storage with paused := true }, none)
  else
    proposeAction env storage caller .pause

def unpause (caller : Address) : Outcome (Storage × Option Nat) :=
  if storage.pauseThreshold = 0 then do
    requireAdminAuth env storedAdmin caller
    return ({ storage with paused := false }, none)
  else
    proposeAction env storage caller .unpause

def approvePauseProposal (signer : Address) (proposalId : Nat) : Outcome Storage := do
  requirePauseSigner env storage signer
  let _action ← unwrapOr (storage.pauseProposal proposalId) (.panicked "proposal not found")
  recordApproval storage proposalId signer

def executePauseProposal (proposalId : Nat) : Outcome Storage := do
  let action ← unwrapOr (storage.pauseProposal proposalId) (.panicked "proposal not found")
  rejectIf (storage.pauseApprovalCount proposalId < storage.pauseThreshold)
    (.panicked "insufficient approvals to execute")
  let acted : Storage ← match action with
    | 1 => .ok { storage with paused := true }
    | 2 => .ok { storage with paused := false }
    | _ => .error (.panicked "invalid pause action")
  return { acted with pauseProposal := Function.update acted.pauseProposal proposalId none }

/-- The entries after a call of the pause module. -/
def invoke : Pausable.Call → Outcome Storage
  | .pause caller => Prod.fst <$> pause env storedAdmin storage caller
  | .unpause caller => Prod.fst <$> unpause env storedAdmin storage caller
  | .setPauseSigner admin signer enabled =>
      setPauseSigner env storedAdmin storage admin signer enabled
  | .setPauseThreshold admin threshold =>
      setPauseThreshold env storedAdmin storage admin threshold
  | .approvePauseProposal signer proposalId =>
      approvePauseProposal env storage signer proposalId
  | .executePauseProposal proposalId => executePauseProposal storage proposalId

end BondPausable
