import CredenceContracts.Soroban.Pausable

/-!
# The pause module of the delegation contract

The delegation contract carries the pause module with changes of its own: a
proposal's id is derived from its action and the epoch, a threshold of zero is
kept away while there are signers, and the admin may always unpause.  What it
shares with the other pause module is taken from there.
-/

namespace Delegations

open Soroban MachineInt
open Outcome (rejectIf unwrapOr)
open Pausable (Storage PauseAction requireAdminAuth requirePauseSigner recordApproval)

def proposalEpochSize : Nat :=
  100

/-- Four bytes, most significant first. -/
def bigEndian32 (value : Nat) : Bytes :=
  [.ofNat (value / 2 ^ 24), .ofNat (value / 2 ^ 16), .ofNat (value / 2 ^ 8), .ofNat value]

/-- The number that eight bytes stand for, most significant first. -/
def fromBigEndian64 (hash : BytesN 32) : Nat :=
  (hash.toList.take 8).foldl (fun value byte => value * 256 + byte.toNat) 0

section Proposals

variable (sha256 : Bytes → BytesN 32) (env : Env) (storedAdmin : Option Address)
variable (storage : Storage)

/-- The id of an action proposed in the current epoch. -/
def deriveProposalId (action : PauseAction) : Nat :=
  let epoch := env.sequence / proposalEpochSize
  fromBigEndian64 (sha256 (bigEndian32 action.code ++ bigEndian32 epoch))

def setPauseSigner (admin signer : Address) (enabled : Bool) : Outcome Storage := do
  requireAdminAuth env storedAdmin admin
  let existing := storage.pauseSigner signer
  if enabled then
    if existing then
      return storage
    else
      return { storage with
        pauseSigner := Function.update storage.pauseSigner signer true
        pauseSignerCount := min (storage.pauseSignerCount + 1) (2 ^ 32 - 1)
        pauseThreshold := if storage.pauseThreshold = 0 then 1 else storage.pauseThreshold }
  else if existing then
    let newCount := storage.pauseSignerCount - 1
    return { storage with
      pauseSigner := Function.update storage.pauseSigner signer false
      pauseSignerCount := newCount
      pauseThreshold :=
        if storage.pauseThreshold > newCount then newCount else storage.pauseThreshold }
  else
    return storage

def setPauseThreshold (admin : Address) (threshold : Nat) : Outcome Storage := do
  requireAdminAuth env storedAdmin admin
  rejectIf (threshold > storage.pauseSignerCount) (.contract .thresholdExceedsSigners)
  rejectIf (threshold = 0 ∧ storage.pauseSignerCount > 0) (.contract .invalidPauseAction)
  return { storage with pauseThreshold := threshold }

/-- Propose an action, or join the proposal of it that this epoch already has. -/
def proposeAction (caller : Address) (action : PauseAction) :
    Outcome (Storage × Option Nat) := do
  requirePauseSigner env storage caller
  let id := deriveProposalId sha256 env action
  let proposed : Storage :=
    if (storage.pauseProposal id).isSome then
      storage
    else
      { storage with
        pauseProposal := Function.update storage.pauseProposal id (some action.code)
        pauseApprovalCount := Function.update storage.pauseApprovalCount id 0 }
  let approved ← recordApproval proposed id caller
  return (approved, some id)

def pause (caller : Address) : Outcome (Storage × Option Nat) :=
  if storage.pauseThreshold = 0 then do
    requireAdminAuth env storedAdmin caller
    return ({ storage with paused := true }, none)
  else
    proposeAction sha256 env storage caller .pause

/-- Unpause, at once for the admin and by proposal for a pause signer. -/
def unpause (caller : Address) : Outcome (Storage × Option Nat) :=
  if storage.pauseThreshold = 0 then do
    requireAdminAuth env storedAdmin caller
    return ({ storage with paused := false }, none)
  else do
    let admin ← unwrapOr storedAdmin (.contract .notInitialized)
    if caller = admin then do
      requireAuth env caller
      return ({ storage with paused := false }, none)
    else
      proposeAction sha256 env storage caller .unpause

/-- Execute a proposal and forget it with its count; the approvals are kept. -/
def executePauseProposal (proposalId : Nat) : Outcome Storage := do
  let executed ← Pausable.executePauseProposal storage proposalId
  return { executed with
    pauseApprovalCount := Function.update executed.pauseApprovalCount proposalId 0 }

/-- The entries after a call of the pause module. -/
def invokePausable : Pausable.Call → Outcome Storage
  | .pause caller => Prod.fst <$> pause sha256 env storedAdmin storage caller
  | .unpause caller => Prod.fst <$> unpause sha256 env storedAdmin storage caller
  | .setPauseSigner admin signer enabled =>
      setPauseSigner env storedAdmin storage admin signer enabled
  | .setPauseThreshold admin threshold =>
      setPauseThreshold env storedAdmin storage admin threshold
  | .approvePauseProposal signer proposalId =>
      Pausable.approvePauseProposal env storage signer proposalId
  | .executePauseProposal proposalId => executePauseProposal storage proposalId

end Proposals

end Delegations
