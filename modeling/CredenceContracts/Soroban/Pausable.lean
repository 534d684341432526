import CredenceContracts.Library.MachineInt
import CredenceContracts.Soroban.Host
import Mathlib.Logic.Function.Basic

/-!
# The pause module

The pause module that the treasury and the multisig carry: an admin maintains
a set of pause signers with a threshold, and once the threshold is positive the
signers pause and unpause by proposal.  The admin is the carrying contract's own
and is read, never written, here.  Published events are not recorded.
-/

namespace Pausable

open Soroban MachineInt
open Outcome (rejectIf unwrapOr)

/-- The two actions a pause proposal can carry. -/
inductive PauseAction where
  | pause
  | unpause
  deriving DecidableEq, Repr

/-- The number an action is stored under. -/
def PauseAction.code : PauseAction → Nat
  | .pause => 1
  | .unpause => 2

/-- The entries of the pause module. -/
structure Storage where
  paused : Bool
  pauseSigner : Address → Bool
  pauseSignerCount : Nat
  pauseThreshold : Nat
  pauseProposalCounter : Nat
  pauseProposal : Nat → Option Nat
  pauseApproval : Nat → Address → Bool
  pauseApprovalCount : Nat → Nat

/-- The entries before anything was stored: every read yields its default. -/
def Storage.deployed : Storage where
  paused := false
  pauseSigner := fun _ => false
  pauseSignerCount := 0
  pauseThreshold := 0
  pauseProposalCounter := 0
  pauseProposal := fun _ => none
  pauseApproval := fun _ _ => false
  pauseApprovalCount := fun _ => 0

/-- The entries that a contract's initialisation resets; the rest are kept. -/
def Storage.reset (storage : Storage) : Storage :=
  { storage with
    paused := false
    pauseSignerCount := 0
    pauseThreshold := 0
    pauseProposalCounter := 0 }

def requireAdminAuth (env : Env) (storedAdmin : Option Address) (admin : Address) :
    Outcome Unit := do
  let stored ← unwrapOr storedAdmin (.contract .notInitialized)
  rejectIf (stored ≠ admin) (.contract .notAdmin)
  requireAuth env admin

def requireNotPaused (storage : Storage) : Outcome Unit :=
  rejectIf (storage.paused = true) (.contract .contractPaused)

def setPauseSigner (env : Env) (storedAdmin : Option Address) (storage : Storage)
    (admin signer : Address) (enabled : Bool) : Outcome Storage := do
  requireAdminAuth env storedAdmin admin
  let existing := storage.pauseSigner signer
  if enabled then
    if existing then
      return storage
    else
      return { storage with
        pauseSigner := Function.update storage.pauseSigner signer true
        pauseSignerCount := min (storage.pauseSignerCount + 1) (2 ^ 32 - 1) }
  else if existing then
    let newCount := storage.pauseSignerCount - 1
    return { storage with
      pauseSigner := Function.update storage.pauseSigner signer false
      pauseSignerCount := newCount
      pauseThreshold :=
        if storage.pauseThreshold > newCount then newCount else storage.pauseThreshold }
  else
    return storage

def setPauseThreshold (env : Env) (storedAdmin : Option Address) (storage : Storage)
    (admin : Address) (threshold : Nat) : Outcome Storage := do
  requireAdminAuth env storedAdmin admin
  rejectIf (threshold > storage.pauseSignerCount) (.contract .thresholdExceedsSigners)
  return { storage with pauseThreshold := threshold }

def requirePauseSigner (env : Env) (storage : Storage) (signer : Address) :
    Outcome Unit := do
  requireAuth env signer
  rejectIf (storage.pauseSigner signer = false) (.contract .notSigner)

/-- Take the next proposal id and advance the counter. -/
def nextProposalId (storage : Storage) : Outcome (Nat × Storage) := do
  let id := storage.pauseProposalCounter
  let next ← checkedU64 (id + 1) (.contract .overflow)
  return (id, { storage with pauseProposalCounter := next })

def recordApproval (storage : Storage) (proposalId : Nat) (signer : Address) :
    Outcome Storage :=
  if storage.pauseApproval proposalId signer then
    return storage
  else do
    let newCount ← checkedU32 (storage.pauseApprovalCount proposalId + 1)
      (.contract .overflow)
    return { storage with
      pauseApproval := Function.update storage.pauseApproval proposalId
        (Function.update (storage.pauseApproval proposalId) signer true)
      pauseApprovalCount := Function.update storage.pauseApprovalCount proposalId newCount }

def proposeAction (env : Env) (storage : Storage) (caller : Address)
    (action : PauseAction) : Outcome (Storage × Option Nat) := do
  requirePauseSigner env storage caller
  let (id, counted) ← nextProposalId storage
  let proposed : Storage := { counted with
    pauseProposal := Function.update counted.pauseProposal id (some action.code)
    pauseApprovalCount := Function.update counted.pauseApprovalCount id 0 }
  let approved ← recordApproval proposed id caller
  return (approved, some id)

def pause (env : Env) (storedAdmin : Option Address) (storage : Storage)
    (caller : Address) : Outcome (Storage × Option Nat) :=
  if storage.pauseThreshold = 0 then do
    requireAdminAuth env storedAdmin caller
    return ({ storage with paused := true }, none)
  else
    proposeAction env storage caller .pause

def unpause (env : Env) (storedAdmin : Option Address) (storage : Storage)
    (caller : Address) : Outcome (Storage × Option Nat) :=
  if storage.pauseThreshold = 0 then do
    requireAdminAuth env storedAdmin caller
    return ({ storage with paused := false }, none)
  else
    proposeAction env storage caller .unpause

def approvePauseProposal (env : Env) (storage : Storage) (signer : Address)
    (proposalId : Nat) : Outcome Storage := do
  requirePauseSigner env storage signer
  let _action ← unwrapOr (storage.pauseProposal proposalId) (.contract .proposalNotFound)
  recordApproval storage proposalId signer

def executePauseProposal (storage : Storage) (proposalId : Nat) : Outcome Storage := do
  let action ← unwrapOr (storage.pauseProposal proposalId) (.contract .proposalNotFound)
  rejectIf (storage.pauseApprovalCount proposalId < storage.pauseThreshold)
    (.contract .insufficientApprovals)
  let acted : Storage ← match action with
    | 1 => .ok { storage with paused := true }
    | 2 => .ok { storage with paused := false }
    | _ => .error (.contract .invalidPauseAction)
  return { acted with pauseProposal := Function.update acted.pauseProposal proposalId none }

/-- The calls of the pause module. -/
inductive Call where
  | pause (caller : Address)
  | unpause (caller : Address)
  | setPauseSigner (admin signer : Address) (enabled : Bool)
  | setPauseThreshold (admin : Address) (threshold : Nat)
  | approvePauseProposal (signer : Address) (proposalId : Nat)
  | executePauseProposal (proposalId : Nat)

/-- The entries after a call of the pause module. -/
def invoke (env : Env) (storedAdmin : Option Address) (storage : Storage) :
    Call → Outcome Storage
  | .pause caller => Prod.fst <$> pause env storedAdmin storage caller
  | .unpause caller => Prod.fst <$> unpause env storedAdmin storage caller
  | .setPauseSigner admin signer enabled =>
      setPauseSigner env storedAdmin storage admin signer enabled
  | .setPauseThreshold admin threshold =>
      setPauseThreshold env storedAdmin storage admin threshold
  | .approvePauseProposal signer proposalId =>
      approvePauseProposal env storage signer proposalId
  | .executePauseProposal proposalId => executePauseProposal storage proposalId

@[simp] theorem requireNotPaused_eq_ok {storage : Storage} {result : Unit} :
    requireNotPaused storage = .ok result ↔ storage.paused = false := by
  simp [requireNotPaused]

end Pausable
