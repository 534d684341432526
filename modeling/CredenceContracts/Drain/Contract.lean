import CredenceContracts.Bond.Pausable
import CredenceContracts.Bond.SafeToken
import CredenceContracts.Library.Run

/-!
# The emergency drain

While the contract is paused a drain to the treasury can be scheduled, and executed once
its delay has passed.  There is one pending schedule at most, and every drain leaves a
record under the next number.  Callers check the admin and read the treasury from the
configuration; the published events are left out.
-/

namespace EmergencyDrain

open Soroban MachineInt
open Outcome (rejectIf unwrapOr)
open SafeToken (safeTransfer)

/-- Minimum delay between scheduling and executing a drain, in seconds. -/
def drainTimelockSeconds : Nat :=
  86400

/-- Audit record of an executed drain. -/
structure DrainRecord where
  id : Nat
  amount : Int
  recipient : Address
  admin : Address
  timestamp : Nat
  /-- The time that was stored when the drain was scheduled. -/
  scheduledEta : Nat
  deriving DecidableEq, Repr

/-- The stored entries. -/
structure Storage where
  admin : Option Address
  bondToken : Option Address
  pause : Pausable.Storage
  drainEta : Option Nat
  drainSeq : Nat
  drainRecord : Nat → Option DrainRecord

/-- The entries of a contract that has an admin and a token and was never drained. -/
def Storage.configured (admin bondToken : Address) : Storage where
  admin := some admin
  bondToken := some bondToken
  pause := .deployed
  drainEta := none
  drainSeq := 0
  drainRecord := fun _ => none

/-- The entries together with the token ledger. -/
structure State (Ledger : Type) where
  storage : Storage
  ledger : Ledger

section Drains

variable (env : Env)

/-- Schedule a drain, in place of the one that may be pending. -/
def scheduleDrain (storage : Storage) (delay : Nat) : Outcome Storage := do
  rejectIf (BondPausable.isPaused storage.pause = false) (.contract .emergencyDrainNotPermitted)
  rejectIf (delay < drainTimelockSeconds) (.contract .timelockNotReady)
  let eta ← checkedU64 (env.timestamp + delay) (.contract .overflow)
  return { storage with drainEta := some eta }

def cancelDrain (storage : Storage) : Storage :=
  { storage with drainEta := none }

def incrementDrainSeq (storage : Storage) : Outcome (Storage × Nat) := do
  let next ← checkedU64 (storage.drainSeq + 1) (.panicked "drain sequence overflow")
  return ({ storage with drainSeq := next }, next)

variable {Ledger : Type} (token : TokenInterface Ledger)

/-- Execute the pending drain, and return the number of its record. -/
def executeDrain (state : State Ledger) (admin : Address) (amount : Int)
    (recipient treasury : Address) : Outcome (State Ledger × Nat) := do
  let storage := state.storage
  rejectIf (BondPausable.isPaused storage.pause = false) (.contract .emergencyDrainNotPermitted)
  let eta ← unwrapOr storage.drainEta (.contract .emergencyDrainNotPermitted)
  rejectIf (env.timestamp < eta) (.contract .timelockNotReady)
  rejectIf (amount ≤ 0) (.panicked "amount must be positive")
  rejectIf (recipient ≠ treasury) (.panicked "recipient must be treasury")
  let ledger ← safeTransfer token env storage.bondToken state.ledger recipient amount
  let (counted, drainId) ← incrementDrainSeq { storage with drainEta := none }
  let record : DrainRecord := {
    id := drainId
    amount
    recipient
    admin
    timestamp := env.timestamp
    scheduledEta := eta }
  let recorded : Storage := { counted with
    drainRecord := Function.update counted.drainRecord drainId (some record) }
  return ({ storage := recorded, ledger }, drainId)

end Drains

/-- The calls of the module, and those that pause and unpause the contract. -/
inductive Call where
  | scheduleDrain (delay : Nat)
  | cancelDrain
  | executeDrain (admin : Address) (amount : Int) (recipient treasury : Address)
  | pausable (call : Pausable.Call)

variable {Ledger : Type} (token : TokenInterface Ledger)

/-- The state after a call. -/
def invoke (env : Env) (state : State Ledger) : Call → Outcome (State Ledger)
  | .scheduleDrain delay => do
      let storage ← scheduleDrain env state.storage delay
      return { state with storage }
  | .cancelDrain => return { state with storage := cancelDrain state.storage }
  | .executeDrain admin amount recipient treasury =>
      Prod.fst <$> executeDrain env token state admin amount recipient treasury
  | .pausable call => do
      let pause ← BondPausable.invoke env state.storage.admin state.storage.pause call
      return { state with storage := { state.storage with pause } }

/-- What can happen next: a call of the contract, or anything at all on the token
ledger. -/
inductive Act (Ledger : Type) where
  | call (call : Call)
  | elsewhere (ledger : Ledger)

/-- One act and the environment it happens in. -/
structure Label (Ledger : Type) where
  env : Env
  act : Act Ledger

/-- The successful steps; a failing call has no effect and is no step. -/
inductive Step : State Ledger → Label Ledger → State Ledger → Prop where
  | call {env : Env} {state after : State Ledger} {call : Call} :
      invoke token env state call = .ok after → Step state ⟨env, .call call⟩ after
  | elsewhere {env : Env} {state : State Ledger} {ledger : Ledger} :
      Step state ⟨env, .elsewhere ledger⟩ { state with ledger }

/-- The state after a step, where there is one. -/
def next (state : State Ledger) (label : Label Ledger) : Option (State Ledger) :=
  match label.act with
  | .call call => (invoke token label.env state call).toOption
  | .elsewhere ledger => some { state with ledger }

theorem step_of_next {token : TokenInterface Ledger} {state after : State Ledger}
    {label : Label Ledger} (followed : next token state label = some after) :
    Step token state label after := by
  obtain ⟨env, act⟩ := label
  cases act with
  | call call => exact .call (Outcome.toOption_eq_some.mp followed)
  | elsewhere ledger =>
      obtain rfl : { state with ledger } = after := by simpa [next] using followed
      exact .elsewhere

end EmergencyDrain
