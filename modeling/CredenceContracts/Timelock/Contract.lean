import CredenceContracts.Library.MachineInt
import CredenceContracts.Library.Run
import CredenceContracts.Soroban.Host
import Mathlib.Logic.Function.Basic

/-!
# The timelock contract

The admin queues operations by their hash; from its eta on, and until its grace
period has passed, anyone may execute one.  Published events are not recorded.
-/

namespace Timelock

open Soroban MachineInt
open Outcome (rejectIf unwrapOr)

def minDelaySeconds : Nat :=
  86400

def isReady (eta now : Nat) : Bool :=
  now ≥ eta

/-- How long an operation stays executable after its eta: 24 hours. -/
def gracePeriod : Nat :=
  86400

inductive OperationStatus where
  | pending
  | executed
  | cancelled
  deriving DecidableEq, Repr

structure QueuedOperation where
  id : Nat
  opHash : BytesN 32
  eta : Nat
  expiresAt : Nat
  status : OperationStatus
  deriving DecidableEq

/-- The stored entries. -/
structure Storage where
  admin : Option Address
  operationCounter : Nat
  operation : Nat → Option QueuedOperation
  executedOp : BytesN 32 → Bool

/-- A contract in which nothing was stored yet. -/
def Storage.deployed : Storage where
  admin := none
  operationCounter := 0
  operation := fun _ => none
  executedOp := fun _ => false

section Calls

variable (env : Env) (storage : Storage)

/-- Set the admin, once; nobody has to authorise it. -/
def initializeTimelock (admin : Address) : Outcome Storage := do
  rejectIf (storage.admin.isSome = true) (.contract .alreadyInitialized)
  return { storage with admin := some admin, operationCounter := 0 }

/-- Queue a new administrative operation to be executed after the delay. -/
def queueOperation (proposer : Address) (opHash : BytesN 32) (delay : Nat) :
    Outcome (Storage × Nat) := do
  requireAuth env proposer
  let admin ← unwrapOr storage.admin (.contract .notInitialized)
  rejectIf (proposer ≠ admin) (.contract .notAdmin)
  rejectIf (delay < minDelaySeconds) (.contract .timelockNotReady)
  rejectIf (storage.executedOp opHash = true) (.contract .proposalAlreadyExecuted)
  let opId := storage.operationCounter
  let nextOpId ← checkedU64 (opId + 1) (.contract .overflow)
  let eta ← checkedU64 (env.timestamp + delay) (.contract .overflow)
  let expiresAt ← checkedU64 (eta + gracePeriod) (.contract .overflow)
  let op : QueuedOperation := { id := opId, opHash, eta, expiresAt, status := .pending }
  return ({ storage with
    operationCounter := nextOpId
    operation := Function.update storage.operation opId (some op) }, opId)

/-- Execute a queued operation after its eta and before its grace period expires;
anyone may call it. -/
def executeOperation (opId : Nat) : Outcome Storage := do
  let op ← unwrapOr (storage.operation opId) (.contract .proposalNotFound)
  rejectIf (op.status ≠ .pending) (.contract .proposalAlreadyExecuted)
  rejectIf (isReady op.eta env.timestamp = false) (.contract .timelockNotReady)
  rejectIf (env.timestamp > op.expiresAt) (.contract .signatureExpired)
  rejectIf (storage.executedOp op.opHash = true) (.contract .proposalAlreadyExecuted)
  return { storage with
    executedOp := Function.update storage.executedOp op.opHash true
    operation := Function.update storage.operation opId
      (some { op with status := .executed }) }

/-- Cancel a pending operation in the queue. -/
def cancelOperation (admin : Address) (opId : Nat) : Outcome Storage := do
  requireAuth env admin
  let storedAdmin ← unwrapOr storage.admin (.contract .notInitialized)
  rejectIf (admin ≠ storedAdmin) (.contract .notAdmin)
  let op ← unwrapOr (storage.operation opId) (.contract .proposalNotFound)
  rejectIf (op.status ≠ .pending) (.contract .proposalAlreadyExecuted)
  return { storage with
    operation := Function.update storage.operation opId
      (some { op with status := .cancelled }) }

end Calls

/-- Check if an operation hash has already been executed. -/
def isOperationExecuted (storage : Storage) (opHash : BytesN 32) : Bool :=
  storage.executedOp opHash

/-- The entry points that write. -/
inductive Call where
  | initializeTimelock (admin : Address)
  | queueOperation (proposer : Address) (opHash : BytesN 32) (delay : Nat)
  | executeOperation (opId : Nat)
  | cancelOperation (admin : Address) (opId : Nat)

/-- The entries after an entry point. -/
def invoke (env : Env) (storage : Storage) : Call → Outcome Storage
  | .initializeTimelock admin => initializeTimelock storage admin
  | .queueOperation proposer opHash delay =>
      Prod.fst <$> queueOperation env storage proposer opHash delay
  | .executeOperation opId => executeOperation env storage opId
  | .cancelOperation admin opId => cancelOperation env storage admin opId

/-- One call and the environment it is made in. -/
structure Label where
  env : Env
  call : Call

/-- The successful steps; a failing call has no effect and is no step. -/
def Step (storage : Storage) (label : Label) (after : Storage) : Prop :=
  invoke label.env storage label.call = .ok after

/-- The entries after a step, where there is one. -/
def next (storage : Storage) (label : Label) : Option Storage :=
  (invoke label.env storage label.call).toOption

theorem step_of_next {storage after : Storage} {label : Label}
    (followed : next storage label = some after) : Step storage label after :=
  Outcome.toOption_eq_some.mp followed

section Specification

variable {env : Env} {storage after : Storage}

/-- The named admin is the stored one and authorised the call. -/
def AdminCall (env : Env) (storage : Storage) (admin : Address) : Prop :=
  env.authorized admin = true ∧ storage.admin = some admin

theorem initializeTimelock_eq_ok {admin : Address} :
    initializeTimelock storage admin = .ok after ↔
      storage.admin = none ∧
        after = { storage with admin := some admin, operationCounter := 0 } := by
  simp [initializeTimelock]

theorem queueOperation_eq_ok {proposer : Address} {opHash : BytesN 32} {delay opId : Nat} :
    queueOperation env storage proposer opHash delay = .ok (after, opId) ↔
      AdminCall env storage proposer ∧ minDelaySeconds ≤ delay ∧
        storage.executedOp opHash = false ∧ storage.operationCounter + 1 < 2 ^ 64 ∧
          env.timestamp + delay + gracePeriod < 2 ^ 64 ∧ opId = storage.operationCounter ∧
            after = { storage with
              operationCounter := storage.operationCounter + 1
              operation := Function.update storage.operation storage.operationCounter
                (some {
                  id := storage.operationCounter
                  opHash
                  eta := env.timestamp + delay
                  expiresAt := env.timestamp + delay + gracePeriod
                  status := .pending }) } := by
  simp only [queueOperation, AdminCall, Outcome.bind_eq_ok, requireAuth_eq_ok,
    Outcome.unwrapOr_eq_ok, Outcome.rejectIf_eq_ok, checkedU64_eq_ok, Outcome.pure_eq_ok,
    Prod.mk.injEq]
  grind

theorem executeOperation_eq_ok {opId : Nat} :
    executeOperation env storage opId = .ok after ↔
      ∃ op, storage.operation opId = some op ∧ op.status = .pending ∧
        op.eta ≤ env.timestamp ∧ env.timestamp ≤ op.expiresAt ∧
          storage.executedOp op.opHash = false ∧
            after = { storage with
              executedOp := Function.update storage.executedOp op.opHash true
              operation := Function.update storage.operation opId
                (some { op with status := .executed }) } := by
  simp [executeOperation, isReady]

theorem cancelOperation_eq_ok {admin : Address} {opId : Nat} :
    cancelOperation env storage admin opId = .ok after ↔
      AdminCall env storage admin ∧
        ∃ op, storage.operation opId = some op ∧ op.status = .pending ∧
          after = { storage with
            operation := Function.update storage.operation opId
              (some { op with status := .cancelled }) } := by
  simp only [cancelOperation, AdminCall, Outcome.bind_eq_ok, requireAuth_eq_ok,
    Outcome.unwrapOr_eq_ok, Outcome.rejectIf_eq_ok, Outcome.pure_eq_ok]
  grind

end Specification

end Timelock
