import CredenceContracts.Library.Body
import CredenceContracts.Library.Run
import CredenceContracts.Soroban.Pausable
import Mathlib.Tactic.Common

/-!
# The arbitration contract

Arbitrators vote on disputes with the weight the admin gave them; after the voting
period anyone may resolve a dispute, by the heaviest outcome or as tied.  Entry points
answer with errors instead of failing, and what a body wrote before an error is kept
here.  Published events are not recorded.
-/

namespace Arbitration

open Soroban MachineInt
open Body (rejectIf okOr orPanic)

inductive DisputeStatus where
  | opened
  | voting
  | resolving
  | resolved
  | cancelled
  /-- The vote had no clear winner; the outcome is 0. -/
  | tied
  deriving DecidableEq, Repr

inductive ArbitrationError where
  | invalidTransition
  | alreadyInitialized
  | notInitialized
  | notAdmin
  | notArbitrator
  | alreadyVoted
  | votingInactive
  | votingNotEnded
  | disputeNotFound
  | invalidOutcome
  | weightNotPositive
  | notAuthorized
  | reasonTooLong
  | quorumNotMet
  deriving DecidableEq, Repr

/-- The role in which a dispute was cancelled. -/
inductive Role where
  | creator
  | admin
  deriving DecidableEq, Repr

structure Dispute where
  id : Nat
  creator : Address
  description : Bytes
  votingStart : Nat
  votingEnd : Nat
  status : DisputeStatus
  /-- The winning outcome of a resolved dispute, else 0. -/
  outcome : Nat
  cancellationReason : Option Bytes
  cancelledByRole : Option Role
  deriving DecidableEq

/-- The tally of every outcome that was voted for, iterated in the order of outcomes. -/
abbrev Votes :=
  Std.TreeMap Nat Int

/-- The stored entries. -/
structure Storage where
  admin : Option Address
  pause : Pausable.Storage
  arbitrator : Address → Option Int
  dispute : Nat → Option Dispute
  disputeCounter : Nat
  disputeVotes : Nat → Votes
  voterCasted : Nat → Address → Bool
  voterCounter : Nat → Nat
  arbitratorRegistry : List Address
  minTotalWeight : Int
  minVoters : Nat

/-- A contract in which nothing was stored yet. -/
def Storage.deployed : Storage where
  admin := none
  pause := .deployed
  arbitrator := fun _ => none
  dispute := fun _ => none
  disputeCounter := 0
  disputeVotes := fun _ => ∅
  voterCasted := fun _ _ => false
  voterCounter := fun _ => 0
  arbitratorRegistry := []
  minTotalWeight := 0
  minVoters := 0

/-- A body of the contract. -/
abbrev Entry (α : Type) :=
  Body Storage ArbitrationError Failure α

section Statuses

/-- The transitions of the status machine. -/
def DisputeStatus.permits : DisputeStatus → DisputeStatus → Bool
  | .opened, .voting => true
  | .opened, .cancelled => true
  | .voting, .resolving => true
  | .voting, .cancelled => true
  | .resolving, .resolved => true
  | .resolving, .tied => true
  | _, _ => false

def requireTransition (source target : DisputeStatus) : Entry Unit :=
  rejectIf (source.permits target = false) .invalidTransition

end Statuses

section Tallies

/-- What a pass over the tallies knows of the heaviest outcome. -/
structure Leader where
  winningOutcome : Nat
  maxWeight : Int
  isTie : Bool
  deriving DecidableEq

def Leader.pass (leader : Leader) (entry : Nat × Int) : Leader :=
  if entry.2 > leader.maxWeight then
    { winningOutcome := entry.1, maxWeight := entry.2, isTie := false }
  else if entry.2 = leader.maxWeight then
    { leader with isTie := true }
  else
    leader

/-- The heaviest outcome of the tallies in the order they are iterated. -/
def leader (tallies : List (Nat × Int)) : Leader :=
  tallies.foldl Leader.pass { winningOutcome := 0, maxWeight := -1, isTie := false }

/-- The sum of the tallies. -/
def totalWeight (votes : Votes) : Outcome Int :=
  votes.toList.foldlM
    (fun total entry => checkedI128 (total + entry.2) (.contract .overflow)) 0

end Tallies

section Calls

variable (env : Env)

/-- Set the admin, once; nobody has to authorise it. -/
def initializeArbitration (admin : Address) : Entry Unit := do
  let storage ← get
  rejectIf (storage.admin.isSome = true) .alreadyInitialized
  modify fun stored => { stored with admin := some admin, pause := stored.pause.reset }

/-- Register an arbitrator, or update its weight. -/
def registerArbitrator (arbitrator : Address) (weight : Int) : Entry Unit := do
  let storage ← get
  orPanic (Pausable.requireNotPaused storage.pause)
  let admin ← okOr storage.admin .notInitialized
  orPanic (requireAuth env admin)
  rejectIf (weight ≤ 0) .weightNotPositive
  modify fun stored => { stored with
    arbitrator := Function.update stored.arbitrator arbitrator (some weight)
    arbitratorRegistry :=
      if stored.arbitratorRegistry.any (fun listed => listed == arbitrator) then
        stored.arbitratorRegistry
      else
        stored.arbitratorRegistry ++ [arbitrator] }

def unregisterArbitrator (arbitrator : Address) : Entry Unit := do
  let storage ← get
  orPanic (Pausable.requireNotPaused storage.pause)
  let admin ← okOr storage.admin .notInitialized
  orPanic (requireAuth env admin)
  modify fun stored => { stored with
    arbitrator := Function.update stored.arbitrator arbitrator none
    arbitratorRegistry :=
      stored.arbitratorRegistry.filter fun listed => listed != arbitrator }

/-- Create a dispute, whose voting period begins at once. -/
def createDispute (creator : Address) (description : Bytes) (duration : Nat) :
    Entry Nat := do
  let storage ← get
  orPanic (Pausable.requireNotPaused storage.pause)
  orPanic (requireAuth env creator)
  let id := storage.disputeCounter
  let nextId ← orPanic (checkedU64 (id + 1) (.contract .overflow))
  modify fun stored => { stored with disputeCounter := nextId }
  let start := env.timestamp
  let deadline ← orPanic (checkedU64 (start + duration) (.contract .overflow))
  requireTransition .opened .voting
  let dispute : Dispute := {
    id
    creator
    description
    votingStart := start
    votingEnd := deadline
    status := .voting
    outcome := 0
    cancellationReason := none
    cancelledByRole := none }
  modify fun stored => { stored with
    dispute := Function.update stored.dispute id (some dispute) }
  return id

/-- The role in which an address may cancel the dispute. -/
def Dispute.cancelRole (dispute : Dispute) (admin caller : Address) : Option Role :=
  if caller = dispute.creator then
    some .creator
  else if caller = admin then
    some .admin
  else
    none

/-- Cancel a dispute, as its creator or as the admin. -/
def cancelDispute (caller : Address) (disputeId : Nat) (reason : Option Bytes) :
    Entry Unit := do
  let storage ← get
  orPanic (Pausable.requireNotPaused storage.pause)
  orPanic (requireAuth env caller)
  rejectIf (∃ text ∈ reason, text.length > 256) .reasonTooLong
  let dispute ← okOr (storage.dispute disputeId) .disputeNotFound
  let admin ← okOr storage.admin .notInitialized
  let role ← okOr (dispute.cancelRole admin caller) .notAuthorized
  requireTransition dispute.status .cancelled
  modify fun stored => { stored with
    dispute := Function.update stored.dispute disputeId (some { dispute with
      status := .cancelled
      cancellationReason := reason
      cancelledByRole := some role }) }

/-- Cast a weighted vote for an outcome of a dispute. -/
def vote (voter : Address) (disputeId outcome : Nat) : Entry Unit := do
  let storage ← get
  orPanic (Pausable.requireNotPaused storage.pause)
  orPanic (requireAuth env voter)
  rejectIf (outcome = 0) .invalidOutcome
  let weight ← okOr (storage.arbitrator voter) .notArbitrator
  let dispute ← okOr (storage.dispute disputeId) .disputeNotFound
  rejectIf (dispute.status ≠ .voting) .votingInactive
  rejectIf (env.timestamp < dispute.votingStart ∨ env.timestamp > dispute.votingEnd)
    .votingInactive
  rejectIf (storage.voterCasted disputeId voter = true) .alreadyVoted
  modify fun stored => { stored with
    voterCasted := Function.update stored.voterCasted disputeId
      (Function.update (stored.voterCasted disputeId) voter true) }
  let voterCount ←
    orPanic (checkedU32 (storage.voterCounter disputeId + 1) (.contract .overflow))
  modify fun stored => { stored with
    voterCounter := Function.update stored.voterCounter disputeId voterCount }
  let votes := storage.disputeVotes disputeId
  let tally ← orPanic (checkedI128 (votes.getD outcome 0 + weight) (.contract .overflow))
  modify fun stored => { stored with
    disputeVotes :=
      Function.update stored.disputeVotes disputeId (votes.insert outcome tally) }

/-- The quorum configured at this moment, checked only where one was configured. -/
def requireQuorum (storage : Storage) (disputeId : Nat) : Entry Unit :=
  if storage.minTotalWeight > 0 ∨ storage.minVoters > 0 then do
    let total ← orPanic (totalWeight (storage.disputeVotes disputeId))
    rejectIf (total < storage.minTotalWeight ∨
      storage.voterCounter disputeId < storage.minVoters) .quorumNotMet
  else
    pure ()

/-- Resolve a dispute after its voting period.  Its passing through the resolving status
is not stored. -/
def resolveDispute (disputeId : Nat) : Entry Nat := do
  let storage ← get
  orPanic (Pausable.requireNotPaused storage.pause)
  let dispute ← okOr (storage.dispute disputeId) .disputeNotFound
  requireTransition dispute.status .resolving
  rejectIf (env.timestamp ≤ dispute.votingEnd) .votingNotEnded
  requireQuorum storage disputeId
  let found := leader (storage.disputeVotes disputeId).toList
  if found.isTie = true ∨ found.maxWeight < 0 then do
    requireTransition .resolving .tied
    modify fun stored => { stored with
      dispute := Function.update stored.dispute disputeId
        (some { dispute with status := .tied, outcome := 0 }) }
    return 0
  else do
    requireTransition .resolving .resolved
    modify fun stored => { stored with
      dispute := Function.update stored.dispute disputeId
        (some { dispute with status := .resolved, outcome := found.winningOutcome }) }
    return found.winningOutcome

/-- Set the quorum that later resolutions need. -/
def setQuorum (admin : Address) (minTotalWeight : Int) (minVoters : Nat) : Entry Unit := do
  let storage ← get
  orPanic (Pausable.requireNotPaused storage.pause)
  let storedAdmin ← okOr storage.admin .notInitialized
  orPanic (requireAuth env admin)
  rejectIf (admin ≠ storedAdmin) .notAdmin
  modify fun stored => { stored with minTotalWeight, minVoters }

end Calls

section Views

variable (storage : Storage)

def getQuorum : Int × Nat :=
  (storage.minTotalWeight, storage.minVoters)

def getTally (disputeId outcome : Nat) : Int :=
  (storage.disputeVotes disputeId).getD outcome 0

/-- The weight of an arbitrator, converted to an unsigned 32-bit word. -/
def getArbitratorWeight (arbitrator : Address) : Except ArbitrationError Nat := do
  let weight ← Outcome.unwrapOr (storage.arbitrator arbitrator) .notArbitrator
  return (weight % 2 ^ 32).toNat

def hasVoted (disputeId : Nat) (voter : Address) : Bool :=
  storage.voterCasted disputeId voter

end Views

/-- The entry points that write. -/
inductive Call where
  | initializeArbitration (admin : Address)
  | registerArbitrator (arbitrator : Address) (weight : Int)
  | unregisterArbitrator (arbitrator : Address)
  | createDispute (creator : Address) (description : Bytes) (duration : Nat)
  | cancelDispute (caller : Address) (disputeId : Nat) (reason : Option Bytes)
  | vote (voter : Address) (disputeId outcome : Nat)
  | resolveDispute (disputeId : Nat)
  | setQuorum (admin : Address) (minTotalWeight : Int) (minVoters : Nat)
  | pausable (call : Pausable.Call)

/-- What an entry point answers with. -/
inductive Value where
  | unit
  | number (value : Nat)
  deriving DecidableEq

def invoke (env : Env) : Call → Entry Value
  | .initializeArbitration admin => do
      initializeArbitration admin
      return .unit
  | .registerArbitrator arbitrator weight => do
      registerArbitrator env arbitrator weight
      return .unit
  | .unregisterArbitrator arbitrator => do
      unregisterArbitrator env arbitrator
      return .unit
  | .createDispute creator description duration => do
      let id ← createDispute env creator description duration
      return .number id
  | .cancelDispute caller disputeId reason => do
      cancelDispute env caller disputeId reason
      return .unit
  | .vote voter disputeId outcome => do
      vote env voter disputeId outcome
      return .unit
  | .resolveDispute disputeId => do
      let outcome ← resolveDispute env disputeId
      return .number outcome
  | .setQuorum admin minTotalWeight minVoters => do
      setQuorum env admin minTotalWeight minVoters
      return .unit
  | .pausable call => do
      let storage ← get
      let pause ← orPanic (Pausable.invoke env storage.admin storage.pause call)
      modify fun stored => { stored with pause }
      return .unit

/-- One call, the environment it is made in and its answer. -/
structure Label where
  env : Env
  call : Call
  answer : Except ArbitrationError Value

/-- The calls that answer, with a value or an error; a panic has no effect and is no
step. -/
def Step (storage : Storage) (label : Label) (after : Storage) : Prop :=
  (invoke label.env label.call).exec storage = .ok (label.answer, after)

/-- The entries after a step, where there is one. -/
def next (storage : Storage) (label : Label) : Option Storage :=
  match (invoke label.env label.call).exec storage with
  | .ok (answer, after) => if answer = label.answer then some after else none
  | .error _ => none

theorem step_of_next {storage after : Storage} {label : Label}
    (followed : next storage label = some after) : Step storage label after := by
  unfold next at followed
  unfold Step
  split at followed
  · rename_i reached
    split at followed
    · rename_i same
      rw [reached, same, Option.some.inj followed]
    · cases followed
  · cases followed

end Arbitration
