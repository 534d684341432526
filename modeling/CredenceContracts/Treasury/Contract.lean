import CredenceContracts.Library.Run
import CredenceContracts.Soroban.Pausable
import CredenceContracts.Soroban.Token

/-!
# The treasury contract

The treasury keeps one balance per fund source beside their total, takes
deposits from the admin and from registered depositors, and pays out of both
sources by proposals that signers approve.  Every entry point that writes is
here, in the order of its own checks.  Entries whose every read has the same
default are kept as plain values that start at it; published events are not
recorded.
-/

namespace Treasury

open Soroban MachineInt
open Outcome (rejectIf unwrapOr)

def cumulativeSegment : Nat :=
  2 ^ 127

/-- Seven days in seconds. -/
def defaultProposalTtl : Nat :=
  7 * 24 * 60 * 60

/-- Fund source for accounting and reporting. -/
inductive FundSource where
  | protocolFee
  | slashedFunds
  deriving DecidableEq, Repr

/-- A withdrawal proposal; executable once its approvals reach the threshold. -/
structure WithdrawalProposal where
  recipient : Address
  amount : Int
  proposedAt : Nat
  expiresAt : Nat
  proposer : Address
  executed : Bool
  deriving DecidableEq, Repr

/-- A lifetime amount; it stands for `rollovers * 2 ^ 127 + remainder`. -/
structure CumulativeAmount where
  rollovers : Nat
  remainder : Int
  deriving DecidableEq, Repr

/-- The stored entries. -/
structure Storage where
  admin : Option Address
  token : Option Address
  pause : Pausable.Storage
  totalBalance : Int
  balanceBySource : FundSource → Int
  cumulativeReceived : CumulativeAmount
  cumulativeReceivedBySource : FundSource → CumulativeAmount
  depositor : Address → Bool
  signer : Address → Bool
  /-- Optional because its reads differ in their defaults. -/
  signerCount : Option Nat
  threshold : Nat
  proposalCounter : Nat
  proposal : Nat → Option WithdrawalProposal
  approval : Nat → Address → Bool
  approvalCount : Nat → Nat
  minLiquidity : Int
  proposalTtl : Nat

def zeroCumulativeAmount : CumulativeAmount where
  rollovers := 0
  remainder := 0

/-- A treasury in which nothing was stored yet. -/
def Storage.deployed : Storage where
  admin := none
  token := none
  pause := .deployed
  totalBalance := 0
  balanceBySource := fun _ => 0
  cumulativeReceived := zeroCumulativeAmount
  cumulativeReceivedBySource := fun _ => zeroCumulativeAmount
  depositor := fun _ => false
  signer := fun _ => false
  signerCount := none
  threshold := 0
  proposalCounter := 0
  proposal := fun _ => none
  approval := fun _ _ => false
  approvalCount := fun _ => 0
  minLiquidity := 0
  proposalTtl := defaultProposalTtl

/-- The treasury together with the token ledger it moves funds on. -/
structure State (Ledger : Type) where
  storage : Storage
  ledger : Ledger

def addToCumulative (current : CumulativeAmount) (amount : Int) :
    Outcome CumulativeAmount := do
  let currentRemainder ← toU128 current.remainder (.contract .underflow)
  let addend ← toU128 amount (.contract .amountMustBePositive)
  let sum := (currentRemainder + addend) % 2 ^ 128
  let rolloverIncrement := if sum ≥ cumulativeSegment then 1 else 0
  let remainder := if rolloverIncrement = 0 then sum else sum - cumulativeSegment
  let rollovers ← checkedU64 (current.rollovers + rolloverIncrement) (.contract .overflow)
  let remainder ← toI128 remainder (.contract .overflow)
  return { rollovers, remainder }

/-- The share of a deduction that one source bears, rounded down. -/
def proportionalDeduction (sourceBalance amount total : Int) : Outcome Int :=
  if sourceBalance = 0 ∨ amount = 0 then
    return 0
  else if amount = total then
    return sourceBalance
  else do
    let source ← toU128 sourceBalance (.contract .amountMustBePositive)
    let withdrawal ← toU128 amount (.contract .amountMustBePositive)
    let available ← toU128 total (.contract .amountMustBePositive)
    rejectIf (available = 0) (.panicked "attempt to divide by zero")
    let deduction := source * withdrawal / available
    toI128 (deduction % 2 ^ 128) (.contract .overflow)

/-- Set the admin and the token and zero every balance and counter.  Signer
flags, depositors, proposals and approvals are not touched. -/
def initializeTreasury (env : Env) (storage : Storage) (admin token : Address) :
    Outcome Storage := do
  requireAuth env admin
  return { storage with
    admin := some admin
    token := some token
    pause := storage.pause.reset
    totalBalance := 0
    balanceBySource := fun _ => 0
    cumulativeReceived := zeroCumulativeAmount
    cumulativeReceivedBySource := fun _ => zeroCumulativeAmount
    signerCount := some 0
    threshold := 0
    proposalCounter := 0
    minLiquidity := 0
    proposalTtl := defaultProposalTtl }

def getToken (storage : Storage) : Outcome Address :=
  unwrapOr storage.token (.contract .notInitialized)

def getAdmin (storage : Storage) : Outcome Address :=
  unwrapOr storage.admin (.contract .notInitialized)

section Funds

variable {Ledger : Type} (token : TokenInterface Ledger) (env : Env) (state : State Ledger)

/-- Record a deposit in every balance it belongs to. -/
def creditSources (storage : Storage) (amount : Int) (source : FundSource) :
    Outcome Storage := do
  let newTotal ← checkedI128 (storage.totalBalance + amount) (.contract .overflow)
  let newSource ← checkedI128 (storage.balanceBySource source + amount) (.contract .overflow)
  let newCumulativeTotal ← addToCumulative storage.cumulativeReceived amount
  let newCumulativeSource ←
    addToCumulative (storage.cumulativeReceivedBySource source) amount
  return { storage with
    totalBalance := newTotal
    balanceBySource := Function.update storage.balanceBySource source newSource
    cumulativeReceived := newCumulativeTotal
    cumulativeReceivedBySource :=
      Function.update storage.cumulativeReceivedBySource source newCumulativeSource }

/-- Take a deposit from the admin or from a registered depositor. -/
def receiveFee (payer : Address) (amount : Int) (source : FundSource) :
    Outcome (State Ledger) := do
  let storage := state.storage
  Pausable.requireNotPaused storage.pause
  requireAuth env payer
  rejectIf (amount ≤ 0) (.contract .amountMustBePositive)
  let admin ← getAdmin storage
  rejectIf (payer ≠ admin ∧ storage.depositor payer = false)
    (.contract .unauthorizedDepositor)
  let credited ← creditSources storage amount source
  let asset ← getToken credited
  let ledger ← calling
    (token.transfer state.ledger asset payer env.currentContractAddress amount)
  return { storage := credited, ledger }

/-- What `executeWithdrawal` checks before it moves tokens. -/
def withdrawalGuards (storage : Storage) (proposalId : Nat) :
    Outcome WithdrawalProposal := do
  Pausable.requireNotPaused storage.pause
  let proposal ← unwrapOr (storage.proposal proposalId) (.contract .proposalNotFound)
  rejectIf (env.timestamp ≥ proposal.expiresAt) (.contract .proposalExpired)
  rejectIf (proposal.executed = true) (.contract .proposalAlreadyExecuted)
  rejectIf (storage.approvalCount proposalId < storage.threshold)
    (.contract .insufficientApprovals)
  rejectIf (storage.totalBalance < proposal.amount) (.contract .insufficientTreasuryBalance)
  let remaining ← checkedI128 (storage.totalBalance - proposal.amount) (.contract .underflow)
  rejectIf (remaining < storage.minLiquidity) (.contract .insufficientTreasuryBalance)
  return proposal

/-- Pay a proposal and measure what its recipient received. -/
def settle (proposal : WithdrawalProposal) (minAmountOut : Int) :
    Outcome (Ledger × Int) := do
  let asset ← getToken state.storage
  let before := token.balance state.ledger asset proposal.recipient
  let ledger ← calling (token.transfer state.ledger asset env.currentContractAddress
    proposal.recipient proposal.amount)
  let after := token.balance ledger asset proposal.recipient
  let actualAmount ← checkedI128 (after - before) (.contract .underflow)
  rejectIf (actualAmount < minAmountOut) (.contract .slippageExceeded)
  return (ledger, actualAmount)

/-- The balance update: the slashed share is what the rounded protocol share
leaves of the amount. -/
def debitSources (storage : Storage) (actualAmount : Int) : Outcome Storage := do
  let total := storage.totalBalance
  let newTotal ← checkedI128 (total - actualAmount) (.contract .underflow)
  let protocolBalance := storage.balanceBySource .protocolFee
  let slashedBalance := storage.balanceBySource .slashedFunds
  let protocolDeduction ← proportionalDeduction protocolBalance actualAmount total
  let slashedDeduction ← checkedI128 (actualAmount - protocolDeduction)
    (.contract .underflow)
  let newProtocolBalance ← checkedI128 (protocolBalance - protocolDeduction)
    (.contract .underflow)
  let newSlashedBalance ← checkedI128 (slashedBalance - slashedDeduction)
    (.contract .underflow)
  return { storage with
    totalBalance := newTotal
    balanceBySource := fun
      | .protocolFee => newProtocolBalance
      | .slashedFunds => newSlashedBalance }

/-- Execute an approved proposal; anyone may call it. -/
def executeWithdrawal (proposalId : Nat) (minAmountOut : Int) :
    Outcome (State Ledger) := do
  let proposal ← withdrawalGuards env state.storage proposalId
  let (ledger, actualAmount) ← settle token env state proposal minAmountOut
  let debited ← debitSources state.storage actualAmount
  let executed := { proposal with executed := true }
  return {
    storage := { debited with
      proposal := Function.update debited.proposal proposalId (some executed) }
    ledger }

/-- Transfer tokens that the contract holds beyond its recorded total. -/
def rescueNative (admin recipient : Address) (amount : Int) : Outcome (State Ledger) := do
  let storage := state.storage
  Pausable.requireNotPaused storage.pause
  requireAuth env admin
  let storedAdmin ← getAdmin storage
  rejectIf (storedAdmin ≠ admin) (.contract .notAdmin)
  rejectIf (amount ≤ 0) (.contract .amountMustBePositive)
  let asset ← getToken storage
  let actualBalance := token.balance state.ledger asset env.currentContractAddress
  let excess ← checkedI128 (actualBalance - storage.totalBalance) (.contract .underflow)
  rejectIf (amount > excess) (.contract .insufficientTreasuryBalance)
  let ledger ← calling
    (token.transfer state.ledger asset env.currentContractAddress recipient amount)
  return { state with ledger }

end Funds

section Configuration

variable (env : Env) (storage : Storage)

/-- The opening of the admin operations that take no admin argument. -/
def requireStoredAdmin : Outcome Unit := do
  Pausable.requireNotPaused storage.pause
  let admin ← getAdmin storage
  requireAuth env admin

/-- The opening of the admin operations that name the admin. -/
def requireNamedAdmin (admin : Address) : Outcome Unit := do
  Pausable.requireNotPaused storage.pause
  let storedAdmin ← getAdmin storage
  rejectIf (admin ≠ storedAdmin) (.contract .notAdmin)
  requireAuth env admin

def addDepositor (depositor : Address) : Outcome Storage := do
  requireStoredAdmin env storage
  if storage.depositor depositor then
    return storage
  else
    return { storage with depositor := Function.update storage.depositor depositor true }

def removeDepositor (depositor : Address) : Outcome Storage := do
  requireStoredAdmin env storage
  return { storage with depositor := Function.update storage.depositor depositor false }

/-- Add a signer; adding one again changes nothing. -/
def addSigner (signer : Address) : Outcome Storage := do
  requireStoredAdmin env storage
  if storage.signer signer then
    return storage
  else do
    let newCount ← checkedU32 (storage.signerCount.getD 0 + 1) (.contract .overflow)
    return { storage with
      signer := Function.update storage.signer signer true
      signerCount := some newCount }

/-- Remove a signer and cap the threshold; the approvals it gave are kept. -/
def removeSigner (signer : Address) : Outcome Storage := do
  requireStoredAdmin env storage
  if storage.signer signer then
    let newCount := storage.signerCount.getD 1 - 1
    return { storage with
      signer := Function.update storage.signer signer false
      signerCount := some newCount
      threshold := if storage.threshold > newCount then newCount else storage.threshold }
  else
    return storage

def setThreshold (threshold : Nat) : Outcome Storage := do
  requireStoredAdmin env storage
  rejectIf (threshold > storage.signerCount.getD 0) (.contract .thresholdExceedsSigners)
  return { storage with threshold }

def setToken (admin token : Address) : Outcome Storage := do
  requireNamedAdmin env storage admin
  return { storage with token := some token }

def setMinLiquidity (admin : Address) (minLiquidity : Int) : Outcome Storage := do
  requireNamedAdmin env storage admin
  return { storage with minLiquidity }

def setProposalTtl (admin : Address) (ttl : Nat) : Outcome Storage := do
  requireNamedAdmin env storage admin
  return { storage with proposalTtl := ttl }

end Configuration

section Proposals

variable (env : Env) (storage : Storage)

/-- The expiry of a proposal made now; a zero lifetime means none. -/
def proposalExpiry : Outcome Nat :=
  if storage.proposalTtl = 0 then
    return u64Max
  else
    checkedU64 (env.timestamp + storage.proposalTtl) (.contract .overflow)

/-- Propose a withdrawal and return its id. -/
def proposeWithdrawal (proposer recipient : Address) (amount : Int) :
    Outcome (Storage × Nat) := do
  Pausable.requireNotPaused storage.pause
  requireAuth env proposer
  rejectIf (storage.signer proposer = false) (.contract .notSigner)
  rejectIf (amount ≤ 0) (.contract .amountMustBePositive)
  rejectIf (amount > storage.totalBalance) (.contract .insufficientTreasuryBalance)
  let id := storage.proposalCounter
  let nextId ← checkedU64 (id + 1) (.contract .overflow)
  let expiresAt ← proposalExpiry env storage
  let proposal : WithdrawalProposal := {
    recipient
    amount
    proposedAt := env.timestamp
    expiresAt
    proposer
    executed := false }
  return ({ storage with
    proposalCounter := nextId
    proposal := Function.update storage.proposal id (some proposal)
    approvalCount := Function.update storage.approvalCount id 0 }, id)

/-- Approve a proposal; approving it again changes nothing. -/
def approveWithdrawal (approver : Address) (proposalId : Nat) : Outcome Storage := do
  Pausable.requireNotPaused storage.pause
  requireAuth env approver
  rejectIf (storage.signer approver = false) (.contract .notSigner)
  let proposal ← unwrapOr (storage.proposal proposalId) (.contract .proposalNotFound)
  rejectIf (proposal.executed = true) (.contract .proposalAlreadyExecuted)
  rejectIf (env.timestamp ≥ proposal.expiresAt) (.contract .proposalExpired)
  if storage.approval proposalId approver then
    return storage
  else do
    let newCount ← checkedU32 (storage.approvalCount proposalId + 1) (.contract .overflow)
    return { storage with
      approval := Function.update storage.approval proposalId
        (Function.update (storage.approval proposalId) approver true)
      approvalCount := Function.update storage.approvalCount proposalId newCount }

end Proposals

/-- The entry points that write. -/
inductive Call where
  | initializeTreasury (admin token : Address)
  | receiveFee (payer : Address) (amount : Int) (source : FundSource)
  | addDepositor (depositor : Address)
  | removeDepositor (depositor : Address)
  | addSigner (signer : Address)
  | removeSigner (signer : Address)
  | setThreshold (threshold : Nat)
  | proposeWithdrawal (proposer recipient : Address) (amount : Int)
  | approveWithdrawal (approver : Address) (proposalId : Nat)
  | executeWithdrawal (proposalId : Nat) (minAmountOut : Int)
  | setToken (admin token : Address)
  | setMinLiquidity (admin : Address) (minLiquidity : Int)
  | setProposalTtl (admin : Address) (ttl : Nat)
  | pausable (call : Pausable.Call)
  | rescueNative (admin recipient : Address) (amount : Int)

/-- The outcome of an entry point that moves no tokens. -/
def State.storing {Ledger : Type} (state : State Ledger) (result : Outcome Storage) :
    Outcome (State Ledger) := do
  let storage ← result
  return { state with storage }

section Steps

variable {Ledger : Type} (token : TokenInterface Ledger)

/-- The state after an entry point. -/
def invoke (env : Env) (state : State Ledger) : Call → Outcome (State Ledger)
  | .initializeTreasury admin asset =>
      state.storing (initializeTreasury env state.storage admin asset)
  | .receiveFee payer amount source => receiveFee token env state payer amount source
  | .addDepositor depositor => state.storing (addDepositor env state.storage depositor)
  | .removeDepositor depositor =>
      state.storing (removeDepositor env state.storage depositor)
  | .addSigner signer => state.storing (addSigner env state.storage signer)
  | .removeSigner signer => state.storing (removeSigner env state.storage signer)
  | .setThreshold threshold => state.storing (setThreshold env state.storage threshold)
  | .proposeWithdrawal proposer recipient amount =>
      state.storing
        (Prod.fst <$> proposeWithdrawal env state.storage proposer recipient amount)
  | .approveWithdrawal approver proposalId =>
      state.storing (approveWithdrawal env state.storage approver proposalId)
  | .executeWithdrawal proposalId minAmountOut =>
      executeWithdrawal token env state proposalId minAmountOut
  | .setToken admin asset => state.storing (setToken env state.storage admin asset)
  | .setMinLiquidity admin minLiquidity =>
      state.storing (setMinLiquidity env state.storage admin minLiquidity)
  | .setProposalTtl admin ttl => state.storing (setProposalTtl env state.storage admin ttl)
  | .pausable call => state.storing do
      let pause ← Pausable.invoke env state.storage.admin state.storage.pause call
      return { state.storage with pause }
  | .rescueNative admin recipient amount =>
      rescueNative token env state admin recipient amount

/-- What can happen next: a call of the treasury, or anything at all on the
token ledger. -/
inductive Act (Ledger : Type) where
  | call (call : Call)
  | elsewhere (ledger : Ledger)

/-- One act and the environment it happens in. -/
structure Label (Ledger : Type) where
  env : Env
  act : Act Ledger

/-- The successful steps of the treasury deployed at `self`; a failing call has
no effect and is no step. -/
inductive Step (self : Address) : State Ledger → Label Ledger → State Ledger → Prop where
  | call {env : Env} {state after : State Ledger} {call : Call} :
      env.currentContractAddress = self → invoke token env state call = .ok after →
      Step self state ⟨env, .call call⟩ after
  | elsewhere {env : Env} {state : State Ledger} {ledger : Ledger} :
      Step self state ⟨env, .elsewhere ledger⟩ { state with ledger }

/-- The state after a step, where there is one. -/
def next (self : Address) (state : State Ledger) (label : Label Ledger) :
    Option (State Ledger) :=
  match label.act with
  | .call call =>
      if label.env.currentContractAddress = self then
        (invoke token label.env state call).toOption
      else
        none
  | .elsewhere ledger => some { state with ledger }

theorem step_of_next {token : TokenInterface Ledger} {self : Address}
    {state after : State Ledger} {label : Label Ledger}
    (followed : next token self state label = some after) :
    Step token self state label after := by
  obtain ⟨env, act⟩ := label
  cases act with
  | call call =>
      simp only [next] at followed
      split at followed
      · rename_i addressed
        exact .call addressed (Outcome.toOption_eq_some.mp followed)
      · cases followed
  | elsewhere ledger =>
      cases followed
      exact .elsewhere

end Steps

end Treasury
