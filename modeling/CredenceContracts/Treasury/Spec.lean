import CredenceContracts.Treasury.Contract

/-!
# What each treasury operation does

One lemma for each operation says when it succeeds and what state it then
leaves; every property of the treasury is derived from these.
-/

namespace Treasury

open Soroban MachineInt

section Configuration

variable {env : Env} {storage after : Storage}

@[simp] theorem getToken_eq_ok {asset : Address} :
    getToken storage = .ok asset ↔ storage.token = some asset := by
  simp [getToken]

@[simp] theorem getAdmin_eq_ok {admin : Address} :
    getAdmin storage = .ok admin ↔ storage.admin = some admin := by
  simp [getAdmin]

/-- The treasury is running and its stored admin authorised the call. -/
def AdminCall (env : Env) (storage : Storage) : Prop :=
  storage.pause.paused = false ∧
    ∃ admin, storage.admin = some admin ∧ env.authorized admin = true

@[simp] theorem requireStoredAdmin_eq_ok {result : Unit} :
    requireStoredAdmin env storage = .ok result ↔ AdminCall env storage := by
  simp [requireStoredAdmin, AdminCall]

@[simp] theorem requireNamedAdmin_eq_ok {admin : Address} {result : Unit} :
    requireNamedAdmin env storage admin = .ok result ↔
      AdminCall env storage ∧ storage.admin = some admin := by
  simp only [requireNamedAdmin, AdminCall, Outcome.bind_eq_ok, getAdmin_eq_ok,
    Pausable.requireNotPaused_eq_ok, Outcome.rejectIf_eq_ok, requireAuth_eq_ok]
  grind

theorem initializeTreasury_eq_ok {admin token : Address} :
    initializeTreasury env storage admin token = .ok after ↔
      env.authorized admin = true ∧
        after = { storage with
          admin := some admin
          token := some token
          pause := storage.pause.reset
          totalBalance := 0
          balanceBySource := fun _ => 0
          cumulativeReceived := zeroCumulativeAmount
          cumulativeReceivedBySource := fun _ => zeroCumulativeAmount
          signerCount := some 0
          threshold := 0
          proposalCounter := 0
          minLiquidity := 0
          proposalTtl := defaultProposalTtl } := by
  simp [initializeTreasury]

theorem addDepositor_eq_ok {depositor : Address} :
    addDepositor env storage depositor = .ok after ↔
      AdminCall env storage ∧
        (storage.depositor depositor = true ∧ after = storage ∨
          storage.depositor depositor = false ∧
            after = { storage with
              depositor := Function.update storage.depositor depositor true }) := by
  unfold addDepositor
  split <;> simp_all

theorem removeDepositor_eq_ok {depositor : Address} :
    removeDepositor env storage depositor = .ok after ↔
      AdminCall env storage ∧
        after = { storage with
          depositor := Function.update storage.depositor depositor false } := by
  simp [removeDepositor]

theorem addSigner_eq_ok {signer : Address} :
    addSigner env storage signer = .ok after ↔
      AdminCall env storage ∧
        (storage.signer signer = true ∧ after = storage ∨
          storage.signer signer = false ∧ storage.signerCount.getD 0 + 1 < 2 ^ 32 ∧
            after = { storage with
              signer := Function.update storage.signer signer true
              signerCount := some (storage.signerCount.getD 0 + 1) }) := by
  unfold addSigner
  split <;> simp_all

theorem removeSigner_eq_ok {signer : Address} :
    removeSigner env storage signer = .ok after ↔
      AdminCall env storage ∧
        (storage.signer signer = false ∧ after = storage ∨
          storage.signer signer = true ∧
            after = { storage with
              signer := Function.update storage.signer signer false
              signerCount := some (storage.signerCount.getD 1 - 1)
              threshold := min storage.threshold (storage.signerCount.getD 1 - 1) }) := by
  have capped (low high : Nat) : (if low > high then high else low) = min low high := by
    split <;> omega
  simp only [removeSigner, capped]
  split <;> simp_all

theorem setThreshold_eq_ok {threshold : Nat} :
    setThreshold env storage threshold = .ok after ↔
      AdminCall env storage ∧ threshold ≤ storage.signerCount.getD 0 ∧
        after = { storage with threshold } := by
  simp [setThreshold]

theorem setToken_eq_ok {admin token : Address} :
    setToken env storage admin token = .ok after ↔
      AdminCall env storage ∧ storage.admin = some admin ∧
        after = { storage with token := some token } := by
  simp [setToken, and_assoc]

theorem setMinLiquidity_eq_ok {admin : Address} {minLiquidity : Int} :
    setMinLiquidity env storage admin minLiquidity = .ok after ↔
      AdminCall env storage ∧ storage.admin = some admin ∧
        after = { storage with minLiquidity } := by
  simp [setMinLiquidity, and_assoc]

theorem setProposalTtl_eq_ok {admin : Address} {ttl : Nat} :
    setProposalTtl env storage admin ttl = .ok after ↔
      AdminCall env storage ∧ storage.admin = some admin ∧
        after = { storage with proposalTtl := ttl } := by
  simp [setProposalTtl, and_assoc]

end Configuration

section Proposals

variable {env : Env} {storage after : Storage}

theorem proposeWithdrawal_eq_ok {proposer recipient : Address} {amount : Int} {id : Nat} :
    proposeWithdrawal env storage proposer recipient amount = .ok (after, id) ↔
      storage.pause.paused = false ∧ env.authorized proposer = true ∧
        storage.signer proposer = true ∧ 0 < amount ∧ amount ≤ storage.totalBalance ∧
          storage.proposalCounter + 1 < 2 ^ 64 ∧ id = storage.proposalCounter ∧
            ∃ expiresAt, proposalExpiry env storage = .ok expiresAt ∧
              after = { storage with
                proposalCounter := storage.proposalCounter + 1
                proposal := Function.update storage.proposal storage.proposalCounter
                  (some {
                    recipient
                    amount
                    proposedAt := env.timestamp
                    expiresAt
                    proposer
                    executed := false })
                approvalCount :=
                  Function.update storage.approvalCount storage.proposalCounter 0 } := by
  simp only [proposeWithdrawal, Outcome.bind_eq_ok, Pausable.requireNotPaused_eq_ok,
    requireAuth_eq_ok, Outcome.rejectIf_eq_ok, checkedU64_eq_ok, Outcome.pure_eq_ok,
    Prod.mk.injEq]
  grind

theorem approveWithdrawal_eq_ok {approver : Address} {proposalId : Nat} :
    approveWithdrawal env storage approver proposalId = .ok after ↔
      storage.pause.paused = false ∧ env.authorized approver = true ∧
        storage.signer approver = true ∧
          ∃ proposal, storage.proposal proposalId = some proposal ∧
            proposal.executed = false ∧ env.timestamp < proposal.expiresAt ∧
              (storage.approval proposalId approver = true ∧ after = storage ∨
                storage.approval proposalId approver = false ∧
                  storage.approvalCount proposalId + 1 < 2 ^ 32 ∧
                    after = { storage with
                      approval := Function.update storage.approval proposalId
                        (Function.update (storage.approval proposalId) approver true)
                      approvalCount := Function.update storage.approvalCount proposalId
                        (storage.approvalCount proposalId + 1) }) := by
  unfold approveWithdrawal
  split <;> simp_all

theorem withdrawalGuards_eq_ok {proposalId : Nat} {proposal : WithdrawalProposal} :
    withdrawalGuards env storage proposalId = .ok proposal ↔
      storage.pause.paused = false ∧ storage.proposal proposalId = some proposal ∧
        env.timestamp < proposal.expiresAt ∧ proposal.executed = false ∧
          storage.threshold ≤ storage.approvalCount proposalId ∧
            proposal.amount ≤ storage.totalBalance ∧
              FitsI128 (storage.totalBalance - proposal.amount) ∧
                storage.minLiquidity ≤ storage.totalBalance - proposal.amount := by
  simp only [withdrawalGuards, Outcome.bind_eq_ok, Pausable.requireNotPaused_eq_ok,
    Outcome.unwrapOr_eq_ok, Outcome.rejectIf_eq_ok, checkedI128_eq_ok, Outcome.pure_eq_ok]
  constructor
  · rintro ⟨_, running, found, stored, _, timely, _, pending, _, approved, _, funded,
      remaining, ⟨fits, rfl⟩, _, liquid, rfl⟩
    exact ⟨running, stored, by omega, by simpa using pending, by omega, by omega, fits,
      by omega⟩
  · rintro ⟨running, stored, timely, pending, approved, funded, fits, liquid⟩
    exact ⟨(), running, proposal, stored, (), by omega, (), by simp [pending], (),
      by omega, (), by omega, _, ⟨fits, rfl⟩, (), by omega, rfl⟩

end Proposals

section Funds

variable {Ledger : Type} {token : TokenInterface Ledger} {env : Env}
variable {state after : State Ledger} {storage credited : Storage}

theorem creditSources_eq_ok {amount : Int} {source : FundSource} :
    creditSources storage amount source = .ok credited ↔
      FitsI128 (storage.totalBalance + amount) ∧
        FitsI128 (storage.balanceBySource source + amount) ∧
          ∃ cumulativeTotal cumulativeSource,
            addToCumulative storage.cumulativeReceived amount = .ok cumulativeTotal ∧
              addToCumulative (storage.cumulativeReceivedBySource source) amount =
                  .ok cumulativeSource ∧
                credited = { storage with
                  totalBalance := storage.totalBalance + amount
                  balanceBySource := Function.update storage.balanceBySource source
                    (storage.balanceBySource source + amount)
                  cumulativeReceived := cumulativeTotal
                  cumulativeReceivedBySource := Function.update
                    storage.cumulativeReceivedBySource source cumulativeSource } := by
  simp only [creditSources, Outcome.bind_eq_ok, checkedI128_eq_ok, Outcome.pure_eq_ok]
  grind

theorem receiveFee_eq_ok {payer : Address} {amount : Int} {source : FundSource} :
    receiveFee token env state payer amount source = .ok after ↔
      state.storage.pause.paused = false ∧ env.authorized payer = true ∧ 0 < amount ∧
        ∃ admin asset,
          state.storage.admin = some admin ∧
            (payer = admin ∨ state.storage.depositor payer = true) ∧
              creditSources state.storage amount source = .ok after.storage ∧
                after.storage.token = some asset ∧
                  token.transfer state.ledger asset payer env.currentContractAddress
                    amount = some after.ledger := by
  simp only [receiveFee, Outcome.bind_eq_ok, Pausable.requireNotPaused_eq_ok,
    requireAuth_eq_ok, Outcome.rejectIf_eq_ok, getAdmin_eq_ok, getToken_eq_ok,
    calling_eq_ok, Outcome.pure_eq_ok]
  constructor
  · rintro ⟨_, running, _, signed, _, positive, admin, stored, _, allowed, credited,
      recorded, asset, configured, ledger, moved, rfl⟩
    exact ⟨running, signed, by omega, admin, asset, stored, by grind, recorded,
      configured, moved⟩
  · rintro ⟨running, signed, positive, admin, asset, stored, allowed, recorded,
      configured, moved⟩
    exact ⟨(), running, (), signed, (), by omega, admin, stored, (), by grind,
      after.storage, recorded, asset, configured, after.ledger, moved, rfl⟩

theorem settle_eq_ok {proposal : WithdrawalProposal} {minAmountOut actual : Int}
    {ledger : Ledger} :
    settle token env state proposal minAmountOut = .ok (ledger, actual) ↔
      ∃ asset, state.storage.token = some asset ∧
        token.transfer state.ledger asset env.currentContractAddress proposal.recipient
            proposal.amount = some ledger ∧
          actual = token.balance ledger asset proposal.recipient
              - token.balance state.ledger asset proposal.recipient ∧
            FitsI128 actual ∧ minAmountOut ≤ actual := by
  simp only [settle, Outcome.bind_eq_ok, getToken_eq_ok, calling_eq_ok,
    checkedI128_eq_ok, Outcome.rejectIf_eq_ok, Outcome.pure_eq_ok, Prod.mk.injEq]
  constructor
  · rintro ⟨asset, configured, found, moved, measured, ⟨fits, rfl⟩, _, enough, rfl, rfl⟩
    exact ⟨asset, configured, moved, rfl, fits, by omega⟩
  · rintro ⟨asset, configured, moved, rfl, fits, enough⟩
    exact ⟨asset, configured, ledger, moved, _, ⟨fits, rfl⟩, (), by omega, rfl, rfl⟩

theorem executeWithdrawal_eq_ok {proposalId : Nat} {minAmountOut : Int} :
    executeWithdrawal token env state proposalId minAmountOut = .ok after ↔
      ∃ proposal actual debited,
        withdrawalGuards env state.storage proposalId = .ok proposal ∧
          settle token env state proposal minAmountOut = .ok (after.ledger, actual) ∧
            debitSources state.storage actual = .ok debited ∧
              after.storage = { debited with
                proposal := Function.update debited.proposal proposalId
                  (some { proposal with executed := true }) } := by
  simp only [executeWithdrawal, Outcome.bind_eq_ok, Outcome.pure_eq_ok]
  constructor
  · rintro ⟨proposal, guarded, ⟨ledger, actual⟩, settled, debited, updated, rfl⟩
    exact ⟨proposal, actual, debited, guarded, settled, updated, rfl⟩
  · rintro ⟨proposal, actual, debited, guarded, settled, updated, stored⟩
    refine ⟨proposal, guarded, ⟨after.ledger, actual⟩, settled, debited, updated, ?_⟩
    cases after
    simp_all

/-- The balance update changes nothing but the balances. -/
theorem debitSources_frame {debited : Storage} {actual : Int}
    (updated : debitSources storage actual = .ok debited) :
    debited = { storage with
      totalBalance := debited.totalBalance
      balanceBySource := debited.balanceBySource } := by
  simp only [debitSources, Outcome.bind_eq_ok, Outcome.pure_eq_ok] at updated
  obtain ⟨_, _, _, _, _, _, _, _, _, _, rfl⟩ := updated
  rfl

/-- Both deductions together are the amount paid. -/
theorem debitSources_lowers {debited : Storage} {actual : Int}
    (updated : debitSources storage actual = .ok debited) :
    debited.totalBalance = storage.totalBalance - actual ∧
      debited.balanceBySource .protocolFee + debited.balanceBySource .slashedFunds =
        storage.balanceBySource .protocolFee + storage.balanceBySource .slashedFunds
          - actual := by
  simp only [debitSources, Outcome.bind_eq_ok, checkedI128_eq_ok, Outcome.pure_eq_ok] at updated
  obtain ⟨_, ⟨-, rfl⟩, protocolDeduction, -, _, ⟨-, rfl⟩, _, ⟨-, rfl⟩, _, ⟨-, rfl⟩, rfl⟩ :=
    updated
  exact ⟨rfl, by simp only; omega⟩

theorem rescueNative_eq_ok {admin recipient : Address} {amount : Int} :
    rescueNative token env state admin recipient amount = .ok after ↔
      state.storage.pause.paused = false ∧ env.authorized admin = true ∧
        state.storage.admin = some admin ∧ 0 < amount ∧
          ∃ asset, state.storage.token = some asset ∧
            FitsI128 (token.balance state.ledger asset env.currentContractAddress
              - state.storage.totalBalance) ∧
              amount ≤ token.balance state.ledger asset env.currentContractAddress
                - state.storage.totalBalance ∧
                token.transfer state.ledger asset env.currentContractAddress recipient
                    amount = some after.ledger ∧
                  after.storage = state.storage := by
  simp only [rescueNative, Outcome.bind_eq_ok, Pausable.requireNotPaused_eq_ok,
    requireAuth_eq_ok, Outcome.rejectIf_eq_ok, getAdmin_eq_ok, getToken_eq_ok,
    checkedI128_eq_ok, calling_eq_ok, Outcome.pure_eq_ok]
  constructor
  · rintro ⟨_, running, _, signed, stored, named, _, same, _, positive, asset, configured,
      excess, ⟨fits, rfl⟩, _, within, ledger, moved, rfl⟩
    obtain rfl : stored = admin := by simpa using same
    exact ⟨running, signed, named, by omega, asset, configured, fits, by omega, moved, rfl⟩
  · rintro ⟨running, signed, named, positive, asset, configured, fits, within, moved, kept⟩
    refine ⟨(), running, (), signed, admin, named, (), by simp, (), by omega, asset,
      configured, _, ⟨fits, rfl⟩, (), by omega, after.ledger, moved, ?_⟩
    cases after
    simp_all

/-- An operation that moves no tokens leaves the token ledger alone. -/
theorem storing_eq_ok {result : Outcome Storage} :
    state.storing result = .ok after ↔
      result = .ok after.storage ∧ after.ledger = state.ledger := by
  cases after
  simp only [State.storing, Outcome.bind_eq_ok, Outcome.pure_eq_ok, State.mk.injEq]
  grind

end Funds

section Changes

variable {Ledger : Type}

/-- Two storages with the same balances and receipts. -/
structure SameFunds (storage other : Storage) : Prop where
  totalBalance : other.totalBalance = storage.totalBalance
  balanceBySource : other.balanceBySource = storage.balanceBySource
  cumulativeReceived : other.cumulativeReceived = storage.cumulativeReceived
  cumulativeReceivedBySource :
    other.cumulativeReceivedBySource = storage.cumulativeReceivedBySource

/-- Two storages with the same signers, proposals and approvals. -/
structure SameProposals (storage other : Storage) : Prop where
  signer : other.signer = storage.signer
  signerCount : other.signerCount = storage.signerCount
  threshold : other.threshold = storage.threshold
  proposalCounter : other.proposalCounter = storage.proposalCounter
  proposal : other.proposal = storage.proposal
  approval : other.approval = storage.approval
  approvalCount : other.approvalCount = storage.approvalCount

/-- Two storages with the same admin, token, signer set and settings. -/
structure SameConfiguration (storage other : Storage) : Prop where
  admin : other.admin = storage.admin
  token : other.token = storage.token
  signer : other.signer = storage.signer
  threshold : other.threshold = storage.threshold
  minLiquidity : other.minLiquidity = storage.minLiquidity
  proposalTtl : other.proposalTtl = storage.proposalTtl

theorem SameConfiguration.refl (storage : Storage) : SameConfiguration storage storage :=
  ⟨rfl, rfl, rfl, rfl, rfl, rfl⟩

theorem SameFunds.refl (storage : Storage) : SameFunds storage storage :=
  ⟨rfl, rfl, rfl, rfl⟩

theorem SameProposals.refl (storage : Storage) : SameProposals storage storage :=
  ⟨rfl, rfl, rfl, rfl, rfl, rfl, rfl⟩

/-- How a step changes the balances. -/
inductive FundsChange (token : TokenInterface Ledger) (self : Address)
    (state : State Ledger) : Label Ledger → State Ledger → Prop where
  | kept {label : Label Ledger} {after : State Ledger} :
      SameFunds state.storage after.storage → FundsChange token self state label after
  | emptied {env : Env} {admin asset : Address} {after : State Ledger} :
      initializeTreasury env state.storage admin asset = .ok after.storage →
      FundsChange token self state ⟨env, .call (.initializeTreasury admin asset)⟩ after
  | deposited {env : Env} {payer : Address} {amount : Int} {source : FundSource}
      {after : State Ledger} :
      0 < amount → creditSources state.storage amount source = .ok after.storage →
      FundsChange token self state ⟨env, .call (.receiveFee payer amount source)⟩ after
  | withdrawn {env : Env} {proposalId : Nat} {minAmountOut actual : Int}
      {proposal : WithdrawalProposal} {debited : Storage} {ledger : Ledger} :
      env.currentContractAddress = self →
      withdrawalGuards env state.storage proposalId = .ok proposal →
      settle token env state proposal minAmountOut = .ok (ledger, actual) →
      debitSources state.storage actual = .ok debited →
      FundsChange token self state ⟨env, .call (.executeWithdrawal proposalId minAmountOut)⟩
        ⟨{ debited with
          proposal := Function.update debited.proposal proposalId
            (some { proposal with executed := true }) }, ledger⟩

/-- How a step changes signers, proposals and approvals. -/
inductive ProposalChange (token : TokenInterface Ledger) (self : Address)
    (state : State Ledger) : Label Ledger → State Ledger → Prop where
  | kept {label : Label Ledger} {after : State Ledger} :
      SameProposals state.storage after.storage → ProposalChange token self state label after
  | restarted {env : Env} {admin asset : Address} {after : State Ledger} :
      initializeTreasury env state.storage admin asset = .ok after.storage →
      ProposalChange token self state ⟨env, .call (.initializeTreasury admin asset)⟩ after
  | signerAdded {env : Env} {signer : Address} :
      state.storage.signer signer = false →
      ProposalChange token self state ⟨env, .call (.addSigner signer)⟩
        { state with storage := { state.storage with
          signer := Function.update state.storage.signer signer true
          signerCount := some (state.storage.signerCount.getD 0 + 1) } }
  | signerRemoved {env : Env} {signer : Address} :
      state.storage.signer signer = true →
      ProposalChange token self state ⟨env, .call (.removeSigner signer)⟩
        { state with storage := { state.storage with
          signer := Function.update state.storage.signer signer false
          signerCount := some (state.storage.signerCount.getD 1 - 1)
          threshold := min state.storage.threshold
            (state.storage.signerCount.getD 1 - 1) } }
  | thresholdSet {env : Env} {threshold : Nat} :
      threshold ≤ state.storage.signerCount.getD 0 →
      ProposalChange token self state ⟨env, .call (.setThreshold threshold)⟩
        { state with storage := { state.storage with threshold } }
  | proposed {env : Env} {proposer recipient : Address} {amount : Int}
      {after : State Ledger} {id : Nat} :
      proposeWithdrawal env state.storage proposer recipient amount =
        .ok (after.storage, id) →
      ProposalChange token self state ⟨env, .call (.proposeWithdrawal proposer recipient amount)⟩
        after
  | approved {env : Env} {approver : Address} {proposalId : Nat}
      {proposal : WithdrawalProposal} :
      state.storage.signer approver = true →
      state.storage.proposal proposalId = some proposal →
      proposal.executed = false → env.timestamp < proposal.expiresAt →
      state.storage.approval proposalId approver = false →
      ProposalChange token self state ⟨env, .call (.approveWithdrawal approver proposalId)⟩
        { state with storage := { state.storage with
          approval := Function.update state.storage.approval proposalId
            (Function.update (state.storage.approval proposalId) approver true)
          approvalCount := Function.update state.storage.approvalCount proposalId
            (state.storage.approvalCount proposalId + 1) } }
  | executed {env : Env} {proposalId : Nat} {minAmountOut actual : Int}
      {proposal : WithdrawalProposal} {debited : Storage} {ledger : Ledger} :
      env.currentContractAddress = self →
      withdrawalGuards env state.storage proposalId = .ok proposal →
      settle token env state proposal minAmountOut = .ok (ledger, actual) →
      debitSources state.storage actual = .ok debited →
      ProposalChange token self state ⟨env, .call (.executeWithdrawal proposalId minAmountOut)⟩
        ⟨{ debited with
          proposal := Function.update debited.proposal proposalId
            (some { proposal with executed := true }) }, ledger⟩

/-- How a step changes the configuration. -/
inductive ConfigurationChange (state : State Ledger) : Label Ledger → State Ledger → Prop where
  | kept {label : Label Ledger} {after : State Ledger} :
      SameConfiguration state.storage after.storage → ConfigurationChange state label after
  | restarted {env : Env} {admin asset : Address} {after : State Ledger} :
      initializeTreasury env state.storage admin asset = .ok after.storage →
      ConfigurationChange state ⟨env, .call (.initializeTreasury admin asset)⟩ after
  | tokenReplaced {env : Env} {admin asset : Address} {after : State Ledger} :
      AdminCall env state.storage → after.storage.admin = state.storage.admin →
      after.storage.token = some asset →
      ConfigurationChange state ⟨env, .call (.setToken admin asset)⟩ after
  | administered {env : Env} {call : Call} {after : State Ledger} :
      AdminCall env state.storage → after.storage.admin = state.storage.admin →
      after.storage.token = state.storage.token →
      ConfigurationChange state ⟨env, .call call⟩ after

variable {token : TokenInterface Ledger} {self : Address} {label : Label Ledger}
variable {state after : State Ledger}

theorem creditSources_sameProposals {storage credited : Storage} {amount : Int}
    {source : FundSource} (recorded : creditSources storage amount source = .ok credited) :
    SameProposals storage credited := by
  obtain ⟨_, _, _, _, _, _, rfl⟩ := creditSources_eq_ok.mp recorded
  exact ⟨rfl, rfl, rfl, rfl, rfl, rfl, rfl⟩

/-- A pause call leaves everything but the pause entries alone. -/
theorem pausable_eq_ok {env : Env} {storage stored : Storage} {call : Pausable.Call}
    (accepted : (do
      let pause ← Pausable.invoke env storage.admin storage.pause call
      return { storage with pause } : Outcome Storage) = .ok stored) :
    stored = { storage with pause := stored.pause } := by
  simp only [Outcome.bind_eq_ok, Outcome.pure_eq_ok] at accepted
  obtain ⟨_, _, rfl⟩ := accepted
  rfl

/-- Every step of the treasury keeps its balances, empties them, takes a
deposit or pays a withdrawal; and it keeps its signers, proposals and approvals
or changes them in one of seven ways. -/
theorem step_changes (stepped : Step token self state label after) :
    FundsChange token self state label after ∧ ProposalChange token self state label after := by
  cases stepped with
  | elsewhere => exact ⟨.kept (.refl _), .kept (.refl _)⟩
  | @call env _ _ call addressed accepted =>
      cases call with
      | initializeTreasury admin asset =>
          have reset := (storing_eq_ok.mp accepted).1
          exact ⟨.emptied reset, .restarted reset⟩
      | receiveFee payer amount source =>
          obtain ⟨_, _, positive, _, _, _, _, recorded, _⟩ := receiveFee_eq_ok.mp accepted
          exact ⟨.deposited positive recorded, .kept (creditSources_sameProposals recorded)⟩
      | executeWithdrawal proposalId minAmountOut =>
          obtain ⟨proposal, actual, debited, guarded, settled, updated, stored⟩ :=
            executeWithdrawal_eq_ok.mp accepted
          cases after
          cases stored
          exact ⟨.withdrawn addressed guarded settled updated,
            .executed addressed guarded settled updated⟩
      | rescueNative admin recipient amount =>
          obtain ⟨_, _, _, _, _, _, _, _, _, kept⟩ := rescueNative_eq_ok.mp accepted
          exact ⟨.kept (kept ▸ .refl _), .kept (kept ▸ .refl _)⟩
      | addDepositor depositor =>
          obtain ⟨_, ⟨_, kept⟩ | ⟨_, kept⟩⟩ :=
            addDepositor_eq_ok.mp (storing_eq_ok.mp accepted).1 <;>
          exact ⟨.kept (kept ▸ ⟨rfl, rfl, rfl, rfl⟩),
            .kept (kept ▸ ⟨rfl, rfl, rfl, rfl, rfl, rfl, rfl⟩)⟩
      | removeDepositor depositor =>
          obtain ⟨_, kept⟩ := removeDepositor_eq_ok.mp (storing_eq_ok.mp accepted).1
          exact ⟨.kept (kept ▸ ⟨rfl, rfl, rfl, rfl⟩),
            .kept (kept ▸ ⟨rfl, rfl, rfl, rfl, rfl, rfl, rfl⟩)⟩
      | addSigner signer =>
          obtain ⟨stored, ledgerKept⟩ := storing_eq_ok.mp accepted
          obtain ⟨_, ⟨_, kept⟩ | ⟨absent, _, changed⟩⟩ := addSigner_eq_ok.mp stored
          · exact ⟨.kept (kept ▸ .refl _), .kept (kept ▸ .refl _)⟩
          · cases after
            cases changed
            cases ledgerKept
            exact ⟨.kept ⟨rfl, rfl, rfl, rfl⟩, .signerAdded absent⟩
      | removeSigner signer =>
          obtain ⟨stored, ledgerKept⟩ := storing_eq_ok.mp accepted
          obtain ⟨_, ⟨_, kept⟩ | ⟨present, changed⟩⟩ := removeSigner_eq_ok.mp stored
          · exact ⟨.kept (kept ▸ .refl _), .kept (kept ▸ .refl _)⟩
          · cases after
            cases changed
            cases ledgerKept
            exact ⟨.kept ⟨rfl, rfl, rfl, rfl⟩, .signerRemoved present⟩
      | setThreshold threshold =>
          obtain ⟨stored, ledgerKept⟩ := storing_eq_ok.mp accepted
          obtain ⟨_, bounded, changed⟩ := setThreshold_eq_ok.mp stored
          cases after
          cases changed
          cases ledgerKept
          exact ⟨.kept ⟨rfl, rfl, rfl, rfl⟩, .thresholdSet bounded⟩
      | proposeWithdrawal proposer recipient amount =>
          obtain ⟨⟨stored, id⟩, proposed, same⟩ :=
            Outcome.map_eq_ok.mp (storing_eq_ok.mp accepted).1
          obtain rfl : after.storage = stored := same
          obtain ⟨_, _, _, _, _, _, _, _, _, kept⟩ := proposeWithdrawal_eq_ok.mp proposed
          exact ⟨.kept (kept ▸ ⟨rfl, rfl, rfl, rfl⟩), .proposed proposed⟩
      | approveWithdrawal approver proposalId =>
          obtain ⟨stored, ledgerKept⟩ := storing_eq_ok.mp accepted
          obtain ⟨_, _, member, proposal, found, pending, timely,
            ⟨_, kept⟩ | ⟨fresh, _, changed⟩⟩ := approveWithdrawal_eq_ok.mp stored
          · exact ⟨.kept (kept ▸ .refl _), .kept (kept ▸ .refl _)⟩
          · cases after
            cases changed
            cases ledgerKept
            exact ⟨.kept ⟨rfl, rfl, rfl, rfl⟩, .approved member found pending timely fresh⟩
      | setToken admin asset =>
          obtain ⟨_, _, kept⟩ := setToken_eq_ok.mp (storing_eq_ok.mp accepted).1
          exact ⟨.kept (kept ▸ ⟨rfl, rfl, rfl, rfl⟩),
            .kept (kept ▸ ⟨rfl, rfl, rfl, rfl, rfl, rfl, rfl⟩)⟩
      | setMinLiquidity admin minLiquidity =>
          obtain ⟨_, _, kept⟩ := setMinLiquidity_eq_ok.mp (storing_eq_ok.mp accepted).1
          exact ⟨.kept (kept ▸ ⟨rfl, rfl, rfl, rfl⟩),
            .kept (kept ▸ ⟨rfl, rfl, rfl, rfl, rfl, rfl, rfl⟩)⟩
      | setProposalTtl admin ttl =>
          obtain ⟨_, _, kept⟩ := setProposalTtl_eq_ok.mp (storing_eq_ok.mp accepted).1
          exact ⟨.kept (kept ▸ ⟨rfl, rfl, rfl, rfl⟩),
            .kept (kept ▸ ⟨rfl, rfl, rfl, rfl, rfl, rfl, rfl⟩)⟩
      | pausable call =>
          have kept := pausable_eq_ok (storing_eq_ok.mp accepted).1
          exact ⟨.kept (kept ▸ ⟨rfl, rfl, rfl, rfl⟩),
            .kept (kept ▸ ⟨rfl, rfl, rfl, rfl, rfl, rfl, rfl⟩)⟩

/-- Every step keeps the configuration, restarts the treasury, or is a call that
the stored admin authorised; only the replacement of the token changes it. -/
theorem step_configuration (stepped : Step token self state label after) :
    ConfigurationChange state label after := by
  cases stepped with
  | elsewhere => exact .kept (.refl _)
  | @call env _ _ call addressed accepted =>
      cases call with
      | initializeTreasury admin asset => exact .restarted (storing_eq_ok.mp accepted).1
      | receiveFee payer amount source =>
          obtain ⟨-, -, -, -, -, -, -, recorded, -⟩ := receiveFee_eq_ok.mp accepted
          obtain ⟨-, -, _, _, -, -, credited⟩ := creditSources_eq_ok.mp recorded
          exact .kept (credited ▸ ⟨rfl, rfl, rfl, rfl, rfl, rfl⟩)
      | executeWithdrawal proposalId minAmountOut =>
          obtain ⟨proposal, actual, debited, -, -, updated, stored⟩ :=
            executeWithdrawal_eq_ok.mp accepted
          rw [debitSources_frame updated] at stored
          exact .kept (stored ▸ ⟨rfl, rfl, rfl, rfl, rfl, rfl⟩)
      | rescueNative admin recipient amount =>
          obtain ⟨-, -, -, -, -, -, -, -, -, kept⟩ := rescueNative_eq_ok.mp accepted
          exact .kept (kept ▸ .refl _)
      | addDepositor depositor =>
          obtain ⟨-, ⟨-, kept⟩ | ⟨-, kept⟩⟩ :=
            addDepositor_eq_ok.mp (storing_eq_ok.mp accepted).1 <;>
          exact .kept (kept ▸ ⟨rfl, rfl, rfl, rfl, rfl, rfl⟩)
      | removeDepositor depositor =>
          obtain ⟨-, kept⟩ := removeDepositor_eq_ok.mp (storing_eq_ok.mp accepted).1
          exact .kept (kept ▸ ⟨rfl, rfl, rfl, rfl, rfl, rfl⟩)
      | addSigner signer =>
          obtain ⟨admitted, ⟨-, kept⟩ | ⟨-, -, kept⟩⟩ :=
            addSigner_eq_ok.mp (storing_eq_ok.mp accepted).1 <;>
          exact .administered admitted (by rw [kept]) (by rw [kept])
      | removeSigner signer =>
          obtain ⟨admitted, ⟨-, kept⟩ | ⟨-, kept⟩⟩ :=
            removeSigner_eq_ok.mp (storing_eq_ok.mp accepted).1 <;>
          exact .administered admitted (by rw [kept]) (by rw [kept])
      | setThreshold threshold =>
          obtain ⟨admitted, -, kept⟩ := setThreshold_eq_ok.mp (storing_eq_ok.mp accepted).1
          exact .administered admitted (by rw [kept]) (by rw [kept])
      | proposeWithdrawal proposer recipient amount =>
          obtain ⟨⟨stored, id⟩, proposed, same⟩ :=
            Outcome.map_eq_ok.mp (storing_eq_ok.mp accepted).1
          obtain rfl : after.storage = stored := same
          obtain ⟨-, -, -, -, -, -, -, _, -, kept⟩ := proposeWithdrawal_eq_ok.mp proposed
          exact .kept (kept ▸ ⟨rfl, rfl, rfl, rfl, rfl, rfl⟩)
      | approveWithdrawal approver proposalId =>
          obtain ⟨-, -, -, -, -, -, -, ⟨-, kept⟩ | ⟨-, -, kept⟩⟩ :=
            approveWithdrawal_eq_ok.mp (storing_eq_ok.mp accepted).1 <;>
          exact .kept (kept ▸ ⟨rfl, rfl, rfl, rfl, rfl, rfl⟩)
      | setToken admin asset =>
          obtain ⟨admitted, -, kept⟩ := setToken_eq_ok.mp (storing_eq_ok.mp accepted).1
          exact .tokenReplaced admitted (by rw [kept]) (by rw [kept])
      | setMinLiquidity admin minLiquidity =>
          obtain ⟨admitted, -, kept⟩ := setMinLiquidity_eq_ok.mp (storing_eq_ok.mp accepted).1
          exact .administered admitted (by rw [kept]) (by rw [kept])
      | setProposalTtl admin ttl =>
          obtain ⟨admitted, -, kept⟩ := setProposalTtl_eq_ok.mp (storing_eq_ok.mp accepted).1
          exact .administered admitted (by rw [kept]) (by rw [kept])
      | pausable call =>
          have kept := pausable_eq_ok (storing_eq_ok.mp accepted).1
          exact .kept (kept ▸ ⟨rfl, rfl, rfl, rfl, rfl, rfl⟩)

end Changes

end Treasury
