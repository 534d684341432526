import CredenceContracts.Library.Proportion
import CredenceContracts.Treasury.Spec

/-!
# Per-source reconciliation

The two source balances always make up the recorded total, and a withdrawal
that reaches the balance update completes it, whatever part of the amount the
token credited.
-/

namespace Treasury

open Soroban MachineInt Transition

/-- The sources make up the total and neither is overdrawn. -/
structure Reconciled (storage : Storage) : Prop where
  total : storage.balanceBySource .protocolFee + storage.balanceBySource .slashedFunds =
    storage.totalBalance
  protocolFee : 0 ≤ storage.balanceBySource .protocolFee
  slashedFunds : 0 ≤ storage.balanceBySource .slashedFunds
  fits : FitsI128 storage.totalBalance

/-- Only positive amounts are proposed. -/
def PositiveProposals (storage : Storage) : Prop :=
  ∀ id proposal, storage.proposal id = some proposal → 0 < proposal.amount

section Debit

variable {storage : Storage} {part amount whole : Int}

/-- Where the amount is within the total, the deduction is the rounded share. -/
theorem proportionalDeduction_eq_share (nonnegative : 0 ≤ part) (contained : part ≤ whole)
    (amountNonnegative : 0 ≤ amount) (bounded : amount ≤ whole) (fits : FitsI128 whole) :
    proportionalDeduction part amount whole = .ok (Proportion.share part amount whole) := by
  unfold proportionalDeduction
  split
  · rename_i trivial
    rcases trivial with rfl | rfl <;> simp
  · rename_i nontrivial
    have positive : 0 < whole := by omega
    split
    · rename_i everything
      simp [everything, Proportion.share_whole positive]
    · have shareNonneg :=
        Proportion.share_nonneg nonnegative contained amountNonnegative
      have shareBounded :=
        Proportion.share_le_amount nonnegative contained amountNonnegative
      have exact : ((part.toNat * amount.toNat / whole.toNat : Nat) : Int) =
          Proportion.share part amount whole := by
        simp [Proportion.share, nonnegative, amountNonnegative, positive.le]
      have small : part.toNat * amount.toNat / whole.toNat < 2 ^ 127 := by
        unfold FitsI128 at fits
        omega
      have available : whole.toNat ≠ 0 := by omega
      simp only [toU128, nonnegative, amountNonnegative, positive.le, if_true, bind,
        Except.bind, Outcome.rejectIf, available, if_false]
      rw [Nat.mod_eq_of_lt (small.trans (by decide))]
      exact toI128_eq_ok.mpr ⟨small, exact.symm⟩

/-- A balance update for an amount within a reconciled total succeeds: the
slashed balance covers what the rounded protocol share leaves. -/
theorem debitSources_of_reconciled (reconciled : Reconciled storage)
    (nonnegative : 0 ≤ amount) (bounded : amount ≤ storage.totalBalance) :
    amount - Proportion.share (storage.balanceBySource .protocolFee) amount
        storage.totalBalance ≤ storage.balanceBySource .slashedFunds ∧
      ∃ debited, debitSources storage amount = .ok debited ∧ Reconciled debited := by
  obtain ⟨total, protocolFee, slashedFunds, fits⟩ := reconciled
  have contained : storage.balanceBySource .protocolFee ≤ storage.totalBalance := by omega
  have shared := proportionalDeduction_eq_share protocolFee contained nonnegative bounded
    fits
  have shareNonneg := Proportion.share_nonneg protocolFee contained nonnegative
  have shareAmount := Proportion.share_le_amount protocolFee contained nonnegative
  have sharePart := Proportion.share_le_part protocolFee contained bounded
  have rest := Proportion.rest_le_complement protocolFee contained bounded
  generalize Proportion.share (storage.balanceBySource .protocolFee) amount
    storage.totalBalance = deduction at *
  have inRange {value : Int} (low : 0 ≤ value) (high : value ≤ storage.totalBalance) :
      FitsI128 value := FitsI128.zero.between fits low high
  obtain ⟨debited, updated, left, protocolLeft, slashedLeft⟩ : ∃ debited,
      debitSources storage amount = .ok debited ∧
        debited.totalBalance = storage.totalBalance - amount ∧
        debited.balanceBySource .protocolFee =
          storage.balanceBySource .protocolFee - deduction ∧
        debited.balanceBySource .slashedFunds =
          storage.balanceBySource .slashedFunds - (amount - deduction) := by
    simp only [debitSources, Outcome.bind_eq_ok, checkedI128_eq_ok, Outcome.pure_eq_ok]
    exact ⟨_, ⟨_, ⟨inRange (by omega) (by omega), rfl⟩, deduction, shared,
      _, ⟨inRange (by omega) (by omega), rfl⟩, _, ⟨inRange (by omega) (by omega), rfl⟩,
      _, ⟨inRange (by omega) (by omega), rfl⟩, rfl⟩, rfl, rfl, rfl⟩
  exact ⟨by omega, debited, updated, by omega, by omega, by omega, inRange (by omega) (by omega)⟩

end Debit

section Runs

variable {Ledger : Type} {token : TokenInterface Ledger} {self : Address}
variable {state after : State Ledger} {label : Label Ledger}

/-- A reconciled treasury proposes only positive amounts. -/
structure Sound (storage : Storage) : Prop where
  reconciled : Reconciled storage
  positive : PositiveProposals storage

theorem sound_deployed : Sound .deployed where
  reconciled := ⟨rfl, le_rfl, le_rfl, FitsI128.zero⟩
  positive := by simp [PositiveProposals, Storage.deployed]

/-- What a settled withdrawal moved is within the total it is taken from. -/
theorem settled_within_total (credits : token.CreditsAtMost self) {env : Env}
    {proposalId : Nat} {minAmountOut actual : Int} {proposal : WithdrawalProposal}
    {ledger : Ledger} (sound : Sound state.storage)
    (addressed : env.currentContractAddress = self)
    (guarded : withdrawalGuards env state.storage proposalId = .ok proposal)
    (settled : settle token env state proposal minAmountOut = .ok (ledger, actual)) :
    0 ≤ actual ∧ actual ≤ state.storage.totalBalance := by
  obtain ⟨_, stored, _, _, _, funded, _⟩ := withdrawalGuards_eq_ok.mp guarded
  obtain ⟨asset, _, moved, measured, _⟩ := settle_eq_ok.mp settled
  have positive := sound.positive proposalId proposal stored
  rw [addressed] at moved
  have credited := credits positive.le moved
  omega

theorem creditSources_reconciled {storage credited : Storage} {amount : Int}
    {source : FundSource} (reconciled : Reconciled storage) (positive : 0 < amount)
    (recorded : creditSources storage amount source = .ok credited) :
    Reconciled credited := by
  obtain ⟨total, protocolFee, slashedFunds, fits⟩ := reconciled
  obtain ⟨totalFits, _, _, _, _, _, rfl⟩ := creditSources_eq_ok.mp recorded
  cases source <;>
  refine ⟨?_, ?_, ?_, totalFits⟩ <;>
  simp only [Function.update_self, Function.update_of_ne, ne_eq, reduceCtorEq,
    not_false_eq_true] <;>
  omega

theorem step_reconciled (credits : token.CreditsAtMost self) (sound : Sound state.storage)
    (stepped : Step token self state label after) : Reconciled after.storage := by
  cases (step_changes stepped).1 with
  | kept same =>
      obtain ⟨total, protocolFee, slashedFunds, fits⟩ := sound.reconciled
      obtain ⟨totalSame, sourcesSame, _, _⟩ := same
      exact ⟨by rw [sourcesSame, totalSame]; exact total, by rw [sourcesSame]; exact protocolFee,
        by rw [sourcesSame]; exact slashedFunds, by rw [totalSame]; exact fits⟩
  | emptied reset =>
      obtain ⟨_, stored⟩ := initializeTreasury_eq_ok.mp reset
      rw [stored]
      exact ⟨rfl, le_rfl, le_rfl, FitsI128.zero⟩
  | deposited positive recorded =>
      exact creditSources_reconciled sound.reconciled positive recorded
  | withdrawn addressed guarded settled updated =>
      obtain ⟨nonnegative, bounded⟩ :=
        settled_within_total credits sound addressed guarded settled
      obtain ⟨_, debited, other, reconciled⟩ :=
        debitSources_of_reconciled sound.reconciled nonnegative bounded
      obtain rfl : _ = debited := Except.ok.inj (updated.symm.trans other)
      exact ⟨reconciled.total, reconciled.protocolFee, reconciled.slashedFunds,
        reconciled.fits⟩

theorem step_positive (positive : PositiveProposals state.storage)
    (stepped : Step token self state label after) : PositiveProposals after.storage := by
  cases (step_changes stepped).2 with
  | kept same => simpa [PositiveProposals, same.proposal] using positive
  | restarted reset =>
      obtain ⟨_, stored⟩ := initializeTreasury_eq_ok.mp reset
      simpa [PositiveProposals, stored] using positive
  | proposed created =>
      obtain ⟨_, _, _, someAmount, _, _, _, _, _, stored⟩ :=
        proposeWithdrawal_eq_ok.mp created
      intro id proposal found
      simp only [stored, Function.update_apply] at found
      split at found
      · cases found
        exact someAmount
      · exact positive id proposal found
  | @executed _ proposalId _ _ proposal _ _ addressed guarded settled updated =>
      obtain ⟨_, pending, _⟩ := withdrawalGuards_eq_ok.mp guarded
      rw [debitSources_frame updated]
      intro id other found
      simp only [Function.update_apply] at found
      split at found
      · cases found
        exact positive _ proposal pending
      · exact positive id other found
  | _ => exact positive

theorem step_sound (credits : token.CreditsAtMost self) (sound : Sound state.storage)
    (stepped : Step token self state label after) : Sound after.storage where
  reconciled := step_reconciled credits sound stepped
  positive := step_positive sound.positive stepped

/-- Along every run of a treasury the sources make up the total and neither is
overdrawn, and a withdrawal that was settled always completes its balance
update. -/
theorem sources_reconcile (credits : token.CreditsAtMost self) {ledger : Ledger}
    {trace : List (Event (State Ledger) (Label Ledger))}
    (run : Run (Step token self) ⟨.deployed, ledger⟩ trace state) :
    (state.storage.balanceBySource .protocolFee + state.storage.balanceBySource .slashedFunds =
        state.storage.totalBalance ∧
      0 ≤ state.storage.balanceBySource .protocolFee ∧
        0 ≤ state.storage.balanceBySource .slashedFunds) ∧
      ∀ {env : Env} {proposalId : Nat} {minAmountOut actual : Int}
        {proposal : WithdrawalProposal} {paid : Ledger},
        env.currentContractAddress = self →
        withdrawalGuards env state.storage proposalId = .ok proposal →
        settle token env state proposal minAmountOut = .ok (paid, actual) →
          proportionalDeduction (state.storage.balanceBySource .protocolFee) actual
              state.storage.totalBalance =
            .ok (state.storage.balanceBySource .protocolFee * actual
              / state.storage.totalBalance) ∧
          actual - state.storage.balanceBySource .protocolFee * actual
              / state.storage.totalBalance ≤
            state.storage.balanceBySource .slashedFunds ∧
          ∃ debited, debitSources state.storage actual = .ok debited := by
  have sound : Sound state.storage :=
    run.invariant (fun state => Sound state.storage) sound_deployed
      fun _ before stepped => step_sound credits before stepped
  obtain ⟨total, protocolFee, slashedFunds, fits⟩ := sound.reconciled
  refine ⟨⟨total, protocolFee, slashedFunds⟩, ?_⟩
  intro env proposalId minAmountOut actual proposal paid addressed guarded settled
  obtain ⟨nonnegative, bounded⟩ :=
    settled_within_total credits sound addressed guarded settled
  obtain ⟨covered, debited, updated, _⟩ :=
    debitSources_of_reconciled sound.reconciled nonnegative bounded
  exact ⟨proportionalDeduction_eq_share protocolFee (by omega) nonnegative bounded fits,
    covered, debited, updated⟩

end Runs

section Sample

/-- Deposits of ten and three units, and an approved proposal to pay seven. -/
def sampleCalls : List (Label ReferenceLedger) :=
  [ ⟨.signedByAll ⟨0⟩ 1, .call (.initializeTreasury ⟨1⟩ ⟨9⟩)⟩,
    ⟨.signedByAll ⟨0⟩ 2, .call (.addSigner ⟨2⟩)⟩,
    ⟨.signedByAll ⟨0⟩ 3, .call (.setThreshold 1)⟩,
    ⟨.signedByAll ⟨0⟩ 4, .call (.receiveFee ⟨1⟩ 10 .protocolFee)⟩,
    ⟨.signedByAll ⟨0⟩ 5, .call (.receiveFee ⟨1⟩ 3 .slashedFunds)⟩,
    ⟨.signedByAll ⟨0⟩ 6, .call (.proposeWithdrawal ⟨2⟩ ⟨5⟩ 7)⟩,
    ⟨.signedByAll ⟨0⟩ 7, .call (.approveWithdrawal ⟨2⟩ 0)⟩ ]

theorem sources_reconcile_sample :
    ∃ trace state debited,
      Run (Step ReferenceLedger.token ⟨0⟩) ⟨.deployed, .uniform 100⟩ trace state ∧
        state.storage.balanceBySource .protocolFee = 10 ∧
          state.storage.balanceBySource .slashedFunds = 3 ∧
            proportionalDeduction 10 7 13 = .ok 5 ∧ (7 - 5 : Int) ≤ 3 ∧
              debitSources state.storage 7 = .ok debited := by
  obtain ⟨trace, run, -⟩ := run_of_replay step_of_next
    (rfl : replay (next ReferenceLedger.token ⟨0⟩) ⟨.deployed, .uniform 100⟩ sampleCalls =
      some _)
  obtain ⟨-, settling⟩ := sources_reconcile (ReferenceLedger.creditsAtMost ⟨0⟩) run
  obtain ⟨deducted, covered, debited, updated⟩ := @settling (.signedByAll ⟨0⟩ 8) 0 0 7 _ _ rfl
    (withdrawalGuards_eq_ok.mpr ⟨rfl, rfl, by decide, rfl, by decide, by decide,
      by decide, by decide⟩)
    (settle_eq_ok.mpr ⟨_, rfl, rfl, by decide, by decide, by decide⟩)
  exact ⟨trace, _, debited, run, rfl, rfl, deducted, covered, updated⟩

end Sample

end Treasury
