import CredenceContracts.Treasury.Solvency

/-!
# The ledger and the outflow

A withdrawal is measured where it arrives.  With a token that may lose a part of a
payment on the way, the treasury pays the whole amount and writes off what arrived,
so that its ledger follows its own outflow exactly when the payment arrives in full.
Every loss is counted in the total from then on, and no token stands for it.
-/

namespace Treasury

open Soroban Transition

variable {Ledger : Type} {token : TokenInterface Ledger} {self asset : Address}
variable {state after : State Ledger} {label : Label Ledger} {env : Env}

/-- What the treasury holds beyond the recorded total. -/
def surplus (token : TokenInterface Ledger) (treasury asset : Address)
    (state : State Ledger) : Int :=
  held token treasury asset state.ledger - state.storage.totalBalance

/-- The payment of a proposal arrives in full. -/
def PaysInFull (token : TokenInterface Ledger) (treasury : Address) (state : State Ledger)
    (proposalId : Nat) : Prop :=
  ∀ proposal asset ledger, state.storage.proposal proposalId = some proposal →
    state.storage.token = some asset →
      token.transfer state.ledger asset treasury proposal.recipient proposal.amount =
          some ledger →
        token.Delivers asset treasury proposal.recipient proposal.amount proposal.amount
          state.ledger ledger

/-- Every withdrawal pays in full. -/
def WithdrawsInFull (token : TokenInterface Ledger) (self : Address)
    (event : Event (State Ledger) (Label Ledger)) : Prop :=
  ∀ proposalId minAmountOut,
    event.label.act = .call (.executeWithdrawal proposalId minAmountOut) →
      PaysInFull token self event.before proposalId

/-- Nothing but withdrawals and rescues moves the treasury's tokens, and it keeps its
token. -/
def WithdrawsOnly (token : TokenInterface Ledger) (self asset : Address)
    (event : Event (State Ledger) (Label Ledger)) : Prop :=
  match event.label.act with
  | .call (.initializeTreasury _ _) | .call (.receiveFee _ _ _) => False
  | .call (.setToken _ replacement) => replacement = asset
  | .call _ => True
  | .elsewhere ledger => held token self asset ledger = held token self asset event.before.ledger

section Steps

/-- A payment loses what its recipient is not credited with, and that is nothing exactly
when it arrives in full. -/
theorem surplus_executeWithdrawal (lossy : token.Lossy)
    (configured : state.storage.token = some asset) {proposalId : Nat} {minAmountOut : Int}
    (accepted : executeWithdrawal token env state proposalId minAmountOut = .ok after) :
    after.storage.token = some asset ∧
      surplus token env.currentContractAddress asset after ≤
        surplus token env.currentContractAddress asset state ∧
      (surplus token env.currentContractAddress asset after =
          surplus token env.currentContractAddress asset state ↔
        PaysInFull token env.currentContractAddress state proposalId) := by
  obtain ⟨proposal, actual, debited, guarded, settled, updated, stored⟩ :=
    executeWithdrawal_eq_ok.mp accepted
  obtain ⟨-, found, -⟩ := withdrawalGuards_eq_ok.mp guarded
  obtain ⟨other, named, moved, measured, -, -⟩ := settle_eq_ok.mp settled
  obtain rfl : other = asset := Option.some.inj (named.symm.trans configured)
  obtain ⟨credited, -, within, delivered⟩ := lossy moved
  have paid := delivered env.currentContractAddress (.inl rfl)
  have received := delivered proposal.recipient (.inr rfl)
  have lowered : after.storage.totalBalance = state.storage.totalBalance - actual := by
    rw [stored]
    exact (debitSources_lowers updated).1
  have full : PaysInFull token env.currentContractAddress state proposalId ↔
      credited = proposal.amount := by
    constructor
    · intro pays
      have whole := pays proposal other _ found named moved proposal.recipient (.inr rfl)
      simp only [if_true] at whole received
      omega
    · rintro rfl found' named' ledger again stands transferred
      obtain rfl := Option.some.inj (found.symm.trans again)
      obtain rfl := Option.some.inj (named.symm.trans stands)
      obtain rfl := Option.some.inj (moved.symm.trans transferred)
      exact delivered
  refine ⟨?_, ?_⟩
  · rw [stored, debitSources_frame updated]
    exact configured
  · rw [full]
    simp only [surplus, held, lowered, measured]
    -- what a payment to the treasury itself loses is even added to the total
    by_cases itself : proposal.recipient = env.currentContractAddress
    · simp only [itself, if_true] at paid received ⊢
      omega
    · simp only [if_true, if_neg itself, if_neg (Ne.symm itself)] at paid received
      omega

/-- A rescue takes from the surplus only, and leaves none of it below zero. -/
theorem surplus_rescueNative (lossy : token.Lossy)
    (configured : state.storage.token = some asset) {admin recipient : Address} {amount : Int}
    (accepted : rescueNative token env state admin recipient amount = .ok after) :
    after.storage.token = some asset ∧
      0 < surplus token env.currentContractAddress asset state ∧
        0 ≤ surplus token env.currentContractAddress asset after := by
  obtain ⟨-, -, -, positive, other, named, -, within, moved, kept⟩ :=
    rescueNative_eq_ok.mp accepted
  obtain rfl : other = asset := Option.some.inj (named.symm.trans configured)
  obtain ⟨credited, nonnegative, -, delivered⟩ := lossy moved
  have paid := delivered env.currentContractAddress (.inl rfl)
  simp only [surplus, held, kept, if_true] at paid ⊢
  refine ⟨configured, by omega, ?_⟩
  split at paid <;> omega

/-- An allowed step that is no withdrawal and finds nothing to rescue changes neither side
of the ledger. -/
theorem surplus_step (lossy : token.Lossy) (configured : state.storage.token = some asset)
    (stepped : Step token self state label after)
    (allowed : WithdrawsOnly token self asset ⟨state, label, after⟩) :
    after.storage.token = some asset ∧
      ((∃ proposalId minAmountOut,
          label.act = .call (.executeWithdrawal proposalId minAmountOut) ∧
            surplus token self asset after ≤ surplus token self asset state ∧
            (surplus token self asset after = surplus token self asset state ↔
              PaysInFull token self state proposalId)) ∨
        (∀ proposalId minAmountOut,
          label.act ≠ .call (.executeWithdrawal proposalId minAmountOut)) ∧
          (surplus token self asset after = surplus token self asset state ∨
            0 < surplus token self asset state ∧ 0 ≤ surplus token self asset after)) := by
  cases stepped with
  | elsewhere =>
      refine ⟨configured, .inr ⟨by simp, .inl ?_⟩⟩
      exact congrArg (· - _) allowed
  | @call env _ _ call addressed accepted =>
      subst addressed
      cases call with
      | initializeTreasury admin replacement => exact allowed.elim
      | receiveFee payer amount source => exact allowed.elim
      | executeWithdrawal proposalId minAmountOut =>
          obtain ⟨kept, lost, full⟩ := surplus_executeWithdrawal lossy configured accepted
          exact ⟨kept, .inl ⟨proposalId, minAmountOut, rfl, lost, full⟩⟩
      | rescueNative admin recipient amount =>
          obtain ⟨kept, before, after⟩ := surplus_rescueNative lossy configured accepted
          exact ⟨kept, .inr ⟨by simp, .inr ⟨before, after⟩⟩⟩
      | setToken admin replacement =>
          obtain ⟨stored, ledger⟩ := storing_eq_ok.mp accepted
          obtain ⟨-, -, changed⟩ := setToken_eq_ok.mp stored
          obtain rfl : replacement = asset := allowed
          refine ⟨by rw [changed], .inr ⟨by simp, .inl ?_⟩⟩
          rw [surplus, surplus, changed, ledger]
      | _ =>
          have stepped : Step token env.currentContractAddress state ⟨env, .call _⟩ after :=
            .call rfl accepted
          have ledger := (storing_eq_ok.mp accepted).2
          refine ⟨?_, .inr ⟨by simp, .inl ?_⟩⟩
          · cases step_configuration stepped with
            | kept same => exact same.token.trans configured
            | administered _ _ same => exact same.trans configured
          · cases (step_changes stepped).1 with
            | kept same => rw [surplus, surplus, same.totalBalance, ledger]

end Steps

section Runs

variable {start final : State Ledger} {trace : List (Event (State Ledger) (Label Ledger))}

/-- Withdrawals that arrive in full leave the recorded total held. -/
theorem held_of_full (lossy : token.Lossy) (configured : start.storage.token = some asset)
    (covered : 0 ≤ surplus token self asset start)
    (run : Run (Step token self) start trace final)
    (allowed : ∀ event ∈ trace, WithdrawsOnly token self asset event)
    (full : ∀ event ∈ trace, WithdrawsInFull token self event) :
    ∀ event ∈ trace, 0 ≤ surplus token self asset event.after := by
  have both := run.forall_after
    (fun event => WithdrawsOnly token self asset event ∧ WithdrawsInFull token self event)
    (fun state => state.storage.token = some asset ∧ 0 ≤ surplus token self asset state)
    (fun event member => ⟨allowed event member, full event member⟩) ⟨configured, covered⟩ ?_
  · exact fun event member => (both event member).2
  · rintro event ⟨only, pays⟩ ⟨configured, covered⟩ stepped
    obtain ⟨kept, ⟨proposalId, minAmountOut, called, -, same⟩ | ⟨-, same | ⟨-, left⟩⟩⟩ :=
      surplus_step lossy configured stepped only
    · exact ⟨kept, (same.mpr (pays proposalId minAmountOut called)).symm ▸ covered⟩
    · exact ⟨kept, same.symm ▸ covered⟩
    · exact ⟨kept, left⟩

/-- From a total that is held exactly, the total stays held if and only if every
withdrawal arrives in full. -/
theorem held_iff_full (lossy : token.Lossy) (configured : start.storage.token = some asset)
    (balanced : surplus token self asset start = 0)
    (run : Run (Step token self) start trace final)
    (allowed : ∀ event ∈ trace, WithdrawsOnly token self asset event) :
    (∀ event ∈ trace, 0 ≤ surplus token self asset event.after) ↔
      ∀ event ∈ trace, WithdrawsInFull token self event := by
  have only := (run.restrict (WithdrawsOnly token self asset) (fun _ => True) allowed trivial
    fun _ _ _ _ => trivial).1
  refine only.forall_after_iff (fun state => 0 ≤ surplus token self asset state)
    (fun state => state.storage.token = some asset ∧ surplus token self asset state ≤ 0)
    (WithdrawsInFull token self) balanced.ge ⟨configured, balanced.le⟩ ?_ ?_
  · rintro event ⟨configured, spent⟩ ⟨stepped, only, -⟩
    obtain ⟨kept, ⟨_, _, -, lost, -⟩ | ⟨-, same | ⟨excess, -⟩⟩⟩ :=
      surplus_step lossy configured stepped only
    · exact ⟨kept, lost.trans spent⟩
    · exact ⟨kept, same.le.trans spent⟩
    · exact absurd spent excess.not_ge
  · rintro event ⟨configured, spent⟩ covered ⟨stepped, only, -⟩
    obtain ⟨-, ⟨proposalId, minAmountOut, called, lost, same⟩ | ⟨other, same | ⟨excess, -⟩⟩⟩ :=
      surplus_step lossy configured stepped only
    · constructor
      · intro held proposalId' minAmountOut' again
        obtain ⟨rfl, -⟩ := Call.executeWithdrawal.inj (Act.call.inj (called.symm.trans again))
        exact same.mp (by omega)
      · intro pays
        exact (same.mpr (pays proposalId minAmountOut called)).symm ▸ covered
    · apply iff_of_true
      · exact same.symm ▸ covered
      · exact fun proposalId minAmountOut called => absurd called (other proposalId minAmountOut)
    · exact absurd spent excess.not_ge

/-- A withdrawal lowers the recorded total by what leaves the treasury if and only if it
arrives in full; and while nothing but withdrawals and rescues moves the treasury's tokens,
withdrawals that all arrive in full leave a held total held, and from a total that is held
exactly no others do. -/
theorem total_follows_outflow_iff (lossy : token.Lossy) :
    (∀ {env : Env} {state after : State Ledger} {asset : Address} {proposalId : Nat}
        {minAmountOut : Int}, state.storage.token = some asset →
      executeWithdrawal token env state proposalId minAmountOut = .ok after →
        (state.storage.totalBalance - after.storage.totalBalance =
            held token env.currentContractAddress asset state.ledger -
              held token env.currentContractAddress asset after.ledger ↔
          PaysInFull token env.currentContractAddress state proposalId)) ∧
      ∀ {start final : State Ledger} {trace : List (Event (State Ledger) (Label Ledger))},
        start.storage.token = some asset → Run (Step token self) start trace final →
          (∀ event ∈ trace, WithdrawsOnly token self asset event) →
            (start.storage.totalBalance ≤ held token self asset start.ledger →
              (∀ event ∈ trace, WithdrawsInFull token self event) →
                ∀ event ∈ trace, event.after.storage.totalBalance ≤
                  held token self asset event.after.ledger) ∧
            (start.storage.totalBalance = held token self asset start.ledger →
              ((∀ event ∈ trace, event.after.storage.totalBalance ≤
                  held token self asset event.after.ledger) ↔
                ∀ event ∈ trace, WithdrawsInFull token self event)) := by
  constructor
  · intro env state after asset proposalId minAmountOut configured accepted
    rw [← (surplus_executeWithdrawal lossy configured accepted).2.2]
    unfold surplus
    omega
  · intro start final trace configured run allowed
    constructor
    · intro covered full event member
      have left := held_of_full lossy configured (sub_nonneg.mpr covered) run allowed full
      exact sub_nonneg.mp (left event member)
    · intro balanced
      rw [← held_iff_full lossy configured (sub_eq_zero.mpr balanced.symm) run allowed]
      simp only [surplus, sub_nonneg]

end Runs

section Sample

/-- A transfer that loses a tenth of what one account is paid. -/
def taxedTransfer (ledger : ReferenceLedger) (asset payer recipient : Address) (amount : Int) :
    Option ReferenceLedger := do
  let moved ← ledger.move asset payer recipient amount
  let tax := if recipient = ⟨5⟩ then amount / 10 else 0
  let credited := Function.update (moved.holding asset) recipient
    (moved.holding asset recipient - tax)
  return { moved with holding := Function.update moved.holding asset credited }

def taxedToken : TokenInterface ReferenceLedger :=
  { ReferenceLedger.token with transfer := taxedTransfer }

theorem taxedToken_delivers {ledger after : ReferenceLedger} {asset payer recipient : Address}
    {amount : Int} (transferred : taxedToken.transfer ledger asset payer recipient amount =
      some after) :
    0 ≤ amount ∧ taxedToken.Delivers asset payer recipient amount
      (amount - (if recipient = ⟨5⟩ then amount / 10 else 0)) ledger after := by
  obtain ⟨middle, moved, rest⟩ := Option.bind_eq_some_iff.mp transferred
  obtain ⟨nonnegative, -, holding⟩ := ReferenceLedger.move_eq_some moved
  obtain rfl := Option.some.inj rest
  refine ⟨nonnegative, fun account _ => ?_⟩
  have movement := holding account
  simp only [taxedToken, ReferenceLedger.token, Function.update_self]
  by_cases paid : account = recipient
  · subst paid
    simp only [Function.update_self, if_true] at movement ⊢
    omega
  · simpa [Function.update_of_ne paid, paid] using movement

theorem lossy_taxedToken : taxedToken.Lossy := by
  intro ledger after asset payer recipient amount transferred
  obtain ⟨nonnegative, delivered⟩ := taxedToken_delivers transferred
  refine ⟨_, ?_, ?_, delivered⟩
  · split <;> omega
  · split <;> omega

/-- A fee of a hundred is received, and its withdrawal proposed and approved. -/
def feeCalls (recipient : Address) : List (Label ReferenceLedger) :=
  [ ⟨.signedByAll ⟨0⟩ 1, .call (.initializeTreasury ⟨1⟩ ⟨9⟩)⟩,
    ⟨.signedByAll ⟨0⟩ 2, .call (.addSigner ⟨2⟩)⟩,
    ⟨.signedByAll ⟨0⟩ 3, .call (.receiveFee ⟨1⟩ 100 .protocolFee)⟩,
    ⟨.signedByAll ⟨0⟩ 4, .call (.proposeWithdrawal ⟨2⟩ recipient 100)⟩,
    ⟨.signedByAll ⟨0⟩ 5, .call (.approveWithdrawal ⟨2⟩ 0)⟩ ]

/-- The treasury with the approved withdrawal, and the total held exactly. -/
def feeHeld (recipient : Address) : State ReferenceLedger :=
  (feeCalls recipient).foldl (advance (next taxedToken ⟨0⟩))
    ⟨.deployed, ⟨fun _ account => if account = ⟨1⟩ then 1000 else 0, fun _ _ _ => 0⟩⟩

def feeWithdrawal : Label ReferenceLedger :=
  ⟨.signedByAll ⟨0⟩ 6, .call (.executeWithdrawal 0 0)⟩

/-- An untaxed account is paid in full, and the total stays held. -/
theorem total_follows_outflow_sample :
    ∃ trace final, Run (Step taxedToken ⟨0⟩) (feeHeld ⟨6⟩) trace final ∧ trace.length = 1 ∧
      ∀ event ∈ trace, event.after.storage.totalBalance ≤
        held taxedToken ⟨0⟩ ⟨9⟩ event.after.ledger := by
  have run : Run (Step taxedToken ⟨0⟩) (feeHeld ⟨6⟩)
      (record (next taxedToken ⟨0⟩) (feeHeld ⟨6⟩) [feeWithdrawal])
      ([feeWithdrawal].foldl (advance (next taxedToken ⟨0⟩)) (feeHeld ⟨6⟩)) :=
    run_of_record step_of_next (by decide +kernel)
  have follows := (total_follows_outflow_iff lossy_taxedToken).2 rfl run
    (by simp [record, feeWithdrawal, WithdrawsOnly])
  refine ⟨_, _, run, rfl, (follows.2 (by decide +kernel)).mpr ?_⟩
  simp only [record, List.forall_mem_singleton]
  intro proposalId minAmountOut called proposal asset ledger found _ moved
  cases called
  have untaxed : (feeHeld ⟨6⟩).storage.proposal 0 =
      some ⟨⟨6⟩, 100, 4, 604804, ⟨2⟩, false⟩ := by
    decide +kernel
  obtain rfl := Option.some.inj (found.symm.trans untaxed)
  simpa using (taxedToken_delivers moved).2

/-- A taxed account receives ninety of the hundred that the treasury pays, and a total of
ten is left for which nothing is held. -/
theorem total_exceeds_holding :
    ∃ after, executeWithdrawal taxedToken (.signedByAll ⟨0⟩ 6) (feeHeld ⟨5⟩) 0 0 = .ok after ∧
      taxedToken.Lossy ∧
      (feeHeld ⟨5⟩).storage.totalBalance - after.storage.totalBalance = 90 ∧
      held taxedToken ⟨0⟩ ⟨9⟩ (feeHeld ⟨5⟩).ledger - held taxedToken ⟨0⟩ ⟨9⟩ after.ledger = 100 ∧
      (feeHeld ⟨5⟩).storage.totalBalance = held taxedToken ⟨0⟩ ⟨9⟩ (feeHeld ⟨5⟩).ledger ∧
      held taxedToken ⟨0⟩ ⟨9⟩ after.ledger < after.storage.totalBalance := by
  refine ⟨advance (next taxedToken ⟨0⟩) (feeHeld ⟨5⟩) feeWithdrawal, rfl, lossy_taxedToken,
    by decide +kernel, by decide +kernel, by decide +kernel, by decide +kernel⟩

end Sample

end Treasury
