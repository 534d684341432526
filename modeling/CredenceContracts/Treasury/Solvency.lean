import CredenceContracts.Treasury.Spec

/-!
# The recorded total is held

The treasury's ledger of its own and the token balance it holds move by the same
amounts, as long as the token moves exactly what it is asked to.  A payment to
the treasury itself moves nothing and is measured as nothing, a rescue moves
only what the total does not cover, and unsolicited deposits raise the balance
alone.
-/

namespace Treasury

open Soroban Transition

variable {Ledger : Type} {token : TokenInterface Ledger} {self asset : Address}
variable {state after : State Ledger} {label : Label Ledger}

/-- What the treasury holds of a token. -/
def held (token : TokenInterface Ledger) (self asset : Address) (ledger : Ledger) : Int :=
  token.balance ledger asset self

/-- The token is the given one, and the recorded total is held in it. -/
structure Solvent (token : TokenInterface Ledger) (treasury asset : Address)
    (state : State Ledger) : Prop where
  configured : state.storage.token = some asset
  covered : state.storage.totalBalance ≤ held token treasury asset state.ledger

/-- The treasury is not initialised again, keeps its token, takes no deposit from
itself, and loses no tokens other than by its own calls. -/
def Undisturbed (token : TokenInterface Ledger) (self asset : Address) (state : State Ledger)
    (label : Label Ledger) : Prop :=
  match label.act with
  | .call (.initializeTreasury _ _) => False
  | .call (.setToken _ replacement) => replacement = asset
  | .call (.receiveFee payer _ _) => payer ≠ self
  | .call _ => True
  | .elsewhere ledger => held token self asset state.ledger ≤ held token self asset ledger

section Steps

theorem Solvent.receiveFee {env : Env} {payer : Address} {amount : Int} {source : FundSource}
    (solvent : Solvent token self asset state) (exact : token.Exact)
    (addressed : env.currentContractAddress = self) (foreign : payer ≠ self)
    (accepted : receiveFee token env state payer amount source = .ok after) :
    Solvent token self asset after := by
  obtain ⟨-, -, -, admin, other, -, -, recorded, configured, moved⟩ :=
    receiveFee_eq_ok.mp accepted
  obtain ⟨-, -, total, bySource, -, -, credited⟩ := creditSources_eq_ok.mp recorded
  have same : after.storage.token = some asset := by
    rw [credited]
    exact solvent.configured
  obtain rfl : other = asset := Option.some.inj (configured.symm.trans same)
  have gained := exact.transfer moved self
  have covered := solvent.covered
  rw [if_neg foreign.symm, if_pos addressed.symm] at gained
  refine ⟨same, ?_⟩
  rw [credited]
  simp only [held] at covered ⊢
  omega

theorem Solvent.executeWithdrawal {env : Env} {proposalId : Nat} {minAmountOut : Int}
    (solvent : Solvent token self asset state) (exact : token.Exact)
    (addressed : env.currentContractAddress = self)
    (accepted : executeWithdrawal token env state proposalId minAmountOut = .ok after) :
    Solvent token self asset after := by
  obtain ⟨proposal, actual, debited, -, settled, updated, stored⟩ :=
    executeWithdrawal_eq_ok.mp accepted
  obtain ⟨other, configured, moved, measured, -, -⟩ := settle_eq_ok.mp settled
  obtain rfl : other = asset := Option.some.inj (configured.symm.trans solvent.configured)
  have frame := debitSources_frame updated
  have lowered := (debitSources_lowers updated).1
  have paid := exact.transfer moved self
  have received := exact.transfer moved proposal.recipient
  have covered := solvent.covered
  refine ⟨by rw [stored, frame]; exact configured, ?_⟩
  rw [stored]
  simp only [held, addressed, if_true] at covered paid received ⊢
  -- a payment to the treasury itself is measured as zero
  by_cases itself : proposal.recipient = self
  · rw [itself] at received measured
    rw [if_pos rfl] at received
    omega
  · rw [if_neg (Ne.symm itself)] at paid
    rw [if_neg itself] at received
    omega

/-- A rescue leaves the recorded total covered, whomever it pays. -/
theorem Solvent.rescueNative {env : Env} {admin recipient : Address} {amount : Int}
    (solvent : Solvent token self asset state) (exact : token.Exact)
    (addressed : env.currentContractAddress = self)
    (accepted : rescueNative token env state admin recipient amount = .ok after) :
    Solvent token self asset after := by
  obtain ⟨-, -, -, positive, other, configured, -, within, moved, kept⟩ :=
    rescueNative_eq_ok.mp accepted
  obtain rfl : other = asset := Option.some.inj (configured.symm.trans solvent.configured)
  have paid := exact.transfer moved self
  refine ⟨kept ▸ configured, ?_⟩
  rw [kept]
  simp only [held, addressed, if_true] at within paid ⊢
  split at paid <;> omega

theorem Solvent.step (solvent : Solvent token self asset state) (exact : token.Exact)
    (stepped : Step token self state label after)
    (undisturbed : Undisturbed token self asset state label) :
    Solvent token self asset after := by
  cases stepped with
  | elsewhere => exact ⟨solvent.configured, solvent.covered.trans undisturbed⟩
  | @call env _ _ call addressed accepted =>
      cases call with
      | initializeTreasury admin replacement => exact undisturbed.elim
      | receiveFee payer amount source =>
          exact solvent.receiveFee exact addressed undisturbed accepted
      | executeWithdrawal proposalId minAmountOut =>
          exact solvent.executeWithdrawal exact addressed accepted
      | rescueNative admin recipient amount =>
          exact solvent.rescueNative exact addressed accepted
      | setToken admin replacement =>
          obtain ⟨stored, ledger⟩ := storing_eq_ok.mp accepted
          obtain ⟨-, -, changed⟩ := setToken_eq_ok.mp stored
          obtain rfl : replacement = asset := undisturbed
          exact ⟨by rw [changed], by rw [changed, ledger]; exact solvent.covered⟩
      | _ =>
          have stepped : Step token self state ⟨env, .call _⟩ after := .call addressed accepted
          have ledger := (storing_eq_ok.mp accepted).2
          refine ⟨?_, ?_⟩
          · cases step_configuration stepped with
            | kept same => exact same.token.trans solvent.configured
            | administered _ _ same => exact same.trans solvent.configured
          · cases (step_changes stepped).1 with
            | kept same =>
                rw [same.totalBalance, ledger]
                exact solvent.covered

end Steps

section Runs

variable {env : Env} {admin : Address} {ledger : Ledger} {initial final : State Ledger}
variable {trace : List (Event (State Ledger) (Label Ledger))}

theorem Solvent.initialized (funded : 0 ≤ held token self asset ledger)
    (started : Step token self ⟨.deployed, ledger⟩
      ⟨env, .call (.initializeTreasury admin asset)⟩ initial) :
    Solvent token self asset initial := by
  cases started with
  | call _ accepted =>
      obtain ⟨stored, same⟩ := storing_eq_ok.mp accepted
      obtain ⟨-, reset⟩ := initializeTreasury_eq_ok.mp stored
      exact ⟨by rw [reset], by rw [reset, same]; exact funded⟩

/-- After the one initialisation, in every state that undisturbed steps reach,
the recorded total is held; every rescue, whatever its arguments, leaves it held;
and the amount of every withdrawal that the guards admit is held. -/
theorem total_is_held (exact : token.Exact) (funded : 0 ≤ held token self asset ledger)
    (started : Step token self ⟨.deployed, ledger⟩
      ⟨env, .call (.initializeTreasury admin asset)⟩ initial)
    (run : Run (Step token self) initial trace final)
    (undisturbed : ∀ event ∈ trace, Undisturbed token self asset event.before event.label) :
    final.storage.totalBalance ≤ held token self asset final.ledger ∧
      (∀ env caller recipient amount after, env.currentContractAddress = self →
        rescueNative token env final caller recipient amount = .ok after →
          after.storage.totalBalance = final.storage.totalBalance ∧
            final.storage.totalBalance ≤ held token self asset after.ledger) ∧
        ∀ env proposalId proposal, withdrawalGuards env final.storage proposalId = .ok proposal →
          proposal.amount ≤ held token self asset final.ledger := by
  have solvent : Solvent token self asset final :=
    (run.restrict (fun event => Undisturbed token self asset event.before event.label)
      (Solvent token self asset) undisturbed (.initialized funded started)
      fun event allowed solvent stepped => solvent.step exact stepped allowed).2
  refine ⟨solvent.covered, ?_, ?_⟩
  · intro env caller recipient amount after addressed rescued
    have kept := (solvent.rescueNative exact addressed rescued).covered
    obtain ⟨-, -, -, -, -, -, -, -, -, same⟩ := rescueNative_eq_ok.mp rescued
    rw [same] at kept
    exact ⟨by rw [same], kept⟩
  · intro env proposalId proposal admitted
    obtain ⟨-, -, -, -, -, within, -, -⟩ := withdrawalGuards_eq_ok.mp admitted
    exact within.trans solvent.covered

/-- A payment to the treasury itself, an unsolicited deposit and a rescue of it. -/
def selfPayment : List (Label ReferenceLedger) :=
  [ ⟨.signedByAll ⟨0⟩ 2, .call (.addSigner ⟨2⟩)⟩,
    ⟨.signedByAll ⟨0⟩ 3, .call (.receiveFee ⟨1⟩ 10 .protocolFee)⟩,
    ⟨.signedByAll ⟨0⟩ 4, .call (.proposeWithdrawal ⟨2⟩ ⟨0⟩ 7)⟩,
    ⟨.signedByAll ⟨0⟩ 5, .call (.approveWithdrawal ⟨2⟩ 0)⟩,
    ⟨.signedByAll ⟨0⟩ 6, .call (.executeWithdrawal 0 0)⟩,
    ⟨.signedByAll ⟨0⟩ 7, .elsewhere (.uniform 200)⟩,
    ⟨.signedByAll ⟨0⟩ 8, .call (.rescueNative ⟨1⟩ ⟨5⟩ 190)⟩ ]

def selfPaid : State ReferenceLedger :=
  advance (next ReferenceLedger.token ⟨0⟩) ⟨.deployed, .uniform 100⟩
    ⟨.signedByAll ⟨0⟩ 1, .call (.initializeTreasury ⟨1⟩ ⟨9⟩)⟩

/-- The payment to itself left the total of 10, and the rescue left it held. -/
theorem total_is_held_sample :
    ∃ trace, ∃ final : State ReferenceLedger,
      Run (Step ReferenceLedger.token ⟨0⟩) selfPaid trace final ∧
        trace.length = 7 ∧ final.storage.totalBalance = 10 ∧
          10 ≤ held ReferenceLedger.token ⟨0⟩ ⟨9⟩ final.ledger := by
  have started : Step ReferenceLedger.token ⟨0⟩ ⟨.deployed, .uniform 100⟩
      ⟨.signedByAll ⟨0⟩ 1, .call (.initializeTreasury ⟨1⟩ ⟨9⟩)⟩ selfPaid :=
    step_of_next (next_eq_advance (by decide +kernel))
  have run : Run (Step ReferenceLedger.token ⟨0⟩) selfPaid
      (record (next ReferenceLedger.token ⟨0⟩) selfPaid selfPayment)
      (selfPayment.foldl (advance (next ReferenceLedger.token ⟨0⟩)) selfPaid) :=
    run_of_record step_of_next (by decide +kernel)
  have total : (selfPayment.foldl (advance (next ReferenceLedger.token ⟨0⟩))
      selfPaid).storage.totalBalance = 10 := by decide +kernel
  refine ⟨_, _, run, rfl, total, total ▸ ?_⟩
  refine (total_is_held ReferenceLedger.exact (by decide) started run ?_).1
  simp only [record, selfPayment, List.forall_mem_cons]
  refine ⟨trivial, ?_, trivial, trivial, trivial, ?_, trivial, by simp⟩
  · simp [Undisturbed]
  · simp only [Undisturbed]
    decide +kernel

end Runs

end Treasury
