import CredenceContracts.Treasury.Spec

/-!
# Authority over the treasury

Once the treasury is initialised its configuration is to change by its stored
admin alone, and its balances and counters are to fall only by what withdrawals
pay.  All calls keep to that but one: the initialisation can be repeated, by
anyone and in any state.
-/

namespace Treasury

open Soroban Transition MachineInt

variable {Ledger : Type} {token : TokenInterface Ledger} {self : Address}
variable {env : Env} {label : Label Ledger} {state after : State Ledger}

section Cumulative

/-- The lifetime amount that a counter stands for. -/
def CumulativeAmount.value (counter : CumulativeAmount) : Int :=
  counter.rollovers * 2 ^ 127 + counter.remainder

/-- The remainder is one segment's. -/
def CumulativeAmount.Proper (counter : CumulativeAmount) : Prop :=
  0 ≤ counter.remainder ∧ counter.remainder < 2 ^ 127

theorem zeroCumulativeAmount_proper : zeroCumulativeAmount.Proper := by
  constructor <;> decide

/-- A proper counter counts every amount that a signed word can hold. -/
theorem addToCumulative_ok {counter added : CumulativeAmount} {amount : Int}
    (proper : counter.Proper) (fits : FitsI128 amount)
    (counted : addToCumulative counter amount = .ok added) :
    added.Proper ∧ 0 ≤ amount ∧ added.value = counter.value + amount := by
  obtain ⟨low, high⟩ := proper
  simp only [addToCumulative, Outcome.bind_eq_ok, toU128_eq_ok, checkedU64_eq_ok,
    toI128_eq_ok, Outcome.pure_eq_ok] at counted
  obtain ⟨_, ⟨-, rfl⟩, _, ⟨positive, rfl⟩, _, ⟨-, rfl⟩, _, ⟨below, rfl⟩, rfl⟩ := counted
  obtain ⟨-, bound⟩ := fits
  -- two summands below a segment each stay within an unsigned word
  have sum : (counter.remainder.toNat + amount.toNat) % 2 ^ 128 =
      counter.remainder.toNat + amount.toNat := Nat.mod_eq_of_lt (by omega)
  have segment : cumulativeSegment = 2 ^ 127 := rfl
  rw [sum] at below ⊢
  unfold CumulativeAmount.Proper CumulativeAmount.value
  by_cases carried : counter.remainder.toNat + amount.toNat ≥ cumulativeSegment
  · simp only [if_pos carried, one_ne_zero, if_false] at below ⊢
    omega
  · simp only [if_neg carried, if_true] at below ⊢
    omega

end Cumulative

/-- The stored admin authorised the call. -/
def AdminAuthorized (env : Env) (storage : Storage) : Prop :=
  ∃ admin, storage.admin = some admin ∧ env.authorized admin = true

/-- Without the stored admin's authorization the configuration stays. -/
def ConfigurationGuarded (state : State Ledger) (label : Label Ledger) (after : State Ledger) :
    Prop :=
  ¬AdminAuthorized label.env state.storage → SameConfiguration state.storage after.storage

/-- No balance and no counter is smaller than before. -/
structure Grows (storage later : Storage) : Prop where
  totalBalance : storage.totalBalance ≤ later.totalBalance
  balanceBySource : ∀ source, storage.balanceBySource source ≤ later.balanceBySource source
  cumulativeReceived : storage.cumulativeReceived.value ≤ later.cumulativeReceived.value
  cumulativeReceivedBySource : ∀ source,
    (storage.cumulativeReceivedBySource source).value ≤
      (later.cumulativeReceivedBySource source).value
  proposalCounter : storage.proposalCounter ≤ later.proposalCounter

/-- The balances fall by what the proposal's recipient received, and the
counters stay. -/
def LowersByPayment (token : TokenInterface Ledger) (id : Nat) (state after : State Ledger) :
    Prop :=
  ∃ proposal asset paid, state.storage.proposal id = some proposal ∧
    state.storage.token = some asset ∧
      paid = token.balance after.ledger asset proposal.recipient
          - token.balance state.ledger asset proposal.recipient ∧
        after.storage.totalBalance = state.storage.totalBalance - paid ∧
          after.storage.balanceBySource .protocolFee
              + after.storage.balanceBySource .slashedFunds =
            state.storage.balanceBySource .protocolFee
              + state.storage.balanceBySource .slashedFunds - paid ∧
            after.storage.cumulativeReceived = state.storage.cumulativeReceived ∧
              after.storage.cumulativeReceivedBySource =
                  state.storage.cumulativeReceivedBySource ∧
                after.storage.proposalCounter = state.storage.proposalCounter

/-- Only the execution of a withdrawal lowers anything. -/
def LedgerGuarded (token : TokenInterface Ledger) (state : State Ledger) (label : Label Ledger)
    (after : State Ledger) : Prop :=
  match label.act with
  | .call (.executeWithdrawal id _) => LowersByPayment token id state after
  | _ => Grows state.storage after.storage

/-- An initialisation would not make any balance or counter smaller. -/
structure Empty (storage : Storage) : Prop where
  totalBalance : storage.totalBalance ≤ 0
  balanceBySource : ∀ source, storage.balanceBySource source ≤ 0
  cumulativeReceived : storage.cumulativeReceived.value ≤ 0
  cumulativeReceivedBySource : ∀ source, (storage.cumulativeReceivedBySource source).value ≤ 0
  proposalCounter : storage.proposalCounter = 0

/-- The label is no repeated initialisation, or one by the stored admin of an
empty treasury. -/
def KeepsAuthority (storage : Storage) (label : Label Ledger) : Prop :=
  match label.act with
  | .call (.initializeTreasury _ _) => AdminAuthorized label.env storage ∧ Empty storage
  | _ => True

/-- The amounts of the call are signed 128-bit words. -/
def Label.Typed (label : Label Ledger) : Prop :=
  match label.act with
  | .call (.receiveFee _ amount _) => FitsI128 amount
  | _ => True

/-- The remainders of all cumulative counters are one segment's. -/
structure Proper (storage : Storage) : Prop where
  total : storage.cumulativeReceived.Proper
  bySource : ∀ source, (storage.cumulativeReceivedBySource source).Proper

section Steps

theorem Grows.refl (storage : Storage) : Grows storage storage :=
  ⟨le_rfl, fun _ => le_rfl, le_rfl, fun _ => le_rfl, le_rfl⟩

/-- A deposit raises what it is recorded in. -/
theorem creditSources_grows {storage credited : Storage} {amount : Int} {source : FundSource}
    (proper : Proper storage) (fits : FitsI128 amount)
    (recorded : creditSources storage amount source = .ok credited) :
    Proper credited ∧ Grows storage credited := by
  obtain ⟨-, -, total, bySource, counted, countedSource, rfl⟩ :=
    creditSources_eq_ok.mp recorded
  obtain ⟨properTotal, positive, valueTotal⟩ := addToCumulative_ok proper.total fits counted
  obtain ⟨properSource, -, valueSource⟩ :=
    addToCumulative_ok (proper.bySource source) fits countedSource
  constructor
  · refine ⟨properTotal, fun other => ?_⟩
    by_cases same : other = source
    · subst same
      simpa using properSource
    · simpa [same] using proper.bySource other
  · refine ⟨by simpa using positive, fun other => ?_, by simp only; omega, fun other => ?_,
      le_rfl⟩
    · by_cases same : other = source
      · subst same
        simpa using positive
      · simp [same]
    · by_cases same : other = source
      · subst same
        simp only [Function.update_self]
        omega
      · simp [same]

theorem Proper.step (proper : Proper state.storage) (typed : label.Typed)
    (stepped : Step token self state label after) : Proper after.storage := by
  cases (step_changes stepped).1 with
  | kept same =>
      exact ⟨same.cumulativeReceived ▸ proper.total,
        same.cumulativeReceivedBySource ▸ proper.bySource⟩
  | emptied reset =>
      obtain ⟨-, stored⟩ := initializeTreasury_eq_ok.mp reset
      rw [stored]
      exact ⟨zeroCumulativeAmount_proper, fun _ => zeroCumulativeAmount_proper⟩
  | deposited _ recorded => exact (creditSources_grows proper typed recorded).1
  | withdrawn _ _ _ updated =>
      rw [debitSources_frame updated]
      exact ⟨proper.total, proper.bySource⟩

theorem proposalCounter_le (stepped : Step token self state label after)
    (again : ∀ admin asset, label.act ≠ .call (.initializeTreasury admin asset)) :
    state.storage.proposalCounter ≤ after.storage.proposalCounter := by
  cases (step_changes stepped).2 with
  | kept same => exact same.proposalCounter.ge
  | restarted _ => exact absurd rfl (again _ _)
  | signerAdded _ | signerRemoved _ | thresholdSet _ | approved _ _ _ _ _ => exact le_rfl
  | proposed created =>
      obtain ⟨-, -, -, -, -, -, -, _, -, stored⟩ := proposeWithdrawal_eq_ok.mp created
      rw [stored]
      exact Nat.le_succ _
  | executed _ _ _ updated =>
      rw [debitSources_frame updated]

theorem executeWithdrawal_lowers {id : Nat} {minAmountOut : Int}
    (accepted : executeWithdrawal token env state id minAmountOut = .ok after) :
    LowersByPayment token id state after := by
  obtain ⟨proposal, actual, debited, guarded, settled, updated, stored⟩ :=
    executeWithdrawal_eq_ok.mp accepted
  obtain ⟨-, found, -⟩ := withdrawalGuards_eq_ok.mp guarded
  obtain ⟨asset, configured, -, measured, -, -⟩ := settle_eq_ok.mp settled
  obtain ⟨total, sources⟩ := debitSources_lowers updated
  have frame := debitSources_frame updated
  refine ⟨proposal, asset, actual, found, configured, measured, ?_⟩
  rw [stored]
  exact ⟨total, sources, by rw [frame], by rw [frame], by rw [frame]⟩

/-- No step but a repeated initialisation lowers what it should not. -/
theorem ledgerGuarded_of_step (proper : Proper state.storage) (typed : label.Typed)
    (stepped : Step token self state label after)
    (again : ∀ admin asset, label.act ≠ .call (.initializeTreasury admin asset)) :
    LedgerGuarded token state label after := by
  have counter := proposalCounter_le stepped again
  cases stepped with
  | elsewhere => exact Grows.refl _
  | @call env _ _ call addressed accepted =>
      cases call with
      | initializeTreasury admin asset => exact absurd rfl (again admin asset)
      | executeWithdrawal id minAmountOut => exact executeWithdrawal_lowers accepted
      | receiveFee payer amount source =>
          obtain ⟨-, -, -, -, -, -, -, recorded, -⟩ := receiveFee_eq_ok.mp accepted
          exact (creditSources_grows proper typed recorded).2
      | _ =>
          have stepped : Step token self state ⟨env, .call _⟩ after := .call addressed accepted
          cases (step_changes stepped).1 with
          | kept same =>
              exact ⟨same.totalBalance.ge, fun source => (congrFun same.balanceBySource source).ge,
                by rw [same.cumulativeReceived],
                fun source => by rw [same.cumulativeReceivedBySource], counter⟩

theorem configurationGuarded_of_step (stepped : Step token self state label after)
    (again : ∀ admin asset, label.act ≠ .call (.initializeTreasury admin asset)) :
    ConfigurationGuarded state label after := by
  intro unauthorized
  cases step_configuration stepped with
  | kept same => exact same
  | restarted _ => exact absurd rfl (again _ _)
  | tokenReplaced admitted _ _ => exact absurd admitted.2 unauthorized
  | administered admitted _ _ => exact absurd admitted.2 unauthorized

/-- A repeated initialisation keeps to both only for the stored admin of an
empty treasury. -/
theorem initializeTreasury_guarded_iff {admin asset : Address}
    (reset : initializeTreasury env state.storage admin asset = .ok after.storage) :
    ConfigurationGuarded state ⟨env, .call (.initializeTreasury admin asset)⟩ after ∧
        Grows state.storage after.storage ↔
      AdminAuthorized env state.storage ∧ Empty state.storage := by
  obtain ⟨signed, stored⟩ := initializeTreasury_eq_ok.mp reset
  have zero : zeroCumulativeAmount.value = 0 := rfl
  constructor
  · rintro ⟨guarded, grows⟩
    rw [stored] at grows
    refine ⟨?_, grows.totalBalance, grows.balanceBySource, zero ▸ grows.cumulativeReceived,
      fun source => zero ▸ grows.cumulativeReceivedBySource source,
      Nat.le_zero.mp grows.proposalCounter⟩
    by_contra unauthorized
    have same := (guarded unauthorized).admin
    rw [stored] at same
    exact unauthorized ⟨admin, same.symm, signed⟩
  · rintro ⟨authorized, empty⟩
    refine ⟨fun unauthorized => absurd authorized unauthorized, ?_⟩
    rw [stored]
    constructor
    · exact empty.totalBalance
    · exact empty.balanceBySource
    · exact empty.cumulativeReceived.trans_eq zero.symm
    · exact fun source => (empty.cumulativeReceivedBySource source).trans_eq zero.symm
    · exact empty.proposalCounter.le

end Steps

section Runs

variable {admin asset : Address} {ledger : Ledger} {initial final : State Ledger}
variable {trace : List (Event (State Ledger) (Label Ledger))}

theorem Proper.initialized (started : Step token self ⟨.deployed, ledger⟩
    ⟨env, .call (.initializeTreasury admin asset)⟩ initial) : Proper initial.storage := by
  cases started with
  | call _ accepted =>
      obtain ⟨-, stored⟩ := initializeTreasury_eq_ok.mp (storing_eq_ok.mp accepted).1
      rw [stored]
      exact ⟨zeroCumulativeAmount_proper, fun _ => zeroCumulativeAmount_proper⟩

/-- After the first initialisation every step leaves the configuration to the
stored admin and lowers nothing but balances by payments, if and only if it is
not a repeated initialisation, or is one by the stored admin of a treasury with
nothing to lose. -/
theorem authority_kept_iff
    (started : Step token self ⟨.deployed, ledger⟩
      ⟨env, .call (.initializeTreasury admin asset)⟩ initial)
    (run : Run (Step token self) initial trace final)
    (typed : ∀ event ∈ trace, event.label.Typed) {event : Event (State Ledger) (Label Ledger)}
    (member : event ∈ trace) :
    ConfigurationGuarded event.before event.label event.after ∧
        LedgerGuarded token event.before event.label event.after ↔
      KeepsAuthority event.before.storage event.label := by
  obtain ⟨earlier, rest, position⟩ := List.append_of_mem member
  obtain ⟨reached, stepped, -⟩ := run.split position
  have proper : Proper event.before.storage :=
    (reached.restrict (fun past => past.label.Typed) (fun state => Proper state.storage)
      (fun past passed => typed past (by simp [position, passed])) (.initialized started)
      fun past allowed proper stepped => proper.step allowed stepped).2
  have fits := typed event member
  obtain ⟨before, ⟨env, act⟩, after⟩ := event
  by_cases again : ∃ admin asset, act = .call (.initializeTreasury admin asset)
  · obtain ⟨admin, asset, rfl⟩ := again
    cases stepped with
    | call _ accepted => exact initializeTreasury_guarded_iff (storing_eq_ok.mp accepted).1
  · have other : ∀ admin asset, act ≠ .call (.initializeTreasury admin asset) := by
      simpa using again
    have keeps : KeepsAuthority before.storage ⟨env, act⟩ := by
      unfold KeepsAuthority
      split
      · rename_i called
        exact absurd called (other _ _)
      · trivial
    exact iff_of_true ⟨configurationGuarded_of_step stepped other,
      ledgerGuarded_of_step proper fits stepped other⟩ keeps

end Runs

section Sample

/-- The treasury of admin 1, just initialised. -/
def started : State ReferenceLedger :=
  advance (next ReferenceLedger.token ⟨0⟩) ⟨.deployed, .uniform 100⟩
    ⟨.signedBy ⟨1⟩ ⟨0⟩ 1, .call (.initializeTreasury ⟨1⟩ ⟨9⟩)⟩

theorem started_step : Step ReferenceLedger.token ⟨0⟩ ⟨.deployed, .uniform 100⟩
    ⟨.signedBy ⟨1⟩ ⟨0⟩ 1, .call (.initializeTreasury ⟨1⟩ ⟨9⟩)⟩ started :=
  step_of_next (next_eq_advance (by decide +kernel))

/-- After a deposit a stranger initialises the treasury again. -/
def takeover : List (Label ReferenceLedger) :=
  [ ⟨.signedBy ⟨1⟩ ⟨0⟩ 2, .call (.receiveFee ⟨1⟩ 10 .protocolFee)⟩,
    ⟨.signedBy ⟨2⟩ ⟨0⟩ 3, .call (.initializeTreasury ⟨2⟩ ⟨9⟩)⟩ ]

def takeoverTrace : List (Event (State ReferenceLedger) (Label ReferenceLedger)) :=
  record (next ReferenceLedger.token ⟨0⟩) started takeover

/-- The stranger becomes the admin and the deposit is no longer recorded. -/
theorem stranger_takes_over :
    ∃ trace final, ∃ event ∈ trace,
      Run (Step ReferenceLedger.token ⟨0⟩) started trace final ∧
        ¬ConfigurationGuarded event.before event.label event.after ∧
          ¬LedgerGuarded ReferenceLedger.token event.before event.label event.after := by
  have run : Run (Step ReferenceLedger.token ⟨0⟩) started takeoverTrace
      (takeover.foldl (advance (next ReferenceLedger.token ⟨0⟩)) started) :=
    run_of_record step_of_next (by decide +kernel)
  refine ⟨_, _, takeoverTrace.get ⟨1, by decide⟩, List.get_mem _ _, run, ?_, ?_⟩
  · intro guarded
    have unauthorized : ¬AdminAuthorized (takeoverTrace.get ⟨1, by decide⟩).label.env
        (takeoverTrace.get ⟨1, by decide⟩).before.storage := by
      rintro ⟨admin, stored, signed⟩
      have first : (takeoverTrace.get ⟨1, by decide⟩).before.storage.admin =
          some ⟨1⟩ := by decide +kernel
      obtain rfl := Option.some.inj (first.symm.trans stored)
      revert signed
      decide +kernel
    have same := (guarded unauthorized).admin
    revert same
    decide +kernel
  · intro guarded
    have grows : Grows (takeoverTrace.get ⟨1, by decide⟩).before.storage
        (takeoverTrace.get ⟨1, by decide⟩).after.storage := guarded
    have fell := grows.totalBalance
    revert fell
    decide +kernel

/-- The admin may start an empty treasury over. -/
theorem authority_kept_sample :
    ∃ trace final, ∃ event ∈ trace,
      Run (Step ReferenceLedger.token ⟨0⟩) started trace final ∧
        event.label.act = .call (.initializeTreasury ⟨1⟩ ⟨8⟩) ∧
          ConfigurationGuarded event.before event.label event.after ∧
            LedgerGuarded ReferenceLedger.token event.before event.label event.after := by
  obtain ⟨after, stepped⟩ : ∃ after, Step ReferenceLedger.token ⟨0⟩ started
      ⟨.signedBy ⟨1⟩ ⟨0⟩ 2, .call (.initializeTreasury ⟨1⟩ ⟨8⟩)⟩ after :=
    ⟨_, step_of_next (next_eq_advance (by decide +kernel))⟩
  have run := Run.single stepped
  have keeps : AdminAuthorized (.signedBy ⟨1⟩ ⟨0⟩ 2) started.storage ∧ Empty started.storage := by
    refine ⟨⟨⟨1⟩, by decide +kernel, by decide⟩, by decide +kernel, ?_, by decide +kernel, ?_,
      by decide +kernel⟩
    · intro source
      cases source <;> decide +kernel
    · intro source
      cases source <;> decide +kernel
  exact ⟨_, after, _, List.mem_cons_self, run, rfl,
    (authority_kept_iff started_step run (by simp [Label.Typed]) List.mem_cons_self).mpr keeps⟩

end Sample

end Treasury
