import CredenceContracts.Treasury.Authority

/-!
# Cumulative receipts

What a treasury received since its initialisation is counted three times over, in
two limbs each, whose carry is at 2 ^ 127.  The counters stand for the exact sums
of the amounts received, however far these exceed a signed word.
-/

namespace Treasury

open Soroban Transition MachineInt

/-- An operation of the host on unsigned 256-bit words with an exact result. -/
def hostU256 (exact : Nat) : Outcome Nat :=
  checkedUnsigned 256 exact .trapped

/-- A lifetime amount as one word; the remainder is reinterpreted as unsigned. -/
def cumulativeToU256 (amount : CumulativeAmount) : Outcome Nat := do
  let remainder := (amount.remainder % 2 ^ 128).toNat
  let whole ← hostU256 (amount.rollovers * cumulativeSegment)
  hostU256 (whole + remainder)

def getCumulativeReceivedU256 (storage : Storage) : Outcome Nat :=
  cumulativeToU256 storage.cumulativeReceived

def getCumulativeBySourceU256 (storage : Storage) (source : FundSource) : Outcome Nat :=
  cumulativeToU256 (storage.cumulativeReceivedBySource source)

section Counters

variable {counter added : CumulativeAmount} {amount : Int}

/-- The rollovers are an unsigned 64-bit word. -/
def CumulativeAmount.Bounded (counter : CumulativeAmount) : Prop :=
  counter.rollovers < 2 ^ 64

theorem addToCumulative_bounded (counted : addToCumulative counter amount = .ok added) :
    added.Bounded := by
  simp only [addToCumulative, Outcome.bind_eq_ok, checkedU64_eq_ok, Outcome.pure_eq_ok]
    at counted
  obtain ⟨_, -, _, -, _, ⟨below, rfl⟩, _, -, rfl⟩ := counted
  exact below

/-- A counter in range is far below what a 256-bit word holds. -/
theorem cumulativeToU256_eq (proper : counter.Proper) (bounded : counter.Bounded) :
    cumulativeToU256 counter = .ok counter.value.toNat := by
  obtain ⟨low, high⟩ := proper
  have wrapped : counter.remainder % 2 ^ 128 = counter.remainder :=
    Int.emod_eq_of_lt low (by omega)
  have segment : cumulativeSegment = 2 ^ 127 := rfl
  unfold CumulativeAmount.Bounded at bounded
  simp only [cumulativeToU256, hostU256, wrapped, segment, Outcome.bind_eq_ok,
    checkedUnsigned_eq_ok]
  refine ⟨counter.rollovers * 2 ^ 127, ⟨by omega, rfl⟩, by omega, ?_⟩
  unfold CumulativeAmount.value
  omega

/-- The counter stands for the amount, in both of the forms it is read in. -/
structure CumulativeAmount.Counts (counter : CumulativeAmount) (amount : Int) : Prop where
  value : counter.rollovers * 2 ^ 127 + counter.remainder = amount
  remainder : 0 ≤ counter.remainder ∧ counter.remainder < 2 ^ 127
  word : ∃ whole : Nat, cumulativeToU256 counter = .ok whole ∧ (whole : Int) = amount

theorem CumulativeAmount.counts (proper : counter.Proper) (bounded : counter.Bounded) :
    counter.Counts counter.value where
  value := rfl
  remainder := proper
  word := by
    refine ⟨_, cumulativeToU256_eq proper bounded, ?_⟩
    obtain ⟨low, -⟩ := proper
    unfold CumulativeAmount.value
    omega

end Counters

section Steps

variable {Ledger : Type} {token : TokenInterface Ledger} {self : Address}
variable {label : Label Ledger} {state after : State Ledger}

/-- The amount that a step received. -/
def received (event : Event (State Ledger) (Label Ledger)) : Int :=
  match event.label.act with
  | .call (.receiveFee _ amount _) => amount
  | _ => 0

/-- The amount that a step received from one of the sources. -/
def receivedFrom (source : FundSource) (event : Event (State Ledger) (Label Ledger)) : Int :=
  match event.label.act with
  | .call (.receiveFee _ amount credited) => if credited = source then amount else 0
  | _ => 0

theorem received_eq_add (event : Event (State Ledger) (Label Ledger)) :
    received event = receivedFrom .protocolFee event + receivedFrom .slashedFunds event := by
  unfold received receivedFrom
  split
  · rename_i credited _
    cases credited <;> simp
  · rfl

/-- The treasury is not initialised by this step. -/
def Label.Continues (label : Label Ledger) : Prop :=
  ∀ admin asset, label.act ≠ .call (.initializeTreasury admin asset)

/-- The step takes no fee. -/
def Label.TakesNoFee (label : Label Ledger) : Prop :=
  ∀ payer amount source, label.act ≠ .call (.receiveFee payer amount source)

/-- All counters are in range. -/
structure Ranged (storage : Storage) : Prop where
  proper : Proper storage
  total : storage.cumulativeReceived.Bounded
  bySource : ∀ source, (storage.cumulativeReceivedBySource source).Bounded

theorem Ranged.of_same {storage later : Storage} (ranged : Ranged storage)
    (total : later.cumulativeReceived = storage.cumulativeReceived)
    (bySource : later.cumulativeReceivedBySource = storage.cumulativeReceivedBySource) :
    Ranged later where
  proper := ⟨total ▸ ranged.proper.total, bySource ▸ ranged.proper.bySource⟩
  total := total ▸ ranged.total
  bySource := bySource ▸ ranged.bySource

/-- A step leaves the counters alone, or it takes a fee. -/
theorem step_counters (continues : label.Continues)
    (stepped : Step token self state label after) :
    (label.TakesNoFee ∧
        after.storage.cumulativeReceived = state.storage.cumulativeReceived ∧
        after.storage.cumulativeReceivedBySource =
          state.storage.cumulativeReceivedBySource) ∨
      ∃ payer amount source, label.act = .call (.receiveFee payer amount source) ∧
        creditSources state.storage amount source = .ok after.storage := by
  by_cases taking : ∃ payer amount source, label.act = .call (.receiveFee payer amount source)
  · obtain ⟨payer, amount, source, taken⟩ := taking
    refine .inr ⟨payer, amount, source, taken, ?_⟩
    cases stepped with
    | elsewhere => cases taken
    | call _ accepted =>
        cases taken
        obtain ⟨-, -, -, -, -, -, -, recorded, -⟩ := receiveFee_eq_ok.mp accepted
        exact recorded
  · have none : label.TakesNoFee := by
      intro payer amount source taken
      exact taking ⟨payer, amount, source, taken⟩
    refine .inl ⟨none, ?_⟩
    cases (step_changes stepped).1 with
    | kept same => exact ⟨same.cumulativeReceived, same.cumulativeReceivedBySource⟩
    | emptied _ => exact absurd rfl (continues _ _)
    | deposited _ _ => exact absurd rfl (none _ _ _)
    | withdrawn _ _ _ updated =>
        rw [debitSources_frame updated]
        exact ⟨rfl, rfl⟩

theorem received_of_takesNoFee (none : label.TakesNoFee) :
    received ⟨state, label, after⟩ = 0 ∧
      ∀ source, receivedFrom source ⟨state, label, after⟩ = 0 := by
  obtain ⟨env, act⟩ := label
  unfold received receivedFrom
  split
  · rename_i taken
    exact absurd taken (none _ _ _)
  · exact ⟨rfl, fun _ => rfl⟩

/-- A step keeps all counters in range and raises each by what it received. -/
theorem Ranged.step (ranged : Ranged state.storage) (typed : label.Typed)
    (continues : label.Continues) (stepped : Step token self state label after) :
    Ranged after.storage ∧
      after.storage.cumulativeReceived.value =
        state.storage.cumulativeReceived.value + received ⟨state, label, after⟩ ∧
        ∀ source, (after.storage.cumulativeReceivedBySource source).value =
          (state.storage.cumulativeReceivedBySource source).value
            + receivedFrom source ⟨state, label, after⟩ := by
  rcases step_counters continues stepped with
    ⟨none, total, bySource⟩ | ⟨payer, amount, source, taken, recorded⟩
  · obtain ⟨nothing, nowhere⟩ : received ⟨state, label, after⟩ = 0 ∧
        ∀ source, receivedFrom source ⟨state, label, after⟩ = 0 := received_of_takesNoFee none
    rw [nothing, total, bySource]
    refine ⟨ranged.of_same total bySource, by omega, fun source => ?_⟩
    rw [nowhere source, add_zero]
  · obtain ⟨env, act⟩ := label
    cases taken
    have fits : FitsI128 amount := typed
    have proper := (creditSources_grows ranged.proper fits recorded).1
    obtain ⟨-, -, total, bySource, counted, countedSource, stored⟩ :=
      creditSources_eq_ok.mp recorded
    obtain ⟨-, -, value⟩ := addToCumulative_ok ranged.proper.total fits counted
    obtain ⟨-, -, valueSource⟩ :=
      addToCumulative_ok (ranged.proper.bySource source) fits countedSource
    refine ⟨⟨proper, ?_, fun other => ?_⟩, ?_, fun other => ?_⟩
    · rw [stored]
      exact addToCumulative_bounded counted
    · rw [stored]
      by_cases same : other = source
      · subst same
        simpa using addToCumulative_bounded countedSource
      · simpa [same] using ranged.bySource other
    · rw [stored]
      exact value
    · rw [stored]
      by_cases same : other = source
      · subst same
        simpa [receivedFrom] using valueSource
      · simp [receivedFrom, same, Ne.symm same]

end Steps

section Runs

variable {Ledger : Type} {token : TokenInterface Ledger} {self : Address} {env : Env}
variable {admin asset : Address} {fresh initial final : State Ledger}
variable {trace : List (Event (State Ledger) (Label Ledger))}

/-- What the counters say after a history of one initialisation. -/
structure ReceiptsExact (final : State Ledger)
    (trace : List (Event (State Ledger) (Label Ledger))) : Prop where
  total : final.storage.cumulativeReceived.Counts (trace.map received).sum
  bySource : ∀ source, (final.storage.cumulativeReceivedBySource source).Counts
    (trace.map (receivedFrom source)).sum
  /-- The two sources make up the total. -/
  sources : (trace.map (receivedFrom .protocolFee)).sum
    + (trace.map (receivedFrom .slashedFunds)).sum = (trace.map received).sum
  /-- Only a fee that is taken changes a counter. -/
  kept : ∀ event ∈ trace, event.label.TakesNoFee →
    event.after.storage.cumulativeReceived = event.before.storage.cumulativeReceived ∧
      event.after.storage.cumulativeReceivedBySource =
        event.before.storage.cumulativeReceivedBySource

theorem Ranged.initialized (started : Step token self fresh
    ⟨env, .call (.initializeTreasury admin asset)⟩ initial) :
    Ranged initial.storage ∧ initial.storage.cumulativeReceived.value = 0 ∧
      ∀ source, (initial.storage.cumulativeReceivedBySource source).value = 0 := by
  have proper := zeroCumulativeAmount_proper
  have bounded : zeroCumulativeAmount.Bounded := by
    unfold CumulativeAmount.Bounded
    decide
  have zero : zeroCumulativeAmount.value = 0 := rfl
  cases started with
  | call _ accepted =>
      obtain ⟨-, stored⟩ := initializeTreasury_eq_ok.mp (storing_eq_ok.mp accepted).1
      rw [stored]
      exact ⟨⟨⟨proper, fun _ => proper⟩, bounded, fun _ => bounded⟩, zero, fun _ => zero⟩

/-- The sums of a history, split by source. -/
theorem sum_received_eq :
    (trace.map (receivedFrom .protocolFee)).sum
      + (trace.map (receivedFrom .slashedFunds)).sum = (trace.map received).sum := by
  rw [← List.sum_map_add]
  congr 1
  exact List.map_congr_left fun event _ => (received_eq_add event).symm

/-- After an initialisation that is not repeated the counters stand for exactly what
was received, in total and from each source, for any amounts of signed words. -/
theorem receipts_exact
    (started : Step token self fresh
      ⟨env, .call (.initializeTreasury admin asset)⟩ initial)
    (run : Run (Step token self) initial trace final)
    (typed : ∀ event ∈ trace, event.label.Typed)
    (once : ∀ event ∈ trace, event.label.Continues) :
    ReceiptsExact final trace := by
  obtain ⟨ranged, nothing, nowhere⟩ := Ranged.initialized started
  obtain ⟨counting, ranged⟩ := run.restrict
    (fun event => event.label.Typed ∧ event.label.Continues)
    (fun state => Ranged state.storage) (fun event member => ⟨typed event member,
      once event member⟩) ranged
    (fun event allowed ranged stepped => (ranged.step allowed.1 allowed.2 stepped).1)
  have total : final.storage.cumulativeReceived.value = (trace.map received).sum := by
    have summed := counting.sum_eq (fun state => state.storage.cumulativeReceived.value)
      received (fun _ => 0) fun event stepped => by
        obtain ⟨taken, ⟨fits, continues⟩, ranged⟩ := stepped
        rw [(ranged.step fits continues taken).2.1, sub_zero]
    simpa [nothing] using summed
  have bySource (source : FundSource) :
      (final.storage.cumulativeReceivedBySource source).value =
        (trace.map (receivedFrom source)).sum := by
    have summed := counting.sum_eq
      (fun state => (state.storage.cumulativeReceivedBySource source).value)
      (receivedFrom source) (fun _ => 0) fun event stepped => by
        obtain ⟨taken, ⟨fits, continues⟩, ranged⟩ := stepped
        rw [(ranged.step fits continues taken).2.2 source, sub_zero]
    simpa [nowhere source] using summed
  constructor
  · exact total ▸ CumulativeAmount.counts ranged.proper.total ranged.total
  · exact fun source => bySource source ▸
      CumulativeAmount.counts (ranged.proper.bySource source) (ranged.bySource source)
  · exact sum_received_eq
  · intro event member none
    rcases step_counters (once event member) (run.stepped_of_mem member) with
      ⟨-, same⟩ | ⟨payer, amount, source, taken, -⟩
    · exact same
    · exact absurd taken (none payer amount source)

end Runs

section Sample

/-- Deposits of all that a signed word holds, with a payment of it in between. -/
def manyReceipts : List (Label ReferenceLedger) :=
  [ ⟨.signedByAll ⟨0⟩ 2, .call (.addSigner ⟨2⟩)⟩,
    ⟨.signedByAll ⟨0⟩ 3, .call (.receiveFee ⟨1⟩ (2 ^ 127 - 1) .protocolFee)⟩,
    ⟨.signedByAll ⟨0⟩ 4, .call (.proposeWithdrawal ⟨2⟩ ⟨1⟩ (2 ^ 127 - 1))⟩,
    ⟨.signedByAll ⟨0⟩ 5, .call (.approveWithdrawal ⟨2⟩ 0)⟩,
    ⟨.signedByAll ⟨0⟩ 6, .call (.executeWithdrawal 0 0)⟩,
    ⟨.signedByAll ⟨0⟩ 7, .call (.receiveFee ⟨1⟩ (2 ^ 127 - 1) .slashedFunds)⟩ ]

def receiving : State ReferenceLedger :=
  advance (next ReferenceLedger.token ⟨0⟩) ⟨.deployed, .uniform (2 ^ 127)⟩
    ⟨.signedByAll ⟨0⟩ 1, .call (.initializeTreasury ⟨1⟩ ⟨9⟩)⟩

/-- The second deposit carries into the rollovers of the total. -/
theorem receipts_exact_sample :
    ∃ trace, ∃ final : State ReferenceLedger,
      Run (Step ReferenceLedger.token ⟨0⟩) receiving trace final ∧
        ReceiptsExact final trace ∧
          final.storage.cumulativeReceived = ⟨1, 2 ^ 127 - 2⟩ := by
  have started : Step ReferenceLedger.token ⟨0⟩ ⟨.deployed, .uniform (2 ^ 127)⟩
      ⟨.signedByAll ⟨0⟩ 1, .call (.initializeTreasury ⟨1⟩ ⟨9⟩)⟩ receiving :=
    step_of_next (next_eq_advance (by decide +kernel))
  have run : Run (Step ReferenceLedger.token ⟨0⟩) receiving
      (record (next ReferenceLedger.token ⟨0⟩) receiving manyReceipts)
      (manyReceipts.foldl (advance (next ReferenceLedger.token ⟨0⟩)) receiving) :=
    run_of_record step_of_next (by decide +kernel)
  have carried : (manyReceipts.foldl (advance (next ReferenceLedger.token ⟨0⟩))
      receiving).storage.cumulativeReceived = ⟨1, 2 ^ 127 - 2⟩ := by decide +kernel
  refine ⟨_, _, run, receipts_exact started run ?_ ?_, carried⟩
  · simp only [record, manyReceipts, List.forall_mem_cons, Label.Typed]
    refine ⟨trivial, ?_, trivial, trivial, trivial, ?_, by simp⟩ <;> decide
  · simp [record, manyReceipts, Label.Continues]

end Sample

end Treasury
