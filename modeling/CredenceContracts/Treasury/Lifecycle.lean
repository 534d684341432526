import CredenceContracts.Library.Flags
import CredenceContracts.Treasury.Spec

/-!
# The life of a withdrawal proposal

Ids are handed out once, so after the one initialisation every id names one
proposal for good.  Its approval count is the number of approvals recorded for
it, its terms are fixed, and it is executed at most once, before it expires, by
a transfer of exactly its amount.
-/

namespace Treasury

open Soroban Transition

variable {Ledger : Type} {token : TokenInterface Ledger} {self : Address}

def Label.initializes (label : Label Ledger) : Bool :=
  match label.act with
  | .call (.initializeTreasury _ _) => true
  | _ => false

def Label.executes (id : Nat) (label : Label Ledger) : Bool :=
  match label.act with
  | .call (.executeWithdrawal proposalId _) => proposalId == id
  | _ => false

/-- The runs that follow the one initialisation of a new treasury. -/
inductive InitializedOnce (token : TokenInterface Ledger) (self : Address) :
    List (Event (State Ledger) (Label Ledger)) → State Ledger → Prop where
  | run {env : Env} {admin asset : Address} {ledger : Ledger} {initial final : State Ledger}
      {trace : List (Event (State Ledger) (Label Ledger))} :
      Step token self ⟨.deployed, ledger⟩
        ⟨env, .call (.initializeTreasury admin asset)⟩ initial →
      Run (Step token self) initial trace final →
      (∀ event ∈ trace, event.label.initializes = false) →
      InitializedOnce token self trace final

/-- Counts are the numbers of recorded approvals, and ids from the counter on
are unused. -/
structure Tallied (storage : Storage) : Prop where
  counted : ∀ id, (Flags.raised (storage.approval id)).encard = storage.approvalCount id
  unused : ∀ id, storage.proposalCounter ≤ id →
    storage.proposal id = none ∧ ∀ approver, storage.approval id approver = false

/-- A used id lies below the counter. -/
theorem Tallied.lt_counter {storage : Storage} (tallied : Tallied storage) {id : Nat}
    {proposal : WithdrawalProposal} (found : storage.proposal id = some proposal) :
    id < storage.proposalCounter := by
  by_contra! beyond
  simp [(tallied.unused id beyond).1] at found

theorem tallied_initialized {env : Env} {admin asset : Address} {storage : Storage}
    (reset : initializeTreasury env .deployed admin asset = .ok storage) :
    Tallied storage := by
  obtain ⟨_, rfl⟩ := initializeTreasury_eq_ok.mp reset
  constructor
  · intro id
    simp [Storage.deployed]
  · intro id _
    simp [Storage.deployed]

theorem Tallied.of_same {storage other : Storage} (tallied : Tallied storage)
    (same : SameProposals storage other) : Tallied other := by
  constructor
  · intro id
    rw [same.approval, same.approvalCount]
    exact tallied.counted id
  · intro id beyond
    rw [same.proposal, same.approval]
    exact tallied.unused id (same.proposalCounter ▸ beyond)

section Steps

variable {state after : State Ledger} {label : Label Ledger}

theorem step_tallied (tallied : Tallied state.storage) (live : label.initializes = false)
    (stepped : Step token self state label after) : Tallied after.storage := by
  cases (step_changes stepped).2 with
  | kept same => exact tallied.of_same same
  | restarted _ => simp [Label.initializes] at live
  | signerAdded _ => exact ⟨tallied.counted, tallied.unused⟩
  | signerRemoved _ => exact ⟨tallied.counted, tallied.unused⟩
  | thresholdSet _ => exact ⟨tallied.counted, tallied.unused⟩
  | proposed created =>
      obtain ⟨_, _, _, _, _, _, _, _, _, stored⟩ := proposeWithdrawal_eq_ok.mp created
      rw [stored]
      constructor
      · intro id
        by_cases new : id = state.storage.proposalCounter
        · have none := (tallied.unused id new.ge).2
          simp [new, Flags.raised, new ▸ none]
        · simpa [new] using tallied.counted id
      · intro id beyond
        have above : state.storage.proposalCounter + 1 ≤ id := beyond
        have different : id ≠ state.storage.proposalCounter := by omega
        simpa [different] using tallied.unused id (by omega)
  | @approved env approver proposalId proposal _ found _ _ fresh =>
      constructor
      · intro id
        by_cases same : id = proposalId
        · simp [same, Flags.encard_raised_set fresh, tallied.counted]
        · simpa [same] using tallied.counted id
      · intro id beyond
        have different : id ≠ proposalId :=
          (tallied.lt_counter found).trans_le beyond |>.ne'
        simpa [different] using tallied.unused id beyond
  | @executed env proposalId _ _ proposal debited _ _ guarded _ updated =>
      obtain ⟨_, found, _⟩ := withdrawalGuards_eq_ok.mp guarded
      rw [debitSources_frame updated]
      constructor
      · exact tallied.counted
      · intro id beyond
        have different : id ≠ proposalId :=
          (tallied.lt_counter found).trans_le beyond |>.ne'
        simpa [different] using tallied.unused id beyond

/-- Two versions of one proposal agree on everything but its execution. -/
structure SameTerms (proposal later : WithdrawalProposal) : Prop where
  recipient : later.recipient = proposal.recipient
  amount : later.amount = proposal.amount
  proposedAt : later.proposedAt = proposal.proposedAt
  expiresAt : later.expiresAt = proposal.expiresAt
  proposer : later.proposer = proposal.proposer

theorem SameTerms.refl (proposal : WithdrawalProposal) : SameTerms proposal proposal :=
  ⟨rfl, rfl, rfl, rfl, rfl⟩

theorem SameTerms.trans {first second third : WithdrawalProposal}
    (earlier : SameTerms first second) (later : SameTerms second third) :
    SameTerms first third where
  recipient := later.recipient.trans earlier.recipient
  amount := later.amount.trans earlier.amount
  proposedAt := later.proposedAt.trans earlier.proposedAt
  expiresAt := later.expiresAt.trans earlier.expiresAt
  proposer := later.proposer.trans earlier.proposer

/-- What holds of a proposal from one storage to a later one. -/
def Persists (id : Nat) (proposal : WithdrawalProposal) (storage later : Storage) : Prop :=
  ∃ current, later.proposal id = some current ∧ SameTerms proposal current ∧
    (proposal.executed = true →
      current.executed = true ∧ later.approval id = storage.approval id)

/-- A step keeps the terms of every stored proposal, and of an executed one also
its execution and its approvals. -/
theorem step_persists (tallied : Tallied state.storage) (live : label.initializes = false)
    (stepped : Step token self state label after) {id : Nat} {proposal : WithdrawalProposal}
    (found : state.storage.proposal id = some proposal) :
    Persists id proposal state.storage after.storage := by
  cases (step_changes stepped).2 with
  | kept same =>
      refine ⟨proposal, same.proposal ▸ found, .refl _, fun executed => ⟨executed, ?_⟩⟩
      rw [same.approval]
  | restarted _ => simp [Label.initializes] at live
  | signerAdded _ => exact ⟨proposal, found, .refl _, fun executed => ⟨executed, rfl⟩⟩
  | signerRemoved _ => exact ⟨proposal, found, .refl _, fun executed => ⟨executed, rfl⟩⟩
  | thresholdSet _ => exact ⟨proposal, found, .refl _, fun executed => ⟨executed, rfl⟩⟩
  | proposed created =>
      obtain ⟨_, _, _, _, _, _, _, _, _, stored⟩ := proposeWithdrawal_eq_ok.mp created
      have different : id ≠ state.storage.proposalCounter := (tallied.lt_counter found).ne
      rw [stored]
      exact ⟨proposal, by simpa [different] using found, .refl _,
        fun executed => ⟨executed, rfl⟩⟩
  | @approved env approver proposalId other _ stored pending _ _ =>
      refine ⟨proposal, found, .refl _, fun executed => ⟨executed, ?_⟩⟩
      have different : id ≠ proposalId := by
        rintro rfl
        obtain rfl : proposal = other := Option.some.inj (found.symm.trans stored)
        simp [executed] at pending
      simp [different]
  | @executed env proposalId _ _ other debited _ _ guarded _ updated =>
      obtain ⟨_, stored, _⟩ := withdrawalGuards_eq_ok.mp guarded
      rw [debitSources_frame updated]
      by_cases same : id = proposalId
      · subst same
        obtain rfl : proposal = other := Option.some.inj (found.symm.trans stored)
        exact ⟨{ proposal with executed := true }, by simp, ⟨rfl, rfl, rfl, rfl, rfl⟩,
          fun _ => ⟨rfl, rfl⟩⟩
      · exact ⟨proposal, by simpa [same] using found, .refl _,
          fun executed => ⟨executed, rfl⟩⟩

/-- The event records a signer's approval of a pending proposal in time. -/
structure Approves (id : Nat) (approver : Address)
    (event : Event (State Ledger) (Label Ledger)) : Prop where
  call : event.label.act = .call (.approveWithdrawal approver id)
  member : event.before.storage.signer approver = true
  pending : ∃ proposal, event.before.storage.proposal id = some proposal ∧
    proposal.executed = false ∧ event.label.env.timestamp < proposal.expiresAt

/-- The event pays a pending proposal in time, by a transfer of its amount to
its recipient. -/
def Pays (token : TokenInterface Ledger) (self : Address) (id : Nat)
    (event : Event (State Ledger) (Label Ledger)) : Prop :=
  ∃ proposal asset, event.before.storage.proposal id = some proposal ∧
    proposal.executed = false ∧ event.label.env.timestamp < proposal.expiresAt ∧
      event.before.storage.token = some asset ∧
        token.transfer event.before.ledger asset self proposal.recipient proposal.amount =
            some event.after.ledger ∧
          event.after.storage.proposal id = some { proposal with executed := true }

/-- A recorded approval was there before the step or is given by it. -/
theorem approval_of_step (live : label.initializes = false)
    (stepped : Step token self state label after) {id : Nat} {approver : Address}
    (given : after.storage.approval id approver = true) :
    state.storage.approval id approver = true ∨ Approves id approver ⟨state, label, after⟩ := by
  cases (step_changes stepped).2 with
  | kept same => exact .inl (same.approval ▸ given)
  | restarted _ => simp [Label.initializes] at live
  | signerAdded _ => exact .inl given
  | signerRemoved _ => exact .inl given
  | thresholdSet _ => exact .inl given
  | proposed created =>
      obtain ⟨_, _, _, _, _, _, _, _, _, stored⟩ := proposeWithdrawal_eq_ok.mp created
      rw [stored] at given
      exact .inl given
  | @approved env signer proposalId proposal member found pending timely _ =>
      by_cases same : id = proposalId ∧ approver = signer
      · obtain ⟨rfl, rfl⟩ := same
        exact .inr ⟨rfl, member, proposal, found, pending, timely⟩
      · left
        simp only [Function.update_apply] at given
        split at given
        · rename_i sameId
          subst sameId
          simpa [Function.update_apply, show approver ≠ signer by simpa using same] using given
        · exact given
  | executed _ _ _ updated =>
      rw [debitSources_frame updated] at given
      exact .inl given

/-- A step that executes a withdrawal is the call that does. -/
theorem withdrawal_of_executes {id : Nat} (called : label.executes id = true)
    (stepped : Step token self state label after) :
    label.env.currentContractAddress = self ∧
      ∃ minAmountOut, executeWithdrawal token label.env state id minAmountOut = .ok after := by
  cases stepped with
  | elsewhere => simp [Label.executes] at called
  | @call env _ _ call addressed accepted =>
      cases call with
      | executeWithdrawal proposalId minAmountOut =>
          obtain rfl : proposalId = id := by simpa [Label.executes] using called
          exact ⟨addressed, minAmountOut, accepted⟩
      | _ => simp [Label.executes] at called

/-- A successful execution passed the approval threshold on a pending and
unexpired proposal. -/
theorem guards_of_executes {id : Nat} (called : label.executes id = true)
    (stepped : Step token self state label after) :
    ∃ proposal, state.storage.threshold ≤ state.storage.approvalCount id ∧
      state.storage.proposal id = some proposal ∧ proposal.executed = false ∧
        label.env.timestamp < proposal.expiresAt := by
  obtain ⟨-, _, accepted⟩ := withdrawal_of_executes called stepped
  obtain ⟨proposal, _, _, guarded, _⟩ := executeWithdrawal_eq_ok.mp accepted
  obtain ⟨_, found, timely, pending, reached, _⟩ := withdrawalGuards_eq_ok.mp guarded
  exact ⟨proposal, reached, found, pending, timely⟩

theorem pays_of_executes {id : Nat} (called : label.executes id = true)
    (stepped : Step token self state label after) :
    Pays token self id ⟨state, label, after⟩ := by
  obtain ⟨addressed, _, accepted⟩ := withdrawal_of_executes called stepped
  obtain ⟨proposal, actual, debited, guarded, settled, updated, stored⟩ :=
    executeWithdrawal_eq_ok.mp accepted
  obtain ⟨_, found, timely, pending, _⟩ := withdrawalGuards_eq_ok.mp guarded
  obtain ⟨asset, configured, moved, _⟩ := settle_eq_ok.mp settled
  refine ⟨proposal, asset, found, pending, timely, configured, addressed ▸ moved, ?_⟩
  simp [stored]

/-- A proposal that is executed after a step was so before or is executed by it. -/
theorem executed_of_step (live : label.initializes = false)
    (stepped : Step token self state label after) {id : Nat} {proposal : WithdrawalProposal}
    (found : after.storage.proposal id = some proposal) (done : proposal.executed = true) :
    (∃ earlier, state.storage.proposal id = some earlier ∧ earlier.executed = true) ∨
      label.executes id = true := by
  cases (step_changes stepped).2 with
  | kept same => exact .inl ⟨proposal, same.proposal ▸ found, done⟩
  | restarted _ => simp [Label.initializes] at live
  | signerAdded _ => exact .inl ⟨proposal, found, done⟩
  | signerRemoved _ => exact .inl ⟨proposal, found, done⟩
  | thresholdSet _ => exact .inl ⟨proposal, found, done⟩
  | approved _ _ _ _ _ => exact .inl ⟨proposal, found, done⟩
  | proposed created =>
      obtain ⟨_, _, _, _, _, _, _, _, _, stored⟩ := proposeWithdrawal_eq_ok.mp created
      simp only [stored, Function.update_apply] at found
      split at found
      · cases found
        simp at done
      · exact .inl ⟨proposal, found, done⟩
  | @executed env proposalId _ _ other debited _ _ _ _ updated =>
      rw [debitSources_frame updated] at found
      by_cases same : id = proposalId
      · exact .inr (by simp [Label.executes, same])
      · exact .inl ⟨proposal, by simpa [same] using found, done⟩

end Steps

section Runs

variable {initial state : State Ledger} {trace : List (Event (State Ledger) (Label Ledger))}

/-- A step of a treasury that is not initialised again, from a tallied storage. -/
def LiveStep (token : TokenInterface Ledger) (self : Address) (state : State Ledger)
    (label : Label Ledger) (after : State Ledger) : Prop :=
  Step token self state label after ∧ label.initializes = false ∧ Tallied state.storage

/-- A run after the one initialisation is a run of live steps. -/
theorem InitializedOnce.live (once : InitializedOnce token self trace state) :
    ∃ initial, Run (LiveStep token self) initial trace state ∧ Tallied state.storage ∧
      initial.storage.proposal = (fun _ => none) ∧
        initial.storage.approval = (fun _ _ => false) := by
  cases once with
  | @run env admin asset ledger initial _ _ started run quiet =>
      cases started with
      | call addressed accepted =>
          have reset := (storing_eq_ok.mp accepted).1
          obtain ⟨live, tallied⟩ := run.restrict (fun event => event.label.initializes = false)
            (fun state => Tallied state.storage) quiet (tallied_initialized reset)
            fun event quiet tallied stepped => step_tallied tallied quiet stepped
          obtain ⟨_, stored⟩ := initializeTreasury_eq_ok.mp reset
          exact ⟨initial, live, tallied, by simp [stored, Storage.deployed],
            by simp [stored, Storage.deployed]⟩

/-- A run keeps the terms of a stored proposal, and of an executed one also its
execution and its approvals. -/
theorem persists_of_run {id : Nat} {proposal : WithdrawalProposal}
    (run : Run (LiveStep token self) initial trace state)
    (found : initial.storage.proposal id = some proposal) :
    Persists id proposal initial.storage state.storage := by
  refine run.invariant (fun later => Persists id proposal initial.storage later.storage)
    ⟨proposal, found, .refl _, fun executed => ⟨executed, rfl⟩⟩ ?_
  intro event held stepped
  obtain ⟨current, stored, terms, kept⟩ := held
  obtain ⟨live, quiet, tallied⟩ := stepped
  obtain ⟨next, storedNext, nextTerms, nextKept⟩ := step_persists tallied quiet live stored
  refine ⟨next, storedNext, terms.trans nextTerms, fun executed => ?_⟩
  obtain ⟨currentExecuted, approvals⟩ := kept executed
  obtain ⟨nextExecuted, nextApprovals⟩ := nextKept currentExecuted
  exact ⟨nextExecuted, nextApprovals.trans approvals⟩

/-- Every recorded approval was given by an event of the run. -/
theorem approves_of_run {id : Nat} {approver : Address}
    (run : Run (LiveStep token self) initial trace state)
    (none : initial.storage.approval id approver = false)
    (given : state.storage.approval id approver = true) :
    ∃ event ∈ trace, Approves id approver event := by
  induction run with
  | nil => simp [none] at given
  | @snoc trace before after label run stepped ih =>
      rcases approval_of_step stepped.2.1 stepped.1 given with earlier | now
      · obtain ⟨event, member, approves⟩ := ih earlier
        exact ⟨event, List.mem_append_left _ member, approves⟩
      · exact ⟨_, List.mem_append_right _ List.mem_cons_self, now⟩

/-- Every executed proposal was executed by an event of the run. -/
theorem executes_of_run {id : Nat} {proposal : WithdrawalProposal}
    (run : Run (LiveStep token self) initial trace state)
    (none : initial.storage.proposal id = none)
    (found : state.storage.proposal id = some proposal) (done : proposal.executed = true) :
    ∃ event ∈ trace, event.label.executes id = true := by
  induction run generalizing proposal with
  | nil => simp [none] at found
  | @snoc trace before after label run stepped ih =>
      rcases executed_of_step stepped.2.1 stepped.1 found done with earlier | now
      · obtain ⟨other, stored, executed⟩ := earlier
        obtain ⟨event, member, executes⟩ := ih stored executed
        exact ⟨event, List.mem_append_left _ member, executes⟩
      · exact ⟨_, List.mem_append_right _ List.mem_cons_self, now⟩

/-- No proposal is executed twice. -/
theorem executed_once (run : Run (LiveStep token self) initial trace state) (id : Nat) :
    (trace.filter fun event => event.label.executes id).length ≤ 1 := by
  refine run.length_filter_le_one (fun event => event.label.executes id)
    (fun state => ∃ proposal, state.storage.proposal id = some proposal ∧
      proposal.executed = true) ?_ ?_ ?_
  · intro event called stepped
    obtain ⟨proposal, _, found, pending, _⟩ := pays_of_executes called stepped.1
    rintro ⟨other, stored, executed⟩
    obtain rfl : proposal = other := Option.some.inj (found.symm.trans stored)
    simp [executed] at pending
  · intro event called stepped
    obtain ⟨_, _, _, _, _, _, _, stored⟩ := pays_of_executes called stepped.1
    exact ⟨_, stored, rfl⟩
  · intro event spent stepped
    obtain ⟨proposal, found, executed⟩ := spent
    obtain ⟨current, stored, _, kept⟩ := step_persists stepped.2.2 stepped.2.1 stepped.1 found
    exact ⟨current, stored, (kept executed).1⟩

/-- The life of a proposal: its count is the number of its approvals, each given
by a signer while it was pending and unexpired; its terms never change; it is
executed at most once, in time, by a transfer of its amount to its recipient;
and an executed proposal stays executed and gains no approval. -/
theorem proposal_lifecycle (once : InitializedOnce token self trace state) (id : Nat) :
    (Flags.raised (state.storage.approval id)).encard = state.storage.approvalCount id ∧
      (∀ approver, state.storage.approval id approver = true →
        ∃ event ∈ trace, Approves id approver event) ∧
      (∀ event ∈ trace, ∀ proposal, event.before.storage.proposal id = some proposal →
        Persists id proposal event.before.storage state.storage) ∧
      (trace.filter fun event => event.label.executes id).length ≤ 1 ∧
      (∀ event ∈ trace, event.label.executes id = true → Pays token self id event) ∧
      (∀ proposal, state.storage.proposal id = some proposal → proposal.executed = true →
        ∃ event ∈ trace, event.label.executes id = true) := by
  obtain ⟨initial, run, tallied, noProposals, noApprovals⟩ := once.live
  refine ⟨tallied.counted id, ?_, ?_, executed_once run id, ?_, ?_⟩
  · intro approver given
    exact approves_of_run run (by simp [noApprovals]) given
  · intro event member proposal found
    obtain ⟨earlier, rest, position⟩ := List.append_of_mem member
    obtain ⟨_, stepped, later⟩ := run.split position
    exact persists_of_run (later.cons stepped) found
  · intro event member called
    exact pays_of_executes called (run.stepped_of_mem member).1
  · intro proposal found done
    exact executes_of_run run (by simp [noProposals]) found done

theorem InitializedOnce.snoc {after : State Ledger} {label : Label Ledger}
    (once : InitializedOnce token self trace state)
    (stepped : Step token self state label after) (quiet : label.initializes = false) :
    InitializedOnce token self (trace ++ [⟨state, label, after⟩]) after := by
  cases once with
  | run started run quietBefore =>
      refine .run started (run.snoc stepped) ?_
      intro event member
      rcases List.mem_append.mp member with earlier | last
      · exact quietBefore event earlier
      · obtain rfl : event = ⟨state, label, after⟩ := by simpa using last
        exact quiet

/-- Calls that can be followed after an initialisation make a run. -/
theorem InitializedOnce.of_replay {env : Env} {admin asset : Address} {ledger : Ledger}
    {labels : List (Label Ledger)}
    (started : next token self ⟨.deployed, ledger⟩
      ⟨env, .call (.initializeTreasury admin asset)⟩ = some initial)
    (followed : replay (next token self) initial labels = some state)
    (quiet : ∀ label ∈ labels, label.initializes = false) :
    ∃ trace, InitializedOnce token self trace state ∧ trace.map Event.label = labels := by
  obtain ⟨trace, run, labelled⟩ := run_of_replay step_of_next followed
  refine ⟨trace, .run (step_of_next started) run ?_, labelled⟩
  intro event member
  exact quiet event.label (labelled ▸ List.mem_map_of_mem member)

/-- Two signers of three propose, approve and execute a payment of seven. -/
def lifecycleCalls : List (Label ReferenceLedger) :=
  [ ⟨.signedByAll ⟨0⟩ 2, .call (.addSigner ⟨2⟩)⟩,
    ⟨.signedByAll ⟨0⟩ 2, .call (.addSigner ⟨3⟩)⟩,
    ⟨.signedByAll ⟨0⟩ 3, .call (.setThreshold 2)⟩,
    ⟨.signedByAll ⟨0⟩ 4, .call (.receiveFee ⟨1⟩ 10 .protocolFee)⟩,
    ⟨.signedByAll ⟨0⟩ 5, .call (.proposeWithdrawal ⟨2⟩ ⟨5⟩ 7)⟩,
    ⟨.signedByAll ⟨0⟩ 6, .call (.approveWithdrawal ⟨2⟩ 0)⟩,
    ⟨.signedByAll ⟨0⟩ 7, .call (.approveWithdrawal ⟨3⟩ 0)⟩,
    ⟨.signedByAll ⟨0⟩ 8, .call (.executeWithdrawal 0 7)⟩ ]

theorem proposal_lifecycle_sample :
    ∃ trace, ∃ state : State ReferenceLedger,
      InitializedOnce ReferenceLedger.token ⟨0⟩ trace state ∧
        state.storage.approvalCount 0 = 2 ∧
          (Flags.raised (state.storage.approval 0)).encard = (2 : Nat) ∧
            ∃ event ∈ trace, Pays ReferenceLedger.token ⟨0⟩ 0 event := by
  obtain ⟨trace, once, labelled⟩ := InitializedOnce.of_replay
    (rfl : next ReferenceLedger.token ⟨0⟩ ⟨.deployed, .uniform 100⟩
      ⟨.signedByAll ⟨0⟩ 1, .call (.initializeTreasury ⟨1⟩ ⟨9⟩)⟩ = some _)
    (rfl : replay _ _ lifecycleCalls = some _) (by decide)
  obtain ⟨counted, _, _, _, pays, executes⟩ := proposal_lifecycle once 0
  obtain ⟨event, member, called⟩ := executes _ rfl rfl
  exact ⟨trace, _, once, rfl, counted, event, member, pays event member called⟩

end Runs

end Treasury
