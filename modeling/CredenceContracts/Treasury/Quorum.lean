import CredenceContracts.Treasury.Lifecycle

/-!
# The quorum behind a withdrawal

Execution compares the cached approval count with the threshold.  The count
also holds the approvals of signers who were removed since, so the approvers who
are signers can be fewer than the threshold; they are not in a run that removes
no signer whose approval still counts.
-/

namespace Treasury

open Soroban Transition

variable {Ledger : Type} {token : TokenInterface Ledger} {self : Address}
variable {initial state after : State Ledger} {label : Label Ledger}
variable {trace : List (Event (State Ledger) (Label Ledger))}

/-- The current signers who approved a proposal. -/
def currentApprovers (storage : Storage) (id : Nat) : Set Address :=
  {approver | storage.signer approver = true ∧ storage.approval id approver = true}

/-- As many current signers approved the proposal as the threshold asks for. -/
def Quorum (storage : Storage) (id : Nat) : Prop :=
  storage.threshold ≤ (currentApprovers storage id).encard

/-- Time never runs backwards along the trace. -/
def NondecreasingClock (trace : List (Event (State Ledger) (Label Ledger))) : Prop :=
  trace.Pairwise fun first second =>
    first.label.env.timestamp ≤ second.label.env.timestamp

theorem nondecreasingClock_of_labels
    (ordered : (trace.map Event.label).Pairwise fun first second =>
      first.env.timestamp ≤ second.env.timestamp) : NondecreasingClock trace :=
  by simpa [NondecreasingClock, List.pairwise_map] using ordered

/-- The event removes no signer whose approval of a pending and unexpired
proposal is recorded. -/
def RemovesNoApprover (event : Event (State Ledger) (Label Ledger)) : Prop :=
  ∀ signer, event.label.act = .call (.removeSigner signer) →
    event.before.storage.signer signer = true →
      ∀ id proposal, event.before.storage.proposal id = some proposal →
        proposal.executed = false → event.label.env.timestamp < proposal.expiresAt →
          event.before.storage.approval id signer = false

/-- An approval by someone who is no signer is of a proposal that was executed
or had expired by some event of the trace. -/
def StaleOnlyWhenDead (trace : List (Event (State Ledger) (Label Ledger)))
    (storage : Storage) : Prop :=
  ∀ id approver proposal, storage.approval id approver = true →
    storage.signer approver = false → storage.proposal id = some proposal →
      proposal.executed = true ∨
        ∃ event ∈ trace, proposal.expiresAt ≤ event.label.env.timestamp

/-- Events that happened keep counting when the trace grows. -/
theorem StaleOnlyWhenDead.later {storage : Storage}
    (dead : StaleOnlyWhenDead trace storage) (event : Event (State Ledger) (Label Ledger)) :
    StaleOnlyWhenDead (trace ++ [event]) storage := by
  intro id approver proposal given removed found
  rcases dead id approver proposal given removed found with executed | ⟨past, member, expired⟩
  · exact .inl executed
  · exact .inr ⟨past, List.mem_append_left _ member, expired⟩

theorem step_staleOnlyWhenDead (tallied : Tallied state.storage)
    (live : label.initializes = false) (removes : RemovesNoApprover ⟨state, label, after⟩)
    (dead : StaleOnlyWhenDead trace state.storage)
    (stepped : Step token self state label after) :
    StaleOnlyWhenDead (trace ++ [⟨state, label, after⟩]) after.storage := by
  have earlier := dead.later ⟨state, label, after⟩
  intro id approver proposal given removed found
  cases (step_changes stepped).2 with
  | kept same =>
      exact earlier id approver proposal (same.approval ▸ given) (same.signer ▸ removed)
        (same.proposal ▸ found)
  | restarted _ => simp [Label.initializes] at live
  | @signerAdded _ signer absent =>
      by_cases same : approver = signer
      · simp [same] at removed
      · exact earlier id approver proposal given (by simpa [same] using removed) found
  | @signerRemoved _ signer present =>
      by_cases same : approver = signer
      · subst same
        by_contra! alive
        obtain ⟨pending, unexpired⟩ := alive
        have timely := unexpired _ (List.mem_append_right _ List.mem_cons_self)
        have none := removes approver rfl present id proposal found (by simpa using pending)
          timely
        exact Bool.false_ne_true (none.symm.trans given)
      · exact earlier id approver proposal given (by simpa [same] using removed) found
  | thresholdSet _ => exact earlier id approver proposal given removed found
  | proposed created =>
      obtain ⟨_, _, _, _, _, _, _, _, _, stored⟩ := proposeWithdrawal_eq_ok.mp created
      rw [stored] at given removed found
      by_cases new : id = state.storage.proposalCounter
      · simp [(tallied.unused id new.ge).2 approver] at given
      · exact earlier id approver proposal given removed (by simpa [new] using found)
  | @approved _ signer proposalId _ member _ _ _ _ =>
      by_cases same : approver = signer
      · simp [same, member] at removed
      · refine earlier id approver proposal ?_ removed found
        simp only [Function.update_apply] at given
        split at given
        · rename_i sameId
          simpa [same, sameId, Function.update_apply] using given
        · exact given
  | @executed _ proposalId _ _ other _ _ _ _ _ updated =>
      rw [debitSources_frame updated] at given removed found
      by_cases same : id = proposalId
      · obtain rfl : _ = proposal := by simpa [same] using found
        exact .inl rfl
      · exact earlier id approver proposal given removed (by simpa [same] using found)

theorem staleOnlyWhenDead_of_run (run : Run (LiveStep token self) initial trace state)
    (noApprovals : initial.storage.approval = fun _ _ => false)
    (removes : ∀ event ∈ trace, RemovesNoApprover event) :
    StaleOnlyWhenDead trace state.storage := by
  induction run with
  | nil =>
      intro id approver proposal given
      simp [noApprovals] at given
  | snoc run stepped ih =>
      have earlier := ih fun event member => removes event (List.mem_append_left _ member)
      exact step_staleOnlyWhenDead stepped.2.2 stepped.2.1
        (removes _ (List.mem_append_right _ List.mem_cons_self)) earlier stepped.1

/-- Where every approver is still a signer, the approval count is a quorum. -/
theorem quorum_of_all_current {storage : Storage} {id : Nat} (tallied : Tallied storage)
    (reached : storage.threshold ≤ storage.approvalCount id)
    (current : ∀ approver, storage.approval id approver = true →
      storage.signer approver = true) : Quorum storage id := by
  have same : currentApprovers storage id = Flags.raised (storage.approval id) := by
    ext approver
    exact ⟨fun both => both.2, fun given => ⟨current approver given, given⟩⟩
  rw [Quorum, same, tallied.counted id]
  exact_mod_cast reached

/-- In a run that removes no signer whose approval still counts, a quorum of
current signers approved every withdrawal at its execution. -/
theorem executes_with_quorum (once : InitializedOnce token self trace state)
    (clock : NondecreasingClock trace) (removes : ∀ event ∈ trace, RemovesNoApprover event) :
    ∀ event ∈ trace, ∀ id, event.label.executes id = true →
      Quorum event.before.storage id := by
  intro event member id called
  obtain ⟨initial, run, _, _, noApprovals⟩ := once.live
  obtain ⟨earlier, rest, rfl⟩ := List.append_of_mem member
  obtain ⟨before, stepped, _⟩ := run.split rfl
  have dead := staleOnlyWhenDead_of_run before noApprovals fun past pastMember =>
    removes past (List.mem_append_left _ pastMember)
  obtain ⟨proposal, reached, found, pending, timely⟩ := guards_of_executes called stepped.1
  refine quorum_of_all_current stepped.2.2 reached ?_
  intro approver given
  by_contra removed
  rcases dead id approver proposal given (by simpa using removed) found with
    executed | ⟨past, pastMember, expired⟩
  · simp [pending] at executed
  · have ordered := (List.pairwise_append.mp clock).2.2 past pastMember event
      List.mem_cons_self
    omega

section Sample

/-- One of two signers proposes and approves a payment. -/
def approvedCalls : List (Label ReferenceLedger) :=
  [ ⟨.signedByAll ⟨0⟩ 2, .call (.addSigner ⟨2⟩)⟩,
    ⟨.signedByAll ⟨0⟩ 2, .call (.addSigner ⟨3⟩)⟩,
    ⟨.signedByAll ⟨0⟩ 3, .call (.setThreshold 1)⟩,
    ⟨.signedByAll ⟨0⟩ 4, .call (.receiveFee ⟨1⟩ 10 .protocolFee)⟩,
    ⟨.signedByAll ⟨0⟩ 5, .call (.proposeWithdrawal ⟨2⟩ ⟨5⟩ 7)⟩,
    ⟨.signedByAll ⟨0⟩ 6, .call (.approveWithdrawal ⟨2⟩ 0)⟩ ]

def removal (signer : Address) : Label ReferenceLedger :=
  ⟨.signedByAll ⟨0⟩ 7, .call (.removeSigner signer)⟩

def execution : Label ReferenceLedger :=
  ⟨.signedByAll ⟨0⟩ 8, .call (.executeWithdrawal 0 7)⟩

/-- Whichever signer is removed, the payment executes at threshold one, on the
approval of the one signer who gave it. -/
theorem approvedCalls_follow (signer : Address) (either : signer = ⟨2⟩ ∨ signer = ⟨3⟩) :
    ∃ initial approved removed after,
      next ReferenceLedger.token ⟨0⟩ ⟨.deployed, .uniform 100⟩
          ⟨.signedByAll ⟨0⟩ 1, .call (.initializeTreasury ⟨1⟩ ⟨9⟩)⟩ = some initial ∧
        replay (next ReferenceLedger.token ⟨0⟩) initial approvedCalls = some approved ∧
          next ReferenceLedger.token ⟨0⟩ approved (removal signer) = some removed ∧
            next ReferenceLedger.token ⟨0⟩ removed execution = some after ∧
              removed.storage.threshold = 1 ∧
                removed.storage.signer signer = false ∧
                  approved.storage.approval = removed.storage.approval ∧
                    (∀ id approver, removed.storage.approval id approver = true →
                      approver = ⟨2⟩) := by
  rcases either with rfl | rfl
  all_goals
    refine ⟨_, _, _, _, rfl, rfl, rfl, rfl, rfl, rfl, rfl, ?_⟩
    intro id approver given
    by_contra different
    by_cases first : id = 0 <;> simp [Storage.deployed, first, different] at given

theorem approvedCalls_clock {approved removed after : State ReferenceLedger}
    {trace : List (Event (State ReferenceLedger) (Label ReferenceLedger))} {signer : Address}
    (labelled : trace.map Event.label = approvedCalls) :
    NondecreasingClock ((trace ++ [⟨approved, removal signer, removed⟩]) ++
      [⟨removed, execution, after⟩]) := by
  apply nondecreasingClock_of_labels
  simp [labelled, approvedCalls, removal, execution, Env.signedByAll]

/-- A removed signer's approval alone lets a withdrawal execute. -/
theorem removed_approver_executes :
    ¬∀ trace, ∀ state : State ReferenceLedger,
      InitializedOnce ReferenceLedger.token ⟨0⟩ trace state → NondecreasingClock trace →
        ∀ event ∈ trace, ∀ id, event.label.executes id = true →
          Quorum event.before.storage id := by
  intro claimed
  obtain ⟨initial, approved, removed, after, started, followed, removing, executing,
    threshold, gone, _, only⟩ := approvedCalls_follow ⟨2⟩ (.inl rfl)
  obtain ⟨trace, once, labelled⟩ := InitializedOnce.of_replay started followed (by decide)
  have onceExecuted := (once.snoc (step_of_next removing) rfl).snoc
    (step_of_next executing) rfl
  have reached := claimed _ _ onceExecuted (approvedCalls_clock labelled) _
    (List.mem_append_right _ List.mem_cons_self) 0 rfl
  have nobody : currentApprovers removed.storage 0 = ∅ := by
    ext approver
    constructor
    · rintro ⟨member, given⟩
      simp [only 0 approver given, gone] at member
    · exact False.elim
  simp [Quorum, threshold, nobody] at reached

/-- Removing the signer who did not approve leaves a quorum of one. -/
theorem executes_with_quorum_sample :
    ∃ trace, ∃ before after : State ReferenceLedger,
      InitializedOnce ReferenceLedger.token ⟨0⟩ trace after ∧
        (⟨before, execution, after⟩ : Event _ _) ∈ trace ∧
          before.storage.threshold = 1 ∧ Quorum before.storage 0 := by
  obtain ⟨initial, approved, removed, after, started, followed, removing, executing,
    threshold, _, same, only⟩ := approvedCalls_follow ⟨3⟩ (.inr rfl)
  obtain ⟨trace, once, labelled⟩ := InitializedOnce.of_replay started followed (by decide)
  have onceExecuted := (once.snoc (step_of_next removing) rfl).snoc
    (step_of_next executing) rfl
  have removes : ∀ event ∈ (trace ++ [⟨approved, removal ⟨3⟩, removed⟩]) ++
      [⟨removed, execution, after⟩], RemovesNoApprover event := by
    intro event member signer called present id proposal found pending timely
    simp only [List.mem_append, List.mem_singleton] at member
    rcases member with (earlier | rfl) | rfl
    · have listed : event.label ∈ approvedCalls := labelled ▸ List.mem_map_of_mem earlier
      simp [approvedCalls] at listed
      rcases listed with other | other | other | other | other | other <;>
        simp [other] at called
    · obtain rfl : (⟨3⟩ : Address) = signer := by simpa [removal] using called
      by_contra given
      have approver := only id ⟨3⟩ (same ▸ by simpa using given)
      simp at approver
    · simp [execution] at called
  exact ⟨_, removed, after, onceExecuted, List.mem_append_right _ List.mem_cons_self,
    threshold, executes_with_quorum onceExecuted (approvedCalls_clock labelled) removes _
      (List.mem_append_right _ List.mem_cons_self) 0 rfl⟩

end Sample

end Treasury
