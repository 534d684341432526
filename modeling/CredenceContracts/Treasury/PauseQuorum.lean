import CredenceContracts.Soroban.PauseSpec
import CredenceContracts.Treasury.Lifecycle

/-!
# Who pauses the treasury

With a positive threshold the treasury is paused and unpaused by executing a proposal.
Execution compares the cached count of approvals with the threshold, and an approval
stays counted after its signer was removed.  A proposal therefore has a quorum of
current signers exactly as long as its surplus of approvals covers the removed ones.
-/

namespace Treasury

open Soroban Transition

variable {Ledger : Type} {token : TokenInterface Ledger} {self : Address}
variable {state after : State Ledger} {label : Label Ledger}
variable {trace : List (Event (State Ledger) (Label Ledger))}

section Changes

theorem invoke_of_step {env : Env} {call : Pausable.Call}
    (stepped : Step token self state ⟨env, .call (.pausable call)⟩ after) :
    Pausable.invoke env state.storage.admin state.storage.pause call =
      .ok after.storage.pause := by
  cases stepped with
  | call addressed accepted =>
      obtain ⟨pause, invoked, stored⟩ := Outcome.bind_eq_ok.mp (storing_eq_ok.mp accepted).1
      rw [Outcome.pure_eq_ok.mp stored]
      exact invoked

/-- A step that is no initialisation leaves the pause entries alone or is a call of the
pause module. -/
theorem step_pause (stepped : Step token self state label after)
    (quiet : label.initializes = false) :
    after.storage.pause = state.storage.pause ∨
      ∃ call, label.act = .call (.pausable call) ∧
        Pausable.invoke label.env state.storage.admin state.storage.pause call =
          .ok after.storage.pause := by
  cases stepped with
  | elsewhere => exact .inl rfl
  | @call env _ _ call addressed accepted =>
      cases call with
      | initializeTreasury admin asset => cases quiet
      | receiveFee payer amount source =>
          obtain ⟨-, -, -, -, -, -, -, recorded, -⟩ := receiveFee_eq_ok.mp accepted
          obtain ⟨-, -, _, _, -, -, credited⟩ := creditSources_eq_ok.mp recorded
          exact .inl (by rw [credited])
      | executeWithdrawal proposalId minAmountOut =>
          obtain ⟨proposal, actual, debited, -, -, updated, stored⟩ :=
            executeWithdrawal_eq_ok.mp accepted
          rw [debitSources_frame updated] at stored
          exact .inl (by rw [stored])
      | rescueNative admin recipient amount =>
          obtain ⟨-, -, -, -, -, -, -, -, -, kept⟩ := rescueNative_eq_ok.mp accepted
          exact .inl (by rw [kept])
      | addDepositor depositor =>
          obtain ⟨-, ⟨-, kept⟩ | ⟨-, kept⟩⟩ :=
            addDepositor_eq_ok.mp (storing_eq_ok.mp accepted).1 <;>
          exact .inl (by rw [kept])
      | removeDepositor depositor =>
          obtain ⟨-, kept⟩ := removeDepositor_eq_ok.mp (storing_eq_ok.mp accepted).1
          exact .inl (by rw [kept])
      | addSigner signer =>
          obtain ⟨-, ⟨-, kept⟩ | ⟨-, -, kept⟩⟩ :=
            addSigner_eq_ok.mp (storing_eq_ok.mp accepted).1 <;>
          exact .inl (by rw [kept])
      | removeSigner signer =>
          obtain ⟨-, ⟨-, kept⟩ | ⟨-, kept⟩⟩ :=
            removeSigner_eq_ok.mp (storing_eq_ok.mp accepted).1 <;>
          exact .inl (by rw [kept])
      | setThreshold threshold =>
          obtain ⟨-, -, kept⟩ := setThreshold_eq_ok.mp (storing_eq_ok.mp accepted).1
          exact .inl (by rw [kept])
      | proposeWithdrawal proposer recipient amount =>
          obtain ⟨⟨stored, id⟩, proposed, same⟩ :=
            Outcome.map_eq_ok.mp (storing_eq_ok.mp accepted).1
          obtain rfl : after.storage = stored := same
          obtain ⟨-, -, -, -, -, -, -, _, -, kept⟩ := proposeWithdrawal_eq_ok.mp proposed
          exact .inl (by rw [kept])
      | approveWithdrawal approver proposalId =>
          obtain ⟨-, -, -, -, -, -, -, ⟨-, kept⟩ | ⟨-, -, kept⟩⟩ :=
            approveWithdrawal_eq_ok.mp (storing_eq_ok.mp accepted).1 <;>
          exact .inl (by rw [kept])
      | setToken admin asset =>
          obtain ⟨-, -, kept⟩ := setToken_eq_ok.mp (storing_eq_ok.mp accepted).1
          exact .inl (by rw [kept])
      | setMinLiquidity admin minLiquidity =>
          obtain ⟨-, -, kept⟩ := setMinLiquidity_eq_ok.mp (storing_eq_ok.mp accepted).1
          exact .inl (by rw [kept])
      | setProposalTtl admin ttl =>
          obtain ⟨-, -, kept⟩ := setProposalTtl_eq_ok.mp (storing_eq_ok.mp accepted).1
          exact .inl (by rw [kept])
      | pausable call =>
          exact .inr ⟨call, rfl, invoke_of_step (.call addressed accepted)⟩

end Changes

section Quorum

variable {event : Event (State Ledger) (Label Ledger)}

/-- The event changes whether the treasury is paused. -/
def ChangesPaused (event : Event (State Ledger) (Label Ledger)) : Prop :=
  event.after.storage.pause.paused ≠ event.before.storage.pause.paused

/-- The stored admin pauses or unpauses by its own authorised call while the threshold is
zero. -/
def PausedByAdmin (event : Event (State Ledger) (Label Ledger)) : Prop :=
  event.before.storage.pause.pauseThreshold = 0 ∧
    ∃ admin,
      (event.label.act = .call (.pausable (.pause admin)) ∨
          event.label.act = .call (.pausable (.unpause admin))) ∧
        Pausable.AdminAuth event.label.env event.before.storage.admin admin

/-- A proposal is executed that as many distinct current pause signers have approved as
the threshold asks for, and one at least. -/
def PausedByQuorum (event : Event (State Ledger) (Label Ledger)) : Prop :=
  ∃ id, event.label.act = .call (.pausable (.executePauseProposal id)) ∧
    ∃ quorum : Finset Address,
      max 1 event.before.storage.pause.pauseThreshold ≤ quorum.card ∧
        ∀ signer ∈ quorum, event.before.storage.pause.pauseSigner signer = true ∧
          event.before.storage.pause.pauseApproval id signer = true

/-- Where the event executes a proposal to flip the flag, the approvals beyond the quorum
are at least as many as the approvers who are pause signers no longer. -/
def CoversStale (event : Event (State Ledger) (Label Ledger)) : Prop :=
  ∀ id, event.label.act = .call (.pausable (.executePauseProposal id)) →
    ∀ action : Pausable.PauseAction,
      event.before.storage.pause.pauseProposal id = some action.code →
        action.leaves ≠ event.before.storage.pause.paused →
          (event.before.storage.pause.staleApprovers id).encard +
              (max 1 event.before.storage.pause.pauseThreshold : Nat) ≤
            event.before.storage.pause.pauseApprovalCount id

/-- A quorum of current signers is what the removed ones leave of the count. -/
theorem exists_quorum_iff {pause : Pausable.Storage} (counted : Pausable.Counted pause)
    (id needed : Nat) :
    (∃ quorum : Finset Address, needed ≤ quorum.card ∧
        ∀ signer ∈ quorum, pause.pauseSigner signer = true ∧
          pause.pauseApproval id signer = true) ↔
      (pause.staleApprovers id).encard + needed ≤ pause.pauseApprovalCount id := by
  have current : (∃ quorum : Finset Address, needed ≤ quorum.card ∧
      ∀ signer ∈ quorum, pause.pauseSigner signer = true ∧
        pause.pauseApproval id signer = true) ↔
      (needed : ENat) ≤ (pause.currentApprovers id).encard := by
    rw [← Flags.exists_finset_iff]
    simp [Pausable.Storage.currentApprovers, and_comm]
  have finite : (pause.staleApprovers id).encard ≠ ⊤ := by
    intro infinite
    have total := counted.split id
    simp [infinite] at total
  rw [current, ← counted.split id]
  exact (ENat.add_le_add_iff_left finite).symm

/-- One change of the flag is the admin's or a quorum's exactly when the surplus of
approvals covers the removed signers. -/
theorem paused_by_quorum_iff (stepped : Step token self event.before event.label event.after)
    (quiet : event.label.initializes = false)
    (counted : Pausable.Counted event.before.storage.pause) :
    (ChangesPaused event → PausedByAdmin event ∨ PausedByQuorum event) ↔
      CoversStale event := by
  obtain ⟨state, ⟨env, act⟩, after⟩ := event
  by_cases executes : ∃ id, act = .call (.pausable (.executePauseProposal id))
  · obtain ⟨id, rfl⟩ := executes
    obtain ⟨action, found, _, stored⟩ :=
      Pausable.executePauseProposal_eq_ok.mp (invoke_of_step stepped)
    have flag : after.storage.pause.paused = action.leaves := by rw [stored]
    constructor
    · intro legitimate other called again foundAgain flips
      obtain rfl : id = other := by simpa using called
      obtain rfl : action = again :=
        Pausable.PauseAction.code_injective (Option.some.inj (found.symm.trans foundAgain))
      have flipped := legitimate fun same => flips (flag.symm.trans same)
      rcases flipped with ⟨_, _, acted, _⟩ | ⟨_, same, quorum⟩
      · simp at acted
      · obtain rfl : id = _ := by simpa using same
        exact (exists_quorum_iff counted id _).mp quorum
    · intro covers changed
      have flips : action.leaves ≠ state.storage.pause.paused :=
        fun same => changed (flag.trans same)
      exact .inr ⟨id, rfl, (exists_quorum_iff counted id _).mpr
        (covers id rfl action found flips)⟩
  · constructor
    · intro _ id called
      exact absurd ⟨id, called⟩ executes
    · intro _ changed
      rcases step_pause stepped quiet with kept | ⟨call, called, invoked⟩
      · exact absurd (congrArg Pausable.Storage.paused kept) changed
      · rcases Pausable.changed_of_invoke invoked changed with direct | ⟨id, executed⟩
        · obtain ⟨zero, admin, acted, signed⟩ := direct
          refine .inl ⟨zero, admin, ?_, signed⟩
          rcases acted with rfl | rfl
          · exact .inl called
          · exact .inr called
        · exact absurd ⟨id, executed ▸ called⟩ executes

theorem counted_initialized {env : Env} {storage : Storage} {admin asset : Address}
    (reset : initializeTreasury env .deployed admin asset = .ok storage) :
    Pausable.Counted storage.pause := by
  simp only [initializeTreasury, Outcome.bind_eq_ok, Outcome.pure_eq_ok] at reset
  obtain ⟨_, _, rfl⟩ := reset
  exact Pausable.counted_deployed.of_same rfl rfl rfl rfl

theorem counted_step (counted : Pausable.Counted state.storage.pause)
    (stepped : Step token self state label after) (quiet : label.initializes = false) :
    Pausable.Counted after.storage.pause := by
  rcases step_pause stepped quiet with kept | ⟨_, _, invoked⟩
  · rw [kept]
    exact counted
  · exact counted.invoke invoked

/-- After an initialisation the cached counts are exact before every step. -/
theorem InitializedOnce.counted (once : InitializedOnce token self trace state)
    (member : event ∈ trace) :
    Step token self event.before event.label event.after ∧
      event.label.initializes = false ∧ Pausable.Counted event.before.storage.pause := by
  cases once with
  | @run env admin asset ledger initial _ _ started run quiet =>
      cases started with
      | call addressed accepted =>
          have initially := counted_initialized (storing_eq_ok.mp accepted).1
          obtain ⟨live, _⟩ := run.restrict (fun event => event.label.initializes = false)
            (fun state => Pausable.Counted state.storage.pause) quiet initially
            fun event calm counted stepped => counted_step counted stepped calm
          exact live.stepped_of_mem member

/-- In every run after the one initialisation, every change of the flag is the admin's at
a threshold of zero or a quorum's of current pause signers if and only if every proposal
that flips it has approvals to spare for its removed signers. -/
theorem pause_by_current_quorum_iff (once : InitializedOnce token self trace state) :
    (∀ event ∈ trace, ChangesPaused event → PausedByAdmin event ∨ PausedByQuorum event) ↔
      ∀ event ∈ trace, CoversStale event := by
  apply forall₂_congr
  intro event member
  obtain ⟨stepped, quiet, counted⟩ := once.counted member
  exact paused_by_quorum_iff stepped quiet counted

end Quorum

section Sample

/-- Three pause signers with a threshold of two; the first proposes a pause, and the
second approves it. -/
def pauseCalls : List (Label ReferenceLedger) :=
  [ ⟨.signedByAll ⟨0⟩ 2, .call (.pausable (.setPauseSigner ⟨1⟩ ⟨2⟩ true))⟩,
    ⟨.signedByAll ⟨0⟩ 2, .call (.pausable (.setPauseSigner ⟨1⟩ ⟨3⟩ true))⟩,
    ⟨.signedByAll ⟨0⟩ 2, .call (.pausable (.setPauseSigner ⟨1⟩ ⟨4⟩ true))⟩,
    ⟨.signedByAll ⟨0⟩ 3, .call (.pausable (.setPauseThreshold ⟨1⟩ 2))⟩,
    ⟨.signedByAll ⟨0⟩ 4, .call (.pausable (.pause ⟨2⟩))⟩,
    ⟨.signedByAll ⟨0⟩ 5, .call (.pausable (.approvePauseProposal ⟨3⟩ 0))⟩ ]

def pauseSignerRemoval : Label ReferenceLedger :=
  ⟨.signedByAll ⟨0⟩ 7, .call (.pausable (.setPauseSigner ⟨1⟩ ⟨2⟩ false))⟩

def pauseExecution : Label ReferenceLedger :=
  ⟨.signedByAll ⟨0⟩ 8, .call (.pausable (.executePauseProposal 0))⟩

/-- With the proposer removed, the one current approver carries a threshold of two. -/
theorem removed_signer_pauses :
    ¬∀ trace, ∀ state : State ReferenceLedger,
      InitializedOnce ReferenceLedger.token ⟨0⟩ trace state →
        ∀ event ∈ trace, ChangesPaused event →
          PausedByAdmin event ∨ PausedByQuorum event := by
  intro claimed
  obtain ⟨initial, before, after, started, followed, executing, threshold, flips, only⟩ :
      ∃ initial before after,
        next ReferenceLedger.token ⟨0⟩ ⟨.deployed, .uniform 100⟩
            ⟨.signedByAll ⟨0⟩ 1, .call (.initializeTreasury ⟨1⟩ ⟨9⟩)⟩ = some initial ∧
          replay (next ReferenceLedger.token ⟨0⟩) initial
              (pauseCalls ++ [pauseSignerRemoval]) = some before ∧
            next ReferenceLedger.token ⟨0⟩ before pauseExecution = some after ∧
              before.storage.pause.pauseThreshold = 2 ∧
                after.storage.pause.paused ≠ before.storage.pause.paused ∧
                  ∀ signer, before.storage.pause.pauseSigner signer = true →
                    before.storage.pause.pauseApproval 0 signer = true → signer = ⟨3⟩ := by
    refine ⟨_, _, _, rfl, rfl, rfl, rfl, Bool.noConfusion, ?_⟩
    intro signer current approved
    by_contra different
    by_cases removed : signer = ⟨2⟩
    · simp [removed] at current
    · simp [Storage.deployed, Pausable.Storage.deployed, Pausable.Storage.reset, removed,
        different] at approved
  obtain ⟨trace, once, _⟩ := InitializedOnce.of_replay started followed (by decide)
  have executed := once.snoc (step_of_next executing) rfl
  rcases claimed _ _ executed _ (List.mem_append_right _ List.mem_cons_self) flips with
    direct | ⟨id, called, quorum, reached, members⟩
  · obtain ⟨_, admin, acted, _⟩ := direct
    simp [pauseExecution] at acted
  · obtain rfl : 0 = id := by simpa [pauseExecution] using called
    have single : quorum ⊆ {⟨3⟩} := fun signer member =>
      Finset.mem_singleton.mpr (only signer (members signer member).1 (members signer member).2)
    have small := Finset.card_le_card single
    simp [threshold] at reached small
    omega

/-- A third approval covers the removal of the proposer. -/
theorem pause_by_current_quorum_iff_sample :
    ∃ trace, ∃ state : State ReferenceLedger,
      InitializedOnce ReferenceLedger.token ⟨0⟩ trace state ∧
        state.storage.pause.paused = true ∧
          ∀ event ∈ trace, ChangesPaused event →
            PausedByAdmin event ∨ PausedByQuorum event := by
  obtain ⟨initial, before, after, started, followed, executing, paused, counts, stale⟩ :
      ∃ initial before after,
        next ReferenceLedger.token ⟨0⟩ ⟨.deployed, .uniform 100⟩
            ⟨.signedByAll ⟨0⟩ 1, .call (.initializeTreasury ⟨1⟩ ⟨9⟩)⟩ = some initial ∧
          replay (next ReferenceLedger.token ⟨0⟩) initial
              (pauseCalls ++ [⟨.signedByAll ⟨0⟩ 6,
                .call (.pausable (.approvePauseProposal ⟨4⟩ 0))⟩, pauseSignerRemoval]) =
              some before ∧
            next ReferenceLedger.token ⟨0⟩ before pauseExecution = some after ∧
              after.storage.pause.paused = true ∧
                (before.storage.pause.pauseThreshold = 2 ∧
                  before.storage.pause.pauseApprovalCount 0 = 3) ∧
                    before.storage.pause.staleApprovers 0 ⊆ {⟨2⟩} := by
    refine ⟨_, _, _, rfl, rfl, rfl, rfl, ⟨rfl, rfl⟩, ?_⟩
    intro signer member
    obtain ⟨approved, removed⟩ := member
    by_contra different
    have other : signer ≠ ⟨2⟩ := different
    by_cases second : signer = ⟨3⟩
    · simp [second] at removed
    · by_cases third : signer = ⟨4⟩
      · simp [third] at removed
      · simp [Storage.deployed, Pausable.Storage.deployed, Pausable.Storage.reset, other,
          second, third] at approved
  obtain ⟨trace, once, labelled⟩ := InitializedOnce.of_replay started followed (by decide)
  have executed := once.snoc (step_of_next executing) rfl
  refine ⟨_, after, executed, paused, (pause_by_current_quorum_iff executed).mpr ?_⟩
  intro event member id called action found flips
  rcases List.mem_append.mp member with earlier | last
  · have listed : event.label ∈ _ := labelled ▸ List.mem_map_of_mem earlier
    simp [pauseCalls, pauseSignerRemoval] at listed
    rcases listed with other | other | other | other | other | other | other | other <;>
      simp [other] at called
  · obtain rfl := List.mem_singleton.mp last
    obtain rfl : 0 = id := by simpa [pauseExecution] using called
    have few := Set.encard_le_encard stale
    rw [Set.encard_singleton] at few
    rw [counts.1, counts.2]
    calc (before.storage.pause.staleApprovers 0).encard + (max 1 2 : Nat)
      _ ≤ 1 + (max 1 2 : Nat) := by gcongr
      _ = (3 : Nat) := rfl

end Sample

end Treasury
