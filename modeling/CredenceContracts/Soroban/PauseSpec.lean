import CredenceContracts.Library.Flags
import CredenceContracts.Soroban.Pausable

/-!
# What each pause operation does

One lemma for each function of the pause module says what its success takes and
leaves.  Proposal ids come from a counter, so the cached count of a proposal is the
number of its recorded approvals in every state that a fresh module reaches.
-/

namespace Pausable

open Soroban MachineInt

variable {env : Env} {storedAdmin : Option Address} {storage after : Storage}

/-- The address is the stored admin and authorised the call. -/
def AdminAuth (env : Env) (storedAdmin : Option Address) (admin : Address) : Prop :=
  storedAdmin = some admin ∧ env.authorized admin = true

/-- The address is a pause signer and authorised the call. -/
def SignerAuth (env : Env) (storage : Storage) (signer : Address) : Prop :=
  env.authorized signer = true ∧ storage.pauseSigner signer = true

/-- The flag that an executed action leaves. -/
def PauseAction.leaves : PauseAction → Bool
  | .pause => true
  | .unpause => false

theorem PauseAction.code_injective : Function.Injective PauseAction.code := by
  intro first second same
  cases first <;> cases second <;> simp [PauseAction.code] at same ⊢

@[simp] theorem requireAdminAuth_eq_ok {admin : Address} {result : Unit} :
    requireAdminAuth env storedAdmin admin = .ok result ↔ AdminAuth env storedAdmin admin := by
  simp only [requireAdminAuth, AdminAuth, Outcome.bind_eq_ok, Outcome.unwrapOr_eq_ok,
    Outcome.rejectIf_eq_ok, requireAuth_eq_ok]
  grind

@[simp] theorem requirePauseSigner_eq_ok {signer : Address} {result : Unit} :
    requirePauseSigner env storage signer = .ok result ↔ SignerAuth env storage signer := by
  simp [requirePauseSigner, SignerAuth]

section Approvals

/-- The entries after a new approval. -/
def Storage.approved (storage : Storage) (proposalId : Nat) (signer : Address) : Storage :=
  { storage with
    pauseApproval := Function.update storage.pauseApproval proposalId
      (Function.update (storage.pauseApproval proposalId) signer true)
    pauseApprovalCount := Function.update storage.pauseApprovalCount proposalId
      (storage.pauseApprovalCount proposalId + 1) }

/-- An approval is recorded once; recording it again changes nothing. -/
theorem recordApproval_eq_ok {proposalId : Nat} {signer : Address} :
    recordApproval storage proposalId signer = .ok after ↔
      (storage.pauseApproval proposalId signer = true ∧ after = storage) ∨
        (storage.pauseApproval proposalId signer = false ∧
          storage.pauseApprovalCount proposalId + 1 < 2 ^ 32 ∧
            after = storage.approved proposalId signer) := by
  unfold recordApproval Storage.approved
  split
  · rename_i present
    simp [present]
  · rename_i absent
    simp [absent]

/-- The approver's flag is raised afterwards, and no other one changes. -/
theorem recordApproval_flag {proposalId : Nat} {signer : Address}
    (recorded : recordApproval storage proposalId signer = .ok after) (id : Nat)
    (other : Address) :
    after.pauseApproval id other = true ↔
      storage.pauseApproval id other = true ∨ id = proposalId ∧ other = signer := by
  rcases recordApproval_eq_ok.mp recorded with ⟨present, rfl⟩ | ⟨absent, _, rfl⟩
  · grind
  · by_cases sameId : id = proposalId
    · subst sameId
      by_cases sameSigner : other = signer <;> simp [Storage.approved, sameSigner]
    · simp [Storage.approved, sameId]

/-- A recorded approval leaves everything but flags and counts alone. -/
theorem recordApproval_frame {proposalId : Nat} {signer : Address}
    (recorded : recordApproval storage proposalId signer = .ok after) :
    after = { storage with
      pauseApproval := after.pauseApproval
      pauseApprovalCount := after.pauseApprovalCount } := by
  rcases recordApproval_eq_ok.mp recorded with ⟨_, rfl⟩ | ⟨_, _, rfl⟩ <;> rfl

theorem approvePauseProposal_eq_ok {proposalId : Nat} {signer : Address} :
    approvePauseProposal env storage signer proposalId = .ok after ↔
      SignerAuth env storage signer ∧ (∃ action, storage.pauseProposal proposalId = some action) ∧
        recordApproval storage proposalId signer = .ok after := by
  simp [approvePauseProposal]

end Approvals

section Proposals

/-- The entries after a new proposal under the next id, before its first approval. -/
def Storage.proposed (storage : Storage) (action : PauseAction) : Storage :=
  { storage with
    pauseProposalCounter := storage.pauseProposalCounter + 1
    pauseProposal :=
      Function.update storage.pauseProposal storage.pauseProposalCounter (some action.code)
    pauseApprovalCount :=
      Function.update storage.pauseApprovalCount storage.pauseProposalCounter 0 }

theorem proposeAction_eq_ok {caller : Address} {action : PauseAction} {id : Option Nat} :
    proposeAction env storage caller action = .ok (after, id) ↔
      SignerAuth env storage caller ∧ storage.pauseProposalCounter + 1 < 2 ^ 64 ∧
        recordApproval (storage.proposed action) storage.pauseProposalCounter caller =
            .ok after ∧
          id = some storage.pauseProposalCounter := by
  simp only [proposeAction, nextProposalId, Storage.proposed, Outcome.bind_eq_ok,
    requirePauseSigner_eq_ok, checkedU64_eq_ok, Outcome.pure_eq_ok, Prod.mk.injEq]
  grind

/-- A pause or an unpause succeeded: the admin's at once, or as a signer's proposal. -/
def Acted (env : Env) (storedAdmin : Option Address) (storage : Storage) (caller : Address)
    (action : PauseAction) (after : Storage) : Prop :=
  (storage.pauseThreshold = 0 ∧ AdminAuth env storedAdmin caller ∧
      after = { storage with paused := action.leaves }) ∨
    (storage.pauseThreshold ≠ 0 ∧
      ∃ id, proposeAction env storage caller action = .ok (after, id))

theorem pause_eq_ok {caller : Address} :
    Prod.fst <$> pause env storedAdmin storage caller = .ok after ↔
      Acted env storedAdmin storage caller .pause after := by
  unfold pause Acted
  split
  · rename_i zero
    simp [zero, PauseAction.leaves]
  · rename_i positive
    simp [positive]

theorem unpause_eq_ok {caller : Address} :
    Prod.fst <$> unpause env storedAdmin storage caller = .ok after ↔
      Acted env storedAdmin storage caller .unpause after := by
  unfold unpause Acted
  split
  · rename_i zero
    simp [zero, PauseAction.leaves]
  · rename_i positive
    simp [positive]

theorem executePauseProposal_eq_ok {proposalId : Nat} :
    executePauseProposal storage proposalId = .ok after ↔
      ∃ action : PauseAction, storage.pauseProposal proposalId = some action.code ∧
        storage.pauseThreshold ≤ storage.pauseApprovalCount proposalId ∧
          after = { storage with
            paused := action.leaves
            pauseProposal := Function.update storage.pauseProposal proposalId none } := by
  simp only [executePauseProposal, Outcome.bind_eq_ok, Outcome.unwrapOr_eq_ok,
    Outcome.rejectIf_eq_ok, not_lt]
  constructor
  · rintro ⟨code, found, _, reached, matched⟩
    split at matched
    · exact ⟨.pause, found, reached, (Except.ok.inj matched).symm⟩
    · exact ⟨.unpause, found, reached, (Except.ok.inj matched).symm⟩
    · cases matched
  · rintro ⟨action, found, reached, rfl⟩
    refine ⟨action.code, found, (), reached, ?_⟩
    cases action <;> rfl

end Proposals

section Signers

/-- Setting a signer touches the signers, their count and the threshold only. -/
theorem setPauseSigner_frame {admin signer : Address} {enabled : Bool}
    (accepted : setPauseSigner env storedAdmin storage admin signer enabled = .ok after) :
    ∃ pauseSigner pauseSignerCount pauseThreshold,
      after = { storage with pauseSigner, pauseSignerCount, pauseThreshold } := by
  simp only [setPauseSigner, Outcome.bind_eq_ok] at accepted
  obtain ⟨_, _, accepted⟩ := accepted
  split at accepted
  · split at accepted <;> exact ⟨_, _, _, Outcome.pure_eq_ok.mp accepted⟩
  · split at accepted <;> exact ⟨_, _, _, Outcome.pure_eq_ok.mp accepted⟩

theorem setPauseThreshold_eq_ok {admin : Address} {threshold : Nat} :
    setPauseThreshold env storedAdmin storage admin threshold = .ok after ↔
      AdminAuth env storedAdmin admin ∧ threshold ≤ storage.pauseSignerCount ∧
        after = { storage with pauseThreshold := threshold } := by
  simp [setPauseThreshold]

end Signers

section Paused

theorem proposeAction_paused {caller : Address} {action : PauseAction} {id : Option Nat}
    (proposed : proposeAction env storage caller action = .ok (after, id)) :
    after.paused = storage.paused := by
  obtain ⟨_, _, recorded, _⟩ := proposeAction_eq_ok.mp proposed
  rw [recordApproval_frame recorded]
  rfl

theorem Acted.of_changed {caller : Address} {action : PauseAction}
    (acted : Acted env storedAdmin storage caller action after)
    (changed : after.paused ≠ storage.paused) :
    storage.pauseThreshold = 0 ∧ AdminAuth env storedAdmin caller := by
  rcases acted with ⟨zero, signed, _⟩ | ⟨_, id, proposed⟩
  · exact ⟨zero, signed⟩
  · exact absurd (proposeAction_paused proposed) changed

/-- Only the admin at a threshold of zero and executed proposals change the flag. -/
theorem changed_of_invoke {call : Call}
    (invoked : invoke env storedAdmin storage call = .ok after)
    (changed : after.paused ≠ storage.paused) :
    (storage.pauseThreshold = 0 ∧
        ∃ admin, (call = .pause admin ∨ call = .unpause admin) ∧
          AdminAuth env storedAdmin admin) ∨
      ∃ id, call = .executePauseProposal id := by
  cases call with
  | pause caller =>
      obtain ⟨zero, signed⟩ := (pause_eq_ok.mp invoked).of_changed changed
      exact .inl ⟨zero, caller, .inl rfl, signed⟩
  | unpause caller =>
      obtain ⟨zero, signed⟩ := (unpause_eq_ok.mp invoked).of_changed changed
      exact .inl ⟨zero, caller, .inr rfl, signed⟩
  | setPauseSigner admin signer enabled =>
      obtain ⟨_, _, _, rfl⟩ := setPauseSigner_frame invoked
      exact absurd rfl changed
  | setPauseThreshold admin threshold =>
      obtain ⟨_, _, rfl⟩ := setPauseThreshold_eq_ok.mp invoked
      exact absurd rfl changed
  | approvePauseProposal signer proposalId =>
      obtain ⟨_, _, recorded⟩ := approvePauseProposal_eq_ok.mp invoked
      rw [recordApproval_frame recorded] at changed
      exact absurd rfl changed
  | executePauseProposal proposalId => exact .inr ⟨proposalId, rfl⟩

end Paused

section Counting

/-- The cached count of every proposal is the number of its approvals, and the ids from
the counter on are unused. -/
structure Counted (storage : Storage) : Prop where
  counted : ∀ id,
    (Flags.raised (storage.pauseApproval id)).encard = storage.pauseApprovalCount id
  unused : ∀ id, storage.pauseProposalCounter ≤ id →
    storage.pauseProposal id = none ∧ ∀ signer, storage.pauseApproval id signer = false

theorem counted_deployed : Counted .deployed where
  counted := by simp [Storage.deployed]
  unused := by simp [Storage.deployed]

theorem Counted.of_same (counted : Counted storage)
    (counter : after.pauseProposalCounter = storage.pauseProposalCounter)
    (proposal : after.pauseProposal = storage.pauseProposal)
    (approval : after.pauseApproval = storage.pauseApproval)
    (approvalCount : after.pauseApprovalCount = storage.pauseApprovalCount) :
    Counted after := by
  constructor
  · rw [approval, approvalCount]
    exact counted.counted
  · rw [counter, proposal, approval]
    exact counted.unused

/-- An approval of a used id keeps every count exact. -/
theorem Counted.recorded {proposalId : Nat} {signer : Address} (counted : Counted storage)
    (used : proposalId < storage.pauseProposalCounter)
    (accepted : recordApproval storage proposalId signer = .ok after) : Counted after := by
  rcases recordApproval_eq_ok.mp accepted with ⟨_, rfl⟩ | ⟨absent, _, rfl⟩
  · exact counted
  · constructor
    · intro id
      by_cases same : id = proposalId
      · subst same
        simp [Storage.approved, Flags.encard_raised_set absent, counted.counted id]
      · simpa [Storage.approved, same] using counted.counted id
    · intro id beyond
      have different : id ≠ proposalId := (used.trans_le beyond).ne'
      simpa [Storage.approved, different] using counted.unused id beyond

/-- A new proposal starts at a count of zero under an id nobody has approved. -/
theorem Counted.proposed {action : PauseAction} (counted : Counted storage) :
    Counted (storage.proposed action) := by
  constructor
  · intro id
    by_cases same : id = storage.pauseProposalCounter
    · subst same
      have none := (counted.unused _ le_rfl).2
      simp [Storage.proposed, Flags.raised, none]
    · simpa [Storage.proposed, same] using counted.counted id
  · intro id beyond
    have later : storage.pauseProposalCounter < id := beyond
    simpa [Storage.proposed, later.ne'] using counted.unused id later.le

/-- A proposal that is stored lies below the counter. -/
theorem Counted.lt_counter {id : Nat} {code : Nat} (counted : Counted storage)
    (found : storage.pauseProposal id = some code) : id < storage.pauseProposalCounter := by
  by_contra beyond
  simp [(counted.unused id (not_lt.mp beyond)).1] at found

theorem Counted.acted {caller : Address} {action : PauseAction} (counted : Counted storage)
    (acted : Acted env storedAdmin storage caller action after) : Counted after := by
  rcases acted with ⟨_, _, rfl⟩ | ⟨_, id, proposed⟩
  · exact counted.of_same rfl rfl rfl rfl
  · obtain ⟨_, _, recorded, _⟩ := proposeAction_eq_ok.mp proposed
    exact counted.proposed.recorded (Nat.lt_succ_self _) recorded

/-- Every call of the module keeps the counts exact. -/
theorem Counted.invoke {call : Call} (counted : Counted storage)
    (invoked : invoke env storedAdmin storage call = .ok after) : Counted after := by
  cases call with
  | pause caller => exact counted.acted (pause_eq_ok.mp invoked)
  | unpause caller => exact counted.acted (unpause_eq_ok.mp invoked)
  | setPauseSigner admin signer enabled =>
      obtain ⟨_, _, _, rfl⟩ := setPauseSigner_frame invoked
      exact counted.of_same rfl rfl rfl rfl
  | setPauseThreshold admin threshold =>
      obtain ⟨_, _, rfl⟩ := setPauseThreshold_eq_ok.mp invoked
      exact counted.of_same rfl rfl rfl rfl
  | approvePauseProposal signer proposalId =>
      obtain ⟨_, ⟨_, found⟩, recorded⟩ := approvePauseProposal_eq_ok.mp invoked
      exact counted.recorded (counted.lt_counter found) recorded
  | executePauseProposal proposalId =>
      obtain ⟨_, _, _, rfl⟩ := executePauseProposal_eq_ok.mp invoked
      constructor
      · exact counted.counted
      · intro id beyond
        refine ⟨?_, (counted.unused id beyond).2⟩
        by_cases same : id = proposalId
        · simp [same]
        · simpa [same] using (counted.unused id beyond).1

/-- The approvers of a proposal who are pause signers. -/
def Storage.currentApprovers (storage : Storage) (proposalId : Nat) : Set Address :=
  {signer | storage.pauseApproval proposalId signer = true ∧
    storage.pauseSigner signer = true}

/-- The approvers of a proposal who are pause signers no longer. -/
def Storage.staleApprovers (storage : Storage) (proposalId : Nat) : Set Address :=
  {signer | storage.pauseApproval proposalId signer = true ∧
    storage.pauseSigner signer = false}

/-- The cached count is split between current and removed signers. -/
theorem Counted.split (counted : Counted storage) (id : Nat) :
    (storage.staleApprovers id).encard + (storage.currentApprovers id).encard =
      storage.pauseApprovalCount id := by
  rw [← counted.counted id, ← Set.encard_union_eq]
  · congr 1
    ext signer
    cases current : storage.pauseSigner signer <;>
      simp [Storage.staleApprovers, Storage.currentApprovers, current]
  · refine Set.disjoint_left.mpr fun signer stale current => ?_
    exact Bool.false_ne_true (stale.2.symm.trans current.2)

end Counting

end Pausable
