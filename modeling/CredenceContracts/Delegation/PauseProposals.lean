import CredenceContracts.Delegation.PauseSigners

/-!
# How pause proposals count their approvals

A proposal's id is derived from its action and the epoch, so the same id comes again
when an action is proposed anew in the epoch of an executed proposal.  Execution clears
the payload and the count but not the approvals.  The count is therefore exact until an
executed proposal is opened again, and never for such a proposal.
-/

namespace Delegations

open Soroban Transition
open Pausable (PauseAction SignerAuth recordApproval)

variable {sha256 : Bytes → BytesN 32} {self : Address} {env : Env}
variable {storedAdmin : Option Address} {pauses pausesAfter : Pausable.Storage}
variable {storage after : Storage} {label : Label} {trace : List (Event Storage Label)}

section Statement

/-- The count of every live proposal is the number of its approvals. -/
def CountsExact (pauses : Pausable.Storage) : Prop :=
  ∀ id, (pauses.pauseProposal id).isSome = true →
    (Flags.raised (pauses.pauseApproval id)).encard = pauses.pauseApprovalCount id

/-- A live proposal that every current pause signer has approved has reached the
threshold. -/
def ReachesThreshold (pauses : Pausable.Storage) : Prop :=
  ∀ id, (pauses.pauseProposal id).isSome = true →
    (∀ signer, pauses.pauseSigner signer = true →
      pauses.pauseApproval id signer = true) →
    pauses.pauseThreshold ≤ pauses.pauseApprovalCount id

/-- The event is a current pause signer's request of an action whose proposal of this epoch
is live. -/
structure Joins (sha256 : Bytes → BytesN 32) (action : PauseAction) (caller : Address)
    (event : Event Storage Label) : Prop where
  requests : event.label.call = .pausable (requesting action caller)
  signer : event.before.pause.pauseSigner caller = true
  live : event.before.pause.pauseProposal (deriveProposalId sha256 event.label.env action) =
    some action.code

/-- Whoever joins a live proposal is counted in it afterwards. -/
def CountsCaller (sha256 : Bytes → BytesN 32) (event : Event Storage Label) : Prop :=
  ∀ action caller, Joins sha256 action caller event →
    event.after.pause.pauseApproval (deriveProposalId sha256 event.label.env action)
      caller = true

/-- The event executes the proposal. -/
def ExecutesPause (id : Nat) (event : Event Storage Label) : Prop :=
  event.label.call = .pausable (.executePauseProposal id)

/-- A request that opens a proposal opens it under an id that was not executed before. -/
def OpensUnexecuted (sha256 : Bytes → BytesN 32) (earlier : List (Event Storage Label))
    (event : Event Storage Label) : Prop :=
  ∀ action caller, event.label.call = .pausable (requesting action caller) →
    ¬Immediate event.before.admin event.before.pause action caller →
    event.before.pause.pauseProposal (deriveProposalId sha256 event.label.env action) =
      none →
    ∀ past ∈ earlier,
      ¬ExecutesPause (deriveProposalId sha256 event.label.env action) past

/-- Whoever joins a live proposal by a request that takes effect at once has approved it
before. -/
def JoinsApproved (sha256 : Bytes → BytesN 32) (event : Event Storage Label) : Prop :=
  ∀ action caller, Joins sha256 action caller event →
    Immediate event.before.admin event.before.pause action caller →
    event.before.pause.pauseApproval (deriveProposalId sha256 event.label.env action)
      caller = true

end Statement

section Requests

theorem requesting_inj {action other : PauseAction} {caller another : Address} :
    requesting action caller = requesting other another ↔
      action = other ∧ caller = another := by
  cases action <;> cases other <;> simp [requesting]

theorem requesting_ne_execute {action : PauseAction} {caller : Address} {id : Nat} :
    requesting action caller ≠ .executePauseProposal id := by
  cases action <;> simp [requesting]

/-- A request takes effect at once and changes the flag alone, or it records the caller's
approval. -/
theorem approval_of_requesting {action : PauseAction} {caller : Address}
    (effect : PauseEffect sha256 env storedAdmin pauses (requesting action caller)
      pausesAfter) :
    (Immediate storedAdmin pauses action caller ∧
        pausesAfter = { pauses with paused := action.leaves }) ∨
      (¬Immediate storedAdmin pauses action caller ∧
        recordApproval (opened pauses (deriveProposalId sha256 env action) action)
          (deriveProposalId sha256 env action) caller = .ok pausesAfter) := by
  generalize asked : requesting action caller = call at effect
  cases effect with
  | immediate immediate =>
      obtain ⟨rfl, rfl⟩ := requesting_inj.mp asked
      exact .inl ⟨immediate, rfl⟩
  | submitted slow _ recorded =>
      obtain ⟨rfl, rfl⟩ := requesting_inj.mp asked
      exact .inr ⟨slow, recorded⟩
  | signerKept => cases action <;> cases asked
  | signerAdded => cases action <;> cases asked
  | signerRemoved => cases action <;> cases asked
  | thresholdSet => cases action <;> cases asked
  | approved => cases action <;> cases asked
  | executed => cases action <;> cases asked

end Requests

section Approvals

/-- A proposal has approvals exactly when it is live or was executed. -/
def ApprovalsKept (trace : List (Event Storage Label)) (pauses : Pausable.Storage) : Prop :=
  ∀ id, (∃ signer, pauses.pauseApproval id signer = true) ↔
    (pauses.pauseProposal id).isSome = true ∨ ∃ past ∈ trace, ExecutesPause id past

theorem opened_live (pauses : Pausable.Storage) (id : Nat) (action : PauseAction)
    (other : Nat) :
    ((opened pauses id action).pauseProposal other).isSome = true ↔
      (pauses.pauseProposal other).isSome = true ∨ other = id := by
  unfold opened
  split
  · grind
  · by_cases same : other = id <;> simp [same]

theorem opened_approval (pauses : Pausable.Storage) (id : Nat) (action : PauseAction) :
    (opened pauses id action).pauseApproval = pauses.pauseApproval := by
  unfold opened
  split <;> rfl

theorem recorded_live {id other : Nat} {signer : Address}
    (recorded : recordApproval pauses id signer = .ok pausesAfter) :
    pausesAfter.pauseProposal other = pauses.pauseProposal other := by
  rw [Pausable.recordApproval_frame recorded]

/-- Recording an approval of a live proposal keeps the account of approvals. -/
theorem ApprovalsKept.recorded {id : Nat} {signer : Address}
    (kept : ApprovalsKept trace pauses) (live : (pauses.pauseProposal id).isSome = true)
    (recorded : recordApproval pauses id signer = .ok pausesAfter) :
    ApprovalsKept trace pausesAfter := by
  intro other
  rw [recorded_live recorded, ← kept other]
  simp only [Pausable.recordApproval_flag recorded]
  constructor
  · rintro ⟨another, approved | ⟨rfl, rfl⟩⟩
    · exact ⟨another, approved⟩
    · exact (kept other).mpr (.inl live)
  · rintro ⟨another, approved⟩
    exact ⟨another, .inl approved⟩

/-- Opening a proposal and approving it keeps the account of approvals. -/
theorem ApprovalsKept.submitted {id : Nat} {action : PauseAction} {signer : Address}
    (kept : ApprovalsKept trace pauses)
    (recorded : recordApproval (opened pauses id action) id signer = .ok pausesAfter) :
    ApprovalsKept trace pausesAfter := by
  intro other
  rw [recorded_live recorded, opened_live]
  simp only [Pausable.recordApproval_flag recorded, opened_approval]
  have before := kept other
  grind

theorem ApprovalsKept.of_same (kept : ApprovalsKept trace pauses)
    (approval : pausesAfter.pauseApproval = pauses.pauseApproval)
    (proposal : pausesAfter.pauseProposal = pauses.pauseProposal) :
    ApprovalsKept trace pausesAfter := by
  intro id
  rw [approval, proposal]
  exact kept id

/-- An event that executes nothing adds nothing to the account. -/
theorem ApprovalsKept.snoc {event : Event Storage Label}
    (kept : ApprovalsKept trace pauses) (idle : ∀ id, ¬ExecutesPause id event) :
    ApprovalsKept (trace ++ [event]) pauses := by
  intro id
  simp only [List.mem_append, List.mem_singleton, or_and_right, exists_or, exists_eq_left,
    idle id, or_false]
  exact kept id

/-- Executing a proposal leaves its approvals, and the history names the execution. -/
theorem ApprovalsKept.executed {id : Nat} {event : Event Storage Label}
    (kept : ApprovalsKept trace pauses) (live : (pauses.pauseProposal id).isSome = true)
    (executes : ∀ other, ExecutesPause other event ↔ other = id)
    (approval : pausesAfter.pauseApproval = pauses.pauseApproval)
    (proposal : pausesAfter.pauseProposal = Function.update pauses.pauseProposal id none) :
    ApprovalsKept (trace ++ [event]) pausesAfter := by
  intro other
  simp only [approval, proposal, kept other, List.mem_append, List.mem_singleton,
    or_and_right, exists_or, exists_eq_left, executes other]
  by_cases same : other = id
  · simp [same, live]
  · simp [same]

theorem approvalsKept_step (kept : ApprovalsKept trace storage.pause)
    (stepped : Step sha256 self storage label after) :
    ApprovalsKept (trace ++ [⟨storage, label, after⟩]) after.pause := by
  cases step_pause stepped with
  | kept uncalled pause =>
      rw [pause]
      exact kept.snoc fun id executes => uncalled _ executes
  | started called _ pause =>
      refine (kept.of_same (by rw [pause]; rfl) (by rw [pause]; rfl)).snoc fun id executes => ?_
      simp [ExecutesPause, called] at executes
  | @called call called effect =>
      have idle (other : ∀ id, call ≠ .executePauseProposal id) (id : Nat) :
          ¬ExecutesPause id ⟨storage, label, after⟩ := by
        intro executes
        exact other id (Call.pausable.inj (called.symm.trans executes))
      generalize pausesAfter : after.pause = pauses at effect ⊢
      cases effect with
      | immediate =>
          exact (kept.of_same rfl rfl).snoc (idle fun _ => requesting_ne_execute)
      | submitted _ _ recorded =>
          exact (kept.submitted recorded).snoc (idle fun _ => requesting_ne_execute)
      | signerKept => exact kept.snoc (idle (by simp))
      | signerAdded => exact (kept.of_same rfl rfl).snoc (idle (by simp))
      | signerRemoved => exact (kept.of_same rfl rfl).snoc (idle (by simp))
      | thresholdSet => exact (kept.of_same rfl rfl).snoc (idle (by simp))
      | approved _ live recorded => exact (kept.recorded live recorded).snoc (idle (by simp))
      | @executed _ id found _ =>
          refine kept.executed (by simp [found]) (fun other => ?_) rfl rfl
          simp [ExecutesPause, called, eq_comm]

theorem approvalsKept_deployed : ApprovalsKept [] Storage.deployed.pause := by
  intro id
  simp [Storage.deployed, Pausable.Storage.deployed]

end Approvals

section Counts

/-- Recording an approval neither makes a count exact nor spoils it. -/
theorem exact_recorded_iff {id : Nat} {signer : Address}
    (recorded : recordApproval pauses id signer = .ok pausesAfter) :
    CountsExact pausesAfter ↔ CountsExact pauses := by
  rcases Pausable.recordApproval_eq_ok.mp recorded with ⟨_, rfl⟩ | ⟨absent, _, rfl⟩
  · rfl
  · apply forall_congr'
    intro other
    apply imp_congr_right
    intro _
    by_cases same : other = id
    · subst same
      simp only [Pausable.Storage.approved, Function.update_self,
        Flags.encard_raised_set absent, Nat.cast_add, Nat.cast_one]
      exact WithTop.add_right_inj ENat.one_ne_top
    · simp [Pausable.Storage.approved, same]

/-- Opening a proposal keeps the counts exact if and only if nobody had approved it. -/
theorem exact_opened_iff {id : Nat} {action : PauseAction} (exact : CountsExact pauses) :
    CountsExact (opened pauses id action) ↔
      (pauses.pauseProposal id = none →
        ∀ signer, pauses.pauseApproval id signer = false) := by
  unfold opened
  split
  · rename_i live
    simp [exact, Option.isSome_iff_ne_none.mp live]
  · rename_i absent
    constructor
    · intro opened _ signer
      have none := opened id (by simp)
      simp only [Function.update_self, Nat.cast_zero, Set.encard_eq_zero] at none
      simpa using Set.eq_empty_iff_forall_notMem.mp none signer
    · intro fresh other live
      by_cases same : other = id
      · subst same
        have nobody := fresh (by simpa using absent)
        simp [Flags.raised, nobody]
      · simpa [same] using exact other (by simpa [same] using live)

theorem CountsExact.of_frame (exact : CountsExact pauses)
    (proposal : pausesAfter.pauseProposal = pauses.pauseProposal)
    (approvalCount : pausesAfter.pauseApprovalCount = pauses.pauseApprovalCount)
    (approval : pausesAfter.pauseApproval = pauses.pauseApproval) :
    CountsExact pausesAfter := by
  intro id live
  rw [approval, approvalCount]
  exact exact id (by rwa [proposal] at live)

/-- A call that is no request keeps the counts exact. -/
theorem CountsExact.effect {call : Pausable.Call} (exact : CountsExact pauses)
    (other : ∀ action caller, call ≠ requesting action caller)
    (effect : PauseEffect sha256 env storedAdmin pauses call pausesAfter) :
    CountsExact pausesAfter := by
  cases effect with
  | immediate => exact absurd rfl (other _ _)
  | submitted => exact absurd rfl (other _ _)
  | signerKept => exact exact
  | signerAdded => exact exact.of_frame rfl rfl rfl
  | signerRemoved => exact exact.of_frame rfl rfl rfl
  | thresholdSet => exact exact.of_frame rfl rfl rfl
  | approved _ _ recorded => exact (exact_recorded_iff recorded).mpr exact
  | @executed _ executed =>
      intro id live
      have different : id ≠ executed := by
        rintro rfl
        simp at live
      simpa [different] using exact id (by simpa [different] using live)

/-- An event that submits one request opens what that request opens. -/
theorem opensUnexecuted_iff {action : PauseAction} {caller : Address}
    (called : label.call = .pausable (requesting action caller))
    (slow : ¬Immediate storage.admin storage.pause action caller) :
    OpensUnexecuted sha256 trace ⟨storage, label, after⟩ ↔
      (storage.pause.pauseProposal (deriveProposalId sha256 label.env action) = none →
        ∀ past ∈ trace, ¬ExecutesPause (deriveProposalId sha256 label.env action) past) := by
  constructor
  · intro opens absent
    exact opens action caller called slow absent
  · intro fresh other another asked _ absent
    obtain ⟨rfl, rfl⟩ := requesting_inj.mp (Call.pausable.inj (called.symm.trans asked))
    exact fresh absent

/-- A step keeps the counts exact if and only if it does not open a proposal that was
executed before. -/
theorem exact_step_iff (kept : ApprovalsKept trace storage.pause)
    (exact : CountsExact storage.pause) (stepped : Step sha256 self storage label after) :
    CountsExact after.pause ↔ OpensUnexecuted sha256 trace ⟨storage, label, after⟩ := by
  have calm (exactly : CountsExact after.pause)
      (uncalled : ∀ action caller, label.call = .pausable (requesting action caller) →
        Immediate storage.admin storage.pause action caller) :
      CountsExact after.pause ↔ OpensUnexecuted sha256 trace ⟨storage, label, after⟩ := by
    refine iff_of_true exactly fun action caller called slow => ?_
    exact absurd (uncalled action caller called) slow
  cases step_pause stepped with
  | kept other pause =>
      exact calm (pause ▸ exact) fun action caller called => absurd called (other _)
  | started called _ pause =>
      refine calm (exact.of_frame ?_ ?_ ?_) fun action caller asked => ?_
      · rw [pause]
        rfl
      · rw [pause]
        rfl
      · rw [pause]
        rfl
      · simp [called] at asked
  | @called call called effect =>
      by_cases request : ∃ action caller, call = requesting action caller
      · obtain ⟨action, caller, rfl⟩ := request
        rcases approval_of_requesting effect with ⟨immediate, frame⟩ | ⟨slow, recorded⟩
        · refine calm (exact.of_frame ?_ ?_ ?_) fun other another asked => ?_
          · rw [frame]
          · rw [frame]
          · rw [frame]
          · obtain ⟨rfl, rfl⟩ :=
              requesting_inj.mp (Call.pausable.inj (called.symm.trans asked))
            exact immediate
        · rw [exact_recorded_iff recorded, exact_opened_iff exact,
            opensUnexecuted_iff called slow]
          apply imp_congr_right
          intro absent
          have account := kept (deriveProposalId sha256 label.env action)
          simp only [absent, Option.isSome_none, Bool.false_eq_true, false_or] at account
          simpa using not_congr account
      · have other (action : PauseAction) (caller : Address) :
            call ≠ requesting action caller :=
          fun same => request ⟨action, caller, same⟩
        refine calm (exact.effect other effect) fun action caller asked => ?_
        exact absurd (Call.pausable.inj (called.symm.trans asked)) (other action caller)

end Counts

section Callers

/-- Whoever joins is counted if and only if a request at once was approved before. -/
theorem counts_caller_iff {event : Event Storage Label}
    (stepped : Step sha256 self event.before event.label event.after) :
    CountsCaller sha256 event ↔ JoinsApproved sha256 event := by
  apply forall₃_congr
  intro action caller joins
  cases step_pause stepped with
  | kept other => exact absurd joins.requests (other _)
  | started called =>
      have requests := joins.requests
      simp [called] at requests
  | @called call called effect =>
      obtain rfl : call = requesting action caller :=
        Call.pausable.inj (called.symm.trans joins.requests)
      rcases approval_of_requesting effect with ⟨immediate, frame⟩ | ⟨slow, recorded⟩
      · simp [frame, immediate]
      · have counted := (Pausable.recordApproval_flag recorded
          (deriveProposalId sha256 event.label.env action) caller).mpr (.inr ⟨rfl, rfl⟩)
        simp [counted, slow]

end Callers

section Threshold

/-- The threshold is within the count of signers, which is at most their number. -/
structure SignersWithin (pauses : Pausable.Storage) : Prop where
  reachable : pauses.pauseThreshold ≤ pauses.pauseSignerCount
  counted : (pauses.pauseSignerCount : ENat) ≤ (Flags.raised pauses.pauseSigner).encard
  fits : pauses.pauseSignerCount < 2 ^ 32

namespace SignersWithin

theorem of_same (within : SignersWithin pauses)
    (same : signerEntries pausesAfter = signerEntries pauses) :
    SignersWithin pausesAfter := by
  obtain ⟨signer, count, threshold⟩ : pausesAfter.pauseSigner = pauses.pauseSigner ∧
      pausesAfter.pauseSignerCount = pauses.pauseSignerCount ∧
        pausesAfter.pauseThreshold = pauses.pauseThreshold := by
    simpa [signerEntries] using same
  obtain ⟨reachable, counted, fits⟩ := within
  constructor <;> simp only [signer, count, threshold] <;> assumption

theorem withSigner {signer : Address} (within : SignersWithin pauses)
    (absent : pauses.pauseSigner signer = false) :
    SignersWithin (withSigner pauses signer) := by
  obtain ⟨reachable, counted, fits⟩ := within
  constructor
  · simp only [Delegations.withSigner]
    split <;> omega
  · simp only [Delegations.withSigner, Flags.encard_raised_set absent]
    calc ((min (pauses.pauseSignerCount + 1) (2 ^ 32 - 1) : Nat) : ENat)
      _ ≤ (pauses.pauseSignerCount + 1 : Nat) := by exact_mod_cast min_le_left _ _
      _ = (pauses.pauseSignerCount : ENat) + 1 := by push_cast; rfl
      _ ≤ (Flags.raised pauses.pauseSigner).encard + 1 := by gcongr
  · simp only [Delegations.withSigner]
    omega

theorem withoutSigner {signer : Address} (within : SignersWithin pauses)
    (present : pauses.pauseSigner signer = true) :
    SignersWithin (withoutSigner pauses signer) := by
  obtain ⟨reachable, counted, fits⟩ := within
  constructor
  · simp only [Delegations.withoutSigner]
    omega
  · simp only [Delegations.withoutSigner]
    rw [← Flags.encard_raised_clear present] at counted
    exact_mod_cast tsub_le_iff_right.mpr counted
  · simp only [Delegations.withoutSigner]
    omega

theorem effect {call : Pausable.Call} (within : SignersWithin pauses)
    (effect : PauseEffect sha256 env storedAdmin pauses call pausesAfter) :
    SignersWithin pausesAfter := by
  cases effect.signers with
  | kept same => exact within.of_same same
  | added absent stored => exact stored ▸ within.withSigner absent
  | removed present stored => exact stored ▸ within.withoutSigner present
  | thresholdSet reachable _ stored =>
      rw [stored]
      exact ⟨reachable, within.counted, within.fits⟩

end SignersWithin

theorem signersWithin_of_run (run : Run (Step sha256 self) .deployed trace storage) :
    SignersWithin storage.pause := by
  refine run.invariant (fun storage => SignersWithin storage.pause) ?_ ?_
  · constructor <;> simp [Storage.deployed, Pausable.Storage.deployed]
  · intro event within stepped
    cases step_pause stepped with
    | kept _ pause => exact pause ▸ within
    | started _ _ pause =>
        rw [pause]
        constructor <;> simp [Pausable.Storage.reset]
    | called _ effect => exact within.effect effect

/-- Where the counts are exact, the signers together reach the threshold. -/
theorem reachesThreshold_of_exact (within : SignersWithin pauses)
    (exact : CountsExact pauses) : ReachesThreshold pauses := by
  intro id live approved
  have all : Flags.raised pauses.pauseSigner ⊆ Flags.raised (pauses.pauseApproval id) :=
    fun signer member => approved signer member
  have enough : (pauses.pauseThreshold : ENat) ≤ pauses.pauseApprovalCount id := by
    calc (pauses.pauseThreshold : ENat)
      _ ≤ pauses.pauseSignerCount := by exact_mod_cast within.reachable
      _ ≤ (Flags.raised pauses.pauseSigner).encard := within.counted
      _ ≤ (Flags.raised (pauses.pauseApproval id)).encard := Set.encard_le_encard all
      _ = pauses.pauseApprovalCount id := exact id live
  exact_mod_cast enough

end Threshold

/-- In every run the counts are exact, whoever joins a live proposal is counted in it, and
the signers together reach the threshold, if and only if no executed proposal is opened
again and nobody joins a proposal they have not approved by a request at once. -/
theorem pause_counts_exact_iff (run : Run (Step sha256 self) .deployed trace storage) :
    (∀ event ∈ trace, CountsExact event.after.pause ∧ CountsCaller sha256 event ∧
        ReachesThreshold event.after.pause) ↔
      (∀ earlier event later, trace = earlier ++ event :: later →
        OpensUnexecuted sha256 earlier event) ∧
        ∀ event ∈ trace, JoinsApproved sha256 event := by
  have exactly : (∀ event ∈ trace, CountsExact event.after.pause) ↔
      ∀ earlier event later, trace = earlier ++ event :: later →
        OpensUnexecuted sha256 earlier event := by
    refine run.forall_after_iff_at (fun storage => CountsExact storage.pause)
      (fun trace storage => ApprovalsKept trace storage.pause) (OpensUnexecuted sha256)
      ?_ approvalsKept_deployed ?_ ?_
    · simp [CountsExact, Storage.deployed, Pausable.Storage.deployed]
    · exact fun _ event kept _ stepped => approvalsKept_step kept stepped
    · exact fun _ event kept exact stepped => exact_step_iff kept exact stepped
  rw [← exactly]
  constructor
  · intro every
    refine ⟨fun event member => (every event member).1, fun event member => ?_⟩
    exact (counts_caller_iff (run.stepped_of_mem member)).mp (every event member).2.1
  · rintro ⟨exact, joins⟩ event member
    refine ⟨exact event member, ?_, ?_⟩
    · exact (counts_caller_iff (run.stepped_of_mem member)).mpr (joins event member)
    · obtain ⟨earlier, later, position⟩ := List.append_of_mem member
      obtain ⟨reached, stepped, -⟩ := run.split position
      exact reachesThreshold_of_exact (signersWithin_of_run (reached.snoc stepped))
        (exact event member)

section Sample

/-- No two actions in any two epochs share an id. -/
def CollisionFree (sha256 : Bytes → BytesN 32) : Prop :=
  ∀ (first second : Env) (action other : PauseAction),
    first.sequence < 2 ^ 32 → second.sequence < 2 ^ 32 →
    deriveProposalId sha256 first action = deriveProposalId sha256 second other →
    action = other ∧
      first.sequence / proposalEpochSize = second.sequence / proposalEpochSize

theorem samplePadding_id {env : Env} {action : PauseAction} (fits : env.sequence < 2 ^ 32) :
    deriveProposalId samplePadding env action =
      action.code * 2 ^ 32 + env.sequence / proposalEpochSize := by
  have epoch : env.sequence / proposalEpochSize < 2 ^ 32 :=
    (Nat.div_le_self _ _).trans_lt fits
  unfold deriveProposalId
  generalize env.sequence / proposalEpochSize = number at epoch
  cases action with
  | pause =>
      simp [samplePadding, fromBigEndian64, bigEndian32, Vector.toList_ofFn, List.ofFn_succ,
        PauseAction.code]
      omega
  | unpause =>
      simp [samplePadding, fromBigEndian64, bigEndian32, Vector.toList_ofFn, List.ofFn_succ,
        PauseAction.code]
      omega

theorem samplePadding_collisionFree : CollisionFree samplePadding := by
  intro first second action other firstFits secondFits same
  rw [samplePadding_id firstFits, samplePadding_id secondFits] at same
  have firstEpoch : first.sequence / proposalEpochSize < 2 ^ 32 :=
    (Nat.div_le_self _ _).trans_lt firstFits
  have secondEpoch : second.sequence / proposalEpochSize < 2 ^ 32 :=
    (Nat.div_le_self _ _).trans_lt secondFits
  generalize first.sequence / proposalEpochSize = firstNumber at *
  generalize second.sequence / proposalEpochSize = secondNumber at *
  have codes : action.code = other.code := by omega
  exact ⟨PauseAction.code_injective codes, by omega⟩

/-- Two signers pause by proposal, and the admin unpauses. -/
def reopeningCalls : List Label :=
  [ sampleLabel 1 (.initializeDelegation ⟨1⟩),
    sampleLabel 2 (.pausable (.setPauseSigner ⟨1⟩ ⟨2⟩ true)),
    sampleLabel 3 (.pausable (.setPauseSigner ⟨1⟩ ⟨3⟩ true)),
    sampleLabel 4 (.pausable (.setPauseThreshold ⟨1⟩ 2)),
    sampleLabel 5 (.pausable (.pause ⟨2⟩)),
    sampleLabel 6 (.pausable (.pause ⟨3⟩)),
    sampleLabel 7 (.pausable (.executePauseProposal (2 ^ 32))),
    sampleLabel 8 (.pausable (.unpause ⟨1⟩)) ]

/-- Opened again in its epoch, a proposal counts none of the two approvals it has. -/
theorem reopened_proposal_miscounts :
    ¬∀ sha256 self, CollisionFree sha256 → ∀ trace storage,
      Run (Step sha256 self) .deployed trace storage →
        ∀ event ∈ trace, CountsExact event.after.pause ∧ CountsCaller sha256 event ∧
          ReachesThreshold event.after.pause := by
  intro claimed
  obtain ⟨before, after, followed, reopened, count, live, approved⟩ : ∃ before after,
      replay (next samplePadding ⟨0⟩) .deployed reopeningCalls = some before ∧
        next samplePadding ⟨0⟩ before (sampleLabel 9 (.pausable (.pause ⟨2⟩))) =
            some after ∧
          after.pause.pauseApprovalCount (2 ^ 32) = 0 ∧
            (after.pause.pauseProposal (2 ^ 32)).isSome = true ∧
              after.pause.pauseApproval (2 ^ 32) ⟨2⟩ = true := by
    refine ⟨_, _, rfl, rfl, ?_⟩
    exact ⟨rfl, rfl, rfl⟩
  obtain ⟨trace, run, _⟩ := run_of_replay step_of_next followed
  obtain ⟨exact, _⟩ := claimed samplePadding ⟨0⟩ samplePadding_collisionFree _ _
    (run.snoc (step_of_next reopened)) _ (List.mem_append_right _ List.mem_cons_self)
  have none := exact (2 ^ 32) live
  rw [show after.pause.pauseApprovalCount (2 ^ 32) = 0 from count, Nat.cast_zero,
    Set.encard_eq_zero] at none
  exact Set.eq_empty_iff_forall_notMem.mp none ⟨2⟩ approved

/-- Executed once and not opened again, a proposal counts its approvals exactly. -/
theorem pause_counts_exact_iff_sample :
    ∃ trace storage, Run (Step samplePadding ⟨0⟩) .deployed trace storage ∧
      storage.pause.paused = true ∧
        ∀ event ∈ trace, CountsExact event.after.pause ∧ CountsCaller samplePadding event ∧
          ReachesThreshold event.after.pause := by
  obtain ⟨initial, signed, proposed, paused, first, second, third, fourth, flag, none⟩ :
      ∃ initial signed proposed paused,
        next samplePadding ⟨0⟩ .deployed (sampleLabel 1 (.initializeDelegation ⟨1⟩)) =
            some initial ∧
          next samplePadding ⟨0⟩ initial
              (sampleLabel 2 (.pausable (.setPauseSigner ⟨1⟩ ⟨2⟩ true))) = some signed ∧
            next samplePadding ⟨0⟩ signed (sampleLabel 3 (.pausable (.pause ⟨2⟩))) =
                some proposed ∧
              next samplePadding ⟨0⟩ proposed
                  (sampleLabel 4 (.pausable (.executePauseProposal (2 ^ 32)))) =
                  some paused ∧
                paused.pause.paused = true ∧
                  signed.pause.pauseProposal = fun _ => Option.none := by
    refine ⟨_, _, _, _, rfl, rfl, rfl, rfl, ?_⟩
    exact ⟨rfl, rfl⟩
  have before := (Run.nil.snoc (step_of_next first)).snoc (step_of_next second) |>.snoc
    (step_of_next third)
  refine ⟨_, paused, before.snoc (step_of_next fourth), flag,
    (pause_counts_exact_iff (before.snoc (step_of_next fourth))).mpr ⟨?_, ?_⟩⟩
  · intro earlier event later position action caller _ _ _ past passed executes
    have inside := mem_of_position_snoc position passed
    simp only [List.nil_append, List.mem_append, List.mem_singleton] at inside
    rcases inside with (rfl | rfl) | rfl <;> simp [ExecutesPause, sampleLabel] at executes
  · intro event member action caller joins
    have requests := joins.requests
    have live := joins.live
    simp only [List.nil_append, List.mem_append, List.mem_singleton] at member
    rcases member with ((rfl | rfl) | rfl) | rfl
    · simp [sampleLabel] at requests
    · cases action <;> simp [sampleLabel, requesting] at requests
    · simp [none] at live
    · cases action <;> simp [sampleLabel, requesting] at requests

end Sample

end Delegations
