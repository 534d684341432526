import CredenceContracts.Library.Journal
import CredenceContracts.Upgrade.Execution
import Mathlib.Data.List.Nodup

/-!
# The proposals of upgrades

A stored proposal is what was filed, with the upgraders who approved it.  It waits until
as many of them approved as it asks for, one at least, and takes no approval after that.
-/

namespace UpgradeAuth

open Soroban MachineInt Transition

section Abstract

/-- What a proposal is filed with. -/
structure Filing where
  proposer : Address
  newImplementation : Address
  upgradeData : Bytes
  createdAt : Nat
  requiredApprovals : Nat

/-- How many approvals decide: also a proposal that requires none waits for one. -/
def Filing.quorum (filing : Filing) : Nat :=
  max 1 filing.requiredApprovals

/-- The proposal that was filed under a number, with the approvals it has. -/
def Filing.proposal (filing : Filing) (proposalId : Nat) (approvals : List Address) :
    UpgradeProposal where
  proposalId
  proposer := filing.proposer
  newImplementation := filing.newImplementation
  upgradeData := filing.upgradeData
  createdAt := filing.createdAt
  status := if approvals.length < filing.quorum then .pending else .approved
  approvals
  requiredApprovals := filing.requiredApprovals

/-- What a call files. -/
def filed (label : Label) : Option Filing :=
  match label.call with
  | .proposeUpgrade proposer newImplementation upgradeData requiredApprovals =>
      some {
        proposer
        newImplementation
        upgradeData
        createdAt := label.env.timestamp
        requiredApprovals }
  | _ => none

/-- Who approves the proposal with this call. -/
def approver (proposalId : Nat) (label : Label) : Option Address :=
  match label.call with
  | .approveUpgradeProposal upgrader number =>
      if number = proposalId then some upgrader else none
  | _ => none

def filings (trace : List (Event Storage Label)) : List Filing :=
  (trace.map Event.label).filterMap filed

/-- Who approved the proposal so far. -/
def approvers (proposalId : Nat) (trace : List (Event Storage Label)) : List Address :=
  (trace.map Event.label).filterMap (approver proposalId)

/-- The proposal of a place in the order of the filings: what was filed there, with the
approvals that the trace gave it. -/
structure Storage.FollowsAt (storage : Storage) (trace : List (Event Storage Label))
    (index : Nat) : Prop where
  entry : storage.proposal (index + 1) = (filings trace)[index]?.map fun filing =>
    filing.proposal (index + 1) (approvers (index + 1) trace)
  early : (filings trace).length ≤ index → approvers (index + 1) trace = []
  single : (approvers (index + 1) trace).Nodup
  bounded : ∀ filing, (filings trace)[index]? = some filing →
    (approvers (index + 1) trace).length ≤ filing.quorum

/-- The stored proposals are those that the trace filed, numbered from one. -/
structure Storage.Follows (storage : Storage) (trace : List (Event Storage Label)) : Prop where
  counter : storage.nextProposalId = (filings trace).length + 1
  unused : storage.proposal 0 = none
  each : ∀ index, storage.FollowsAt trace index

end Abstract

section Refinement

variable {strkey : Address → String} {env : Env} {storage before after : Storage}
variable {event : Event Storage Label} {trace : List (Event Storage Label)}

theorem filings_snoc :
    filings (trace ++ [event]) = filings trace ++ (filed event.label).toList := by
  simp only [filings, List.map_append, List.map_singleton, List.filterMap_append,
    List.filterMap_cons, List.filterMap_nil]
  cases filed event.label <;> rfl

theorem approvers_snoc {proposalId : Nat} :
    approvers proposalId (trace ++ [event]) =
      approvers proposalId trace ++ (approver proposalId event.label).toList := by
  simp only [approvers, List.map_append, List.map_singleton, List.filterMap_append,
    List.filterMap_cons, List.filterMap_nil]
  cases approver proposalId event.label <;> rfl

theorem proposeUpgrade_eq_ok {proposer newImplementation : Address} {upgradeData : Bytes}
    {requiredApprovals proposalId : Nat} :
    proposeUpgrade env storage proposer newImplementation upgradeData requiredApprovals =
        .ok (after, proposalId) ↔
      (env.authorized proposer = true ∧ ∃ authorization,
        storage.auth proposer = some authorization ∧ authorization.active = true ∧
          ¬authorization.hasExpired env.timestamp) ∧
      storage.nextProposalId + 1 < 2 ^ 64 ∧ proposalId = storage.nextProposalId ∧
        after = { storage with
          nextProposalId := storage.nextProposalId + 1
          proposal := Function.update storage.proposal storage.nextProposalId
            (some (Filing.proposal ⟨proposer, newImplementation, upgradeData, env.timestamp,
              requiredApprovals⟩ storage.nextProposalId [])) } := by
  simp only [proposeUpgrade, Outcome.bind_eq_ok, requireAuth_eq_ok, Outcome.unwrapOr_eq_ok,
    Outcome.rejectIf_eq_ok, checkedU64_eq_ok, Outcome.pure_eq_ok, Prod.mk.injEq,
    Filing.proposal, Filing.quorum]
  grind

theorem approveUpgradeProposal_eq_ok {upgrader : Address} {proposalId : Nat} :
    approveUpgradeProposal env storage upgrader proposalId = .ok after ↔
      (env.authorized upgrader = true ∧ isAuthorizedUpgrader env storage upgrader = true) ∧
      ∃ proposal, storage.proposal proposalId = some proposal ∧ proposal.status = .pending ∧
        upgrader ∉ proposal.approvals ∧ after = { storage with
          proposal := Function.update storage.proposal proposalId (some { proposal with
            approvals := proposal.approvals ++ [upgrader]
            status :=
              if proposal.approvals.length + 1 ≥ proposal.requiredApprovals then .approved
              else .pending }) } := by
  simp only [approveUpgradeProposal, Outcome.bind_eq_ok, requireAuth_eq_ok,
    requireUpgradeAuth_eq_ok, Outcome.unwrapOr_eq_ok, Outcome.rejectIf_eq_ok,
    Outcome.pure_eq_ok, ne_eq, Decidable.not_not, List.length_append, List.length_singleton]
  grind

/-- A place where nothing was filed or approved any more stays as it is. -/
theorem Storage.FollowsAt.same {index : Nat} (follows : storage.FollowsAt trace index)
    {longer : List (Event Storage Label)}
    (filed : (filings longer)[index]? = (filings trace)[index]?)
    (approved : approvers (index + 1) longer = approvers (index + 1) trace)
    (stored : after.proposal (index + 1) = storage.proposal (index + 1)) :
    after.FollowsAt longer index where
  entry := by
    rw [stored, filed, approved]
    exact follows.entry
  early := by
    rw [← List.getElem?_eq_none_iff, filed, approved, List.getElem?_eq_none_iff]
    exact follows.early
  single := by
    rw [approved]
    exact follows.single
  bounded := by
    rw [filed, approved]
    exact follows.bounded

/-- An event that neither files nor approves leaves the proposals as they are. -/
theorem Storage.Follows.same (follows : storage.Follows trace) (unfiled : filed event.label = none)
    (silent : ∀ proposalId, approver proposalId event.label = none)
    (counter : after.nextProposalId = storage.nextProposalId)
    (proposals : after.proposal = storage.proposal) : after.Follows (trace ++ [event]) := by
  have filings : filings (trace ++ [event]) = filings trace := by simp [filings_snoc, unfiled]
  constructor
  · rw [counter, filings]
    exact follows.counter
  · rw [proposals]
    exact follows.unused
  · intro index
    apply (follows.each index).same
    · rw [filings]
    · simp [approvers_snoc, silent]
    · rw [proposals]

/-- A new proposal has no approvals. -/
theorem Storage.Follows.file (follows : storage.Follows trace) {filing : Filing}
    (files : filed event.label = some filing)
    (silent : ∀ proposalId, approver proposalId event.label = none)
    (counter : after.nextProposalId = storage.nextProposalId + 1)
    (proposals : after.proposal = Function.update storage.proposal storage.nextProposalId
      (some (filing.proposal storage.nextProposalId []))) :
    after.Follows (trace ++ [event]) := by
  have longer : filings (trace ++ [event]) = filings trace ++ [filing] := by
    simp [filings_snoc, files]
  have approved : ∀ proposalId, approvers proposalId (trace ++ [event]) =
      approvers proposalId trace := by simp [approvers_snoc, silent]
  rw [follows.counter] at counter proposals
  constructor
  · rw [counter, longer, List.length_append, List.length_singleton]
  · rw [proposals, Function.update_of_ne (Nat.succ_ne_zero _).symm]
    exact follows.unused
  · intro index
    by_cases last : index = (filings trace).length
    · subst last
      have none := (follows.each _).early le_rfl
      constructor <;> simp [proposals, longer, approved, none]
    · apply (follows.each index).same
      · rw [longer, Journal.getElem?_append_of_ne last]
      · rw [approved]
      · rw [proposals, Function.update_of_ne (by simpa using last)]

/-- One more approval decides once the required number is there. -/
theorem Filing.proposal_concat (filing : Filing) (proposalId : Nat) (approvals : List Address)
    (upgrader : Address) :
    filing.proposal proposalId (approvals ++ [upgrader]) =
      { filing.proposal proposalId approvals with
        approvals := approvals ++ [upgrader]
        status :=
          if approvals.length + 1 ≥ filing.requiredApprovals then .approved else .pending } := by
  have decides : (approvals ++ [upgrader]).length < filing.quorum ↔
      ¬approvals.length + 1 ≥ filing.requiredApprovals := by
    simp only [Filing.quorum, List.length_append, List.length_singleton]
    omega
  simp only [Filing.proposal, decides, ite_not]

/-- A pending proposal takes the approval of one more upgrader. -/
theorem Storage.FollowsAt.approve {index : Nat} {filing : Filing} {upgrader : Address}
    (follows : storage.FollowsAt trace index) {longer : List (Event Storage Label)}
    (filed : filings longer = filings trace) (stands : (filings trace)[index]? = some filing)
    (approved : approvers (index + 1) longer = approvers (index + 1) trace ++ [upgrader])
    (waiting : (approvers (index + 1) trace).length < filing.quorum)
    (absent : upgrader ∉ approvers (index + 1) trace)
    (stored : after.proposal (index + 1) =
      some (filing.proposal (index + 1) (approvers (index + 1) trace ++ [upgrader]))) :
    after.FollowsAt longer index where
  entry := by rw [stored, filed, stands, approved, Option.map_some]
  early := by
    intro beyond
    rw [filed, ← List.getElem?_eq_none_iff, stands] at beyond
    cases beyond
  single := by
    rw [approved]
    simpa using List.Nodup.concat absent follows.single
  bounded := by
    intro known found
    rw [filed, stands] at found
    obtain rfl := Option.some.inj found
    rw [approved, List.length_append]
    exact waiting

/-- An approval is added to those of a pending proposal. -/
theorem Storage.Follows.approve (follows : storage.Follows trace) {proposalId : Nat}
    {upgrader : Address} {proposal : UpgradeProposal} (unfiled : filed event.label = none)
    (approves : ∀ number, approver number event.label =
      if proposalId = number then some upgrader else none)
    (found : storage.proposal proposalId = some proposal) (pending : proposal.status = .pending)
    (absent : upgrader ∉ proposal.approvals)
    (counter : after.nextProposalId = storage.nextProposalId)
    (proposals : after.proposal = Function.update storage.proposal proposalId
      (some { proposal with
        approvals := proposal.approvals ++ [upgrader]
        status :=
          if proposal.approvals.length + 1 ≥ proposal.requiredApprovals then .approved
          else .pending })) :
    after.Follows (trace ++ [event]) := by
  have filed : filings (trace ++ [event]) = filings trace := by simp [filings_snoc, unfiled]
  cases proposalId with
  | zero => simp [follows.unused] at found
  | succ index =>
      rw [(follows.each index).entry] at found
      obtain ⟨filing, stands, rfl⟩ := Option.map_eq_some_iff.mp found
      have waiting : (approvers (index + 1) trace).length < filing.quorum := by
        by_contra decided
        simp [Filing.proposal, decided] at pending
      constructor
      · rw [counter, filed]
        exact follows.counter
      · rw [proposals, Function.update_of_ne (Nat.succ_ne_zero index).symm]
        exact follows.unused
      · intro other
        by_cases same : other = index
        · subst same
          apply (follows.each other).approve filed stands _ waiting absent
          · rw [proposals, Function.update_self, Filing.proposal_concat]
            rfl
          · simp [approvers_snoc, approves]
        · apply (follows.each other).same
          · rw [filed]
          · simp [approvers_snoc, approves, Ne.symm same]
          · rw [proposals, Function.update_of_ne (by simpa using same)]

/-- Before the initialisation nobody is authorised and nothing was proposed. -/
structure Uninitialized (storage : Storage) : Prop where
  auth : ∀ address, storage.auth address = none
  counter : storage.nextProposalId = 1

/-- A successful call leaves the proposals as the longer trace says. -/
theorem follows_of_step {label : Label} (never : NeverUpgraded before)
    (fresh : before.admin = none → Uninitialized before) (follows : before.Follows trace)
    (stepped : Step strkey before label after) :
    (after.admin = none → Uninitialized after) ∧
      after.Follows (trace ++ [⟨before, label, after⟩]) := by
  obtain ⟨env, call⟩ := label
  cases call with
  | initializeUpgradeAuth admin =>
      obtain ⟨unset, rfl⟩ := initializeUpgradeAuth_eq_ok.mp stepped
      exact ⟨by simp, follows.same rfl (fun _ => rfl) (fresh unset).counter.symm rfl⟩
  | grantUpgradeAuth admin address role expiresAt =>
      obtain ⟨-, started, -, -, rfl⟩ := grantUpgradeAuth_eq_ok.mp stepped
      refine ⟨fun unset => ?_, follows.same rfl (fun _ => rfl) rfl rfl⟩
      cases started.symm.trans unset
  | revokeUpgradeAuth admin address =>
      obtain ⟨-, started, -, -, -, rfl⟩ := revokeUpgradeAuth_eq_ok.mp stepped
      refine ⟨fun unset => ?_, follows.same rfl (fun _ => rfl) rfl rfl⟩
      cases started.symm.trans unset
  | proposeUpgrade proposer newImplementation upgradeData requiredApprovals =>
      obtain ⟨⟨_, id⟩, proposed, rfl⟩ := Outcome.map_eq_ok.mp stepped
      obtain ⟨⟨-, authorization, found, -⟩, -, -, rfl⟩ := proposeUpgrade_eq_ok.mp proposed
      refine ⟨fun unset => ?_, follows.file rfl (fun _ => rfl) rfl rfl⟩
      cases ((fresh unset).auth proposer).symm.trans found
  | approveUpgradeProposal upgrader proposalId =>
      obtain ⟨⟨-, authorized⟩, proposal, found, pending, absent, rfl⟩ :=
        approveUpgradeProposal_eq_ok.mp stepped
      refine ⟨fun unset => ?_,
        follows.approve rfl (fun _ => rfl) found pending absent rfl rfl⟩
      obtain ⟨authorization, granted, -⟩ := isAuthorizedUpgrader_iff.mp authorized
      cases ((fresh unset).auth upgrader).symm.trans granted
  | executeUpgrade executor newImplementation proposalId =>
      obtain ⟨-, -, marked, marks, currentImpl, current, -⟩ := executeUpgrade_eq_ok.mp stepped
      rw [markExecuted_same marks] at current
      cases never.implementation.symm.trans current
  | transferUpgradeAdmin admin newAdmin =>
      change transferUpgradeAdmin env before strkey admin newAdmin = .ok after at stepped
      simp only [transferUpgradeAdmin, Outcome.bind_eq_ok, requireUpgradeAdmin_eq_ok,
        Outcome.pure_eq_ok] at stepped
      obtain ⟨-, -, -, started, -, -, -, -, rfl⟩ := stepped
      refine ⟨fun unset => ?_, follows.same rfl (fun _ => rfl) rfl rfl⟩
      cases started.symm.trans unset
  | acceptUpgradeAdmin caller =>
      obtain ⟨-, -, -, rfl⟩ := acceptUpgradeAdmin_eq_ok.mp stepped
      exact ⟨by simp, follows.same rfl (fun _ => rfl) rfl rfl⟩

theorem follows_deployed : Storage.deployed.Follows [] where
  counter := rfl
  unused := rfl
  each := by
    intro index
    constructor <;> simp [Storage.deployed, filings, approvers]

theorem neverUpgraded_of_run (run : Run (Step strkey) .deployed trace storage) :
    NeverUpgraded storage :=
  run.invariant NeverUpgraded ⟨rfl, rfl⟩ fun _ never stepped => neverUpgraded_step never stepped

theorem follows_of_run (run : Run (Step strkey) .deployed trace storage) :
    storage.Follows trace := by
  have whole : (storage.admin = none → Uninitialized storage) ∧ storage.Follows trace := by
    apply run.history (motive := fun trace storage =>
      (storage.admin = none → Uninitialized storage) ∧ storage.Follows trace)
    · exact ⟨fun _ => ⟨fun _ => rfl, rfl⟩, follows_deployed⟩
    · rintro trace event reached ⟨fresh, follows⟩ stepped
      exact follows_of_step (neverUpgraded_of_run reached) fresh follows stepped
  exact whole.2

/-- An approval is signed by an upgrader. -/
theorem signed_of_approver {proposalId : Nat} {upgrader : Address}
    (approves : approver proposalId event.label = some upgrader)
    (stepped : Step strkey event.before event.label event.after) :
    event.label.call = .approveUpgradeProposal upgrader proposalId ∧
      event.label.env.authorized upgrader = true ∧
        isAuthorizedUpgrader event.label.env event.before upgrader = true := by
  obtain ⟨before, ⟨env, call⟩, after⟩ := event
  unfold approver at approves
  split at approves
  · rename_i caller number called
    split at approves
    · rename_i same
      obtain rfl := Option.some.inj approves
      obtain rfl : call = .approveUpgradeProposal caller number := called
      obtain ⟨signed, -⟩ := approveUpgradeProposal_eq_ok.mp stepped
      exact ⟨by rw [same], signed⟩
    · cases approves
  · cases approves

/-- In every run the stored proposals are those that were filed, in their order, each with
the approvals it was given: of different upgraders, who signed while they were authorised,
and of no more of them than decide.  A proposal is approved once that many approved it, and
pending before; nothing ever takes it further. -/
theorem upgrade_proposals_exact (run : Run (Step strkey) .deployed trace storage) :
    storage.Follows trace ∧
      ∀ proposalId, ∀ upgrader ∈ approvers proposalId trace, ∃ event ∈ trace,
        event.label.call = .approveUpgradeProposal upgrader proposalId ∧
          event.label.env.authorized upgrader = true ∧
            isAuthorizedUpgrader event.label.env event.before upgrader = true := by
  refine ⟨follows_of_run run, ?_⟩
  intro proposalId upgrader approved
  obtain ⟨_, listed, approves⟩ := List.mem_filterMap.mp approved
  obtain ⟨event, member, rfl⟩ := List.mem_map.mp listed
  exact ⟨event, member, signed_of_approver approves (run.stepped_of_mem member)⟩

/-- A proposal that requires no approval waits for the first one. -/
theorem upgrade_proposals_exact_sample :
    ∃ trace storage, ∃ filing : Filing, Run (Step fun _ => "") .deployed trace storage ∧
      filing.requiredApprovals = 0 ∧ approvers 1 trace = [⟨1⟩] ∧
        storage.proposal 1 = some (filing.proposal 1 [⟨1⟩]) := by
  obtain ⟨storage, followed⟩ : ∃ storage, replay (next fun _ => "") .deployed
      [ ⟨.signedByAll ⟨0⟩ 10, .initializeUpgradeAuth ⟨1⟩⟩,
        ⟨.signedByAll ⟨0⟩ 20, .proposeUpgrade ⟨1⟩ ⟨9⟩ [] 0⟩,
        ⟨.signedByAll ⟨0⟩ 30, .approveUpgradeProposal ⟨1⟩ 1⟩ ] = some storage :=
    ⟨_, rfl⟩
  obtain ⟨trace, run, labels⟩ := run_of_replay step_of_next followed
  obtain ⟨follows, -⟩ := upgrade_proposals_exact run
  have filed : (filings trace)[0]? = some ⟨⟨1⟩, ⟨9⟩, [], 20, 0⟩ := by
    rw [filings, labels]
    rfl
  have approved : approvers 1 trace = [⟨1⟩] := by
    rw [approvers, labels]
    rfl
  refine ⟨trace, storage, ⟨⟨1⟩, ⟨9⟩, [], 20, 0⟩, run, rfl, approved, ?_⟩
  rw [(follows.each 0).entry, filed, ← approved]
  rfl

end Refinement

end UpgradeAuth
