import CredenceContracts.Arbitration.Contract

/-!
# What each arbitration operation does

One lemma for each entry point says what it takes to answer with a value and what that
leaves.  Every entry point checks before it writes, so an error leaves the entries alone.
-/

namespace Arbitration

open Soroban MachineInt

section Answers

variable {env : Env} {storage after : Storage}

/-- The contract is not paused and its admin authorised the call. -/
def AdminCall (env : Env) (storage : Storage) : Prop :=
  storage.pause.paused = false ∧
    ∃ admin, storage.admin = some admin ∧ env.authorized admin = true

/-- The contract is not paused and the named address authorised the call. -/
def SignedCall (env : Env) (storage : Storage) (caller : Address) : Prop :=
  storage.pause.paused = false ∧ env.authorized caller = true

@[simp] theorem requireTransition_eq_ok {source target : DisputeStatus} {done : Unit} :
    (requireTransition source target).exec storage = .ok (.ok done, after) ↔
      source.permits target = true ∧ after = storage := by
  simp [requireTransition]

theorem initializeArbitration_eq_ok {admin : Address} {done : Unit} :
    (initializeArbitration admin).exec storage = .ok (.ok done, after) ↔
      storage.admin = none ∧
        after = { storage with admin := some admin, pause := storage.pause.reset } := by
  simp [initializeArbitration]
  grind

theorem registerArbitrator_eq_ok {arbitrator : Address} {weight : Int} {done : Unit} :
    (registerArbitrator env arbitrator weight).exec storage = .ok (.ok done, after) ↔
      AdminCall env storage ∧ 0 < weight ∧
        after = { storage with
          arbitrator := Function.update storage.arbitrator arbitrator (some weight)
          arbitratorRegistry :=
            if storage.arbitratorRegistry.any (fun listed => listed == arbitrator) then
              storage.arbitratorRegistry
            else
              storage.arbitratorRegistry ++ [arbitrator] } := by
  simp [registerArbitrator, AdminCall]
  grind

theorem unregisterArbitrator_eq_ok {arbitrator : Address} {done : Unit} :
    (unregisterArbitrator env arbitrator).exec storage = .ok (.ok done, after) ↔
      AdminCall env storage ∧
        after = { storage with
          arbitrator := Function.update storage.arbitrator arbitrator none
          arbitratorRegistry :=
            storage.arbitratorRegistry.filter fun listed => listed != arbitrator } := by
  simp [unregisterArbitrator, AdminCall]
  grind

/-- A new dispute, whose voting period begins at once. -/
def Dispute.created (env : Env) (id : Nat) (creator : Address) (description : Bytes)
    (duration : Nat) : Dispute where
  id
  creator
  description
  votingStart := env.timestamp
  votingEnd := env.timestamp + duration
  status := .voting
  outcome := 0
  cancellationReason := none
  cancelledByRole := none

theorem createDispute_eq_ok {creator : Address} {description : Bytes} {duration id : Nat} :
    (createDispute env creator description duration).exec storage = .ok (.ok id, after) ↔
      SignedCall env storage creator ∧ storage.disputeCounter + 1 < 2 ^ 64 ∧
        env.timestamp + duration < 2 ^ 64 ∧ id = storage.disputeCounter ∧
          after = { storage with
            disputeCounter := storage.disputeCounter + 1
            dispute := Function.update storage.dispute storage.disputeCounter
              (some (.created env storage.disputeCounter creator description duration)) } := by
  simp [createDispute, SignedCall, Dispute.created, DisputeStatus.permits, -bind_pure_comp]
  grind

theorem cancelDispute_eq_ok {caller : Address} {disputeId : Nat} {reason : Option Bytes}
    {done : Unit} :
    (cancelDispute env caller disputeId reason).exec storage = .ok (.ok done, after) ↔
      SignedCall env storage caller ∧ (∀ text ∈ reason, text.length ≤ 256) ∧
        ∃ dispute admin role, storage.dispute disputeId = some dispute ∧
          storage.admin = some admin ∧ dispute.cancelRole admin caller = some role ∧
            dispute.status.permits .cancelled = true ∧ after = { storage with
              dispute := Function.update storage.dispute disputeId (some { dispute with
                status := .cancelled
                cancellationReason := reason
                cancelledByRole := some role }) } := by
  simp [cancelDispute, SignedCall, -bind_pure_comp]
  grind

/-- The dispute is in its voting period. -/
def Dispute.Votable (dispute : Dispute) (now : Nat) : Prop :=
  dispute.status = .voting ∧ dispute.votingStart ≤ now ∧ now ≤ dispute.votingEnd

/-- The entries after a vote. -/
def Storage.voted (storage : Storage) (voter : Address) (disputeId outcome : Nat)
    (weight : Int) : Storage :=
  { storage with
    voterCasted := Function.update storage.voterCasted disputeId
      (Function.update (storage.voterCasted disputeId) voter true)
    voterCounter :=
      Function.update storage.voterCounter disputeId (storage.voterCounter disputeId + 1)
    disputeVotes := Function.update storage.disputeVotes disputeId
      ((storage.disputeVotes disputeId).insert outcome
        (getTally storage disputeId outcome + weight)) }

theorem vote_eq_ok {voter : Address} {disputeId outcome : Nat} {done : Unit} :
    (vote env voter disputeId outcome).exec storage = .ok (.ok done, after) ↔
      SignedCall env storage voter ∧ outcome ≠ 0 ∧
        ∃ weight dispute, storage.arbitrator voter = some weight ∧
          storage.dispute disputeId = some dispute ∧ dispute.Votable env.timestamp ∧
            storage.voterCasted disputeId voter = false ∧
              storage.voterCounter disputeId + 1 < 2 ^ 32 ∧
                FitsI128 (getTally storage disputeId outcome + weight) ∧
                  after = storage.voted voter disputeId outcome weight := by
  simp [vote, SignedCall, Storage.voted, getTally, Dispute.Votable]
  grind

/-- The configured quorum was met, as far as one was configured. -/
def QuorumChecked (storage : Storage) (disputeId : Nat) : Prop :=
  0 < storage.minTotalWeight ∨ 0 < storage.minVoters →
    ∃ total, totalWeight (storage.disputeVotes disputeId) = .ok total ∧
      storage.minTotalWeight ≤ total ∧ storage.minVoters ≤ storage.voterCounter disputeId

@[simp] theorem requireQuorum_eq_ok {disputeId : Nat} {middle : Storage} {done : Unit} :
    (requireQuorum storage disputeId).exec middle = .ok (.ok done, after) ↔
      QuorumChecked storage disputeId ∧ after = middle := by
  unfold requireQuorum QuorumChecked
  split
  · rename_i configured
    simp [configured]
    grind
  · rename_i unset
    simp [unset]
    grind

/-- The status and the outcome that the votes give a dispute. -/
def verdict (votes : Votes) : DisputeStatus × Nat :=
  let found := leader votes.toList
  if found.isTie = true ∨ found.maxWeight < 0 then
    (.tied, 0)
  else
    (.resolved, found.winningOutcome)

theorem resolveDispute_eq_ok {disputeId outcome : Nat} :
    (resolveDispute env disputeId).exec storage = .ok (.ok outcome, after) ↔
      storage.pause.paused = false ∧
        ∃ dispute, storage.dispute disputeId = some dispute ∧
          dispute.status.permits .resolving = true ∧ dispute.votingEnd < env.timestamp ∧
            QuorumChecked storage disputeId ∧
              outcome = (verdict (storage.disputeVotes disputeId)).2 ∧
                after = { storage with
                  dispute := Function.update storage.dispute disputeId (some { dispute with
                    status := (verdict (storage.disputeVotes disputeId)).1
                    outcome := (verdict (storage.disputeVotes disputeId)).2 }) } := by
  by_cases tied : (leader (storage.disputeVotes disputeId).toList).isTie = true ∨
      (leader (storage.disputeVotes disputeId).toList).maxWeight < 0
  · simp [resolveDispute, verdict, tied, DisputeStatus.permits, -bind_pure_comp]
    grind
  · simp [resolveDispute, verdict, tied, DisputeStatus.permits, -bind_pure_comp]
    grind

theorem setQuorum_eq_ok {admin : Address} {minTotalWeight : Int} {minVoters : Nat}
    {done : Unit} :
    (setQuorum env admin minTotalWeight minVoters).exec storage = .ok (.ok done, after) ↔
      SignedCall env storage admin ∧ storage.admin = some admin ∧
        after = { storage with minTotalWeight, minVoters } := by
  simp [setQuorum, SignedCall]
  grind

end Answers

section Errors

variable {env : Env}

theorem requireTransition_silent {source target : DisputeStatus} :
    Body.Silent (requireTransition source target) :=
  .rejectIf

theorem requireTransition_unfailing {source target : DisputeStatus}
    (permitted : source.permits target = true) :
    Body.Unfailing (requireTransition source target) := by
  intro storage after error failed
  simp [requireTransition, Body.rejectIf, permitted] at failed

theorem requireQuorum_silent {storage : Storage} {disputeId : Nat} :
    Body.Silent (requireQuorum storage disputeId) := by
  unfold requireQuorum
  split
  · exact .bind .orPanic fun _ => .rejectIf
  · exact .pure

theorem initializeArbitration_atomic {admin : Address} :
    Body.Atomic (initializeArbitration admin) :=
  .check .get fun _ => .check .rejectIf fun _ => Body.Unfailing.modify.atomic

theorem registerArbitrator_atomic {arbitrator : Address} {weight : Int} :
    Body.Atomic (registerArbitrator env arbitrator weight) :=
  .check .get fun _ => .check .orPanic fun _ => .check .okOr fun _ =>
    .check .orPanic fun _ => .check .rejectIf fun _ => Body.Unfailing.modify.atomic

theorem unregisterArbitrator_atomic {arbitrator : Address} :
    Body.Atomic (unregisterArbitrator env arbitrator) :=
  .check .get fun _ => .check .orPanic fun _ => .check .okOr fun _ =>
    .check .orPanic fun _ => Body.Unfailing.modify.atomic

/-- The counter is written before the transition is checked, but that check passes. -/
theorem createDispute_atomic {creator : Address} {description : Bytes} {duration : Nat} :
    Body.Atomic (createDispute env creator description duration) :=
  .check .get fun _ => .check .orPanic fun _ => .check .orPanic fun _ =>
    .check .orPanic fun _ => (Body.Unfailing.bind .modify fun _ => .bind .orPanic fun _ =>
      .bind (requireTransition_unfailing rfl) fun _ => .bind .modify fun _ => .pure).atomic

theorem cancelDispute_atomic {caller : Address} {disputeId : Nat} {reason : Option Bytes} :
    Body.Atomic (cancelDispute env caller disputeId reason) :=
  .check .get fun _ => .check .orPanic fun _ => .check .orPanic fun _ =>
    .check .rejectIf fun _ => .check .okOr fun _ => .check .okOr fun _ =>
      .check .okOr fun _ => .check requireTransition_silent fun _ =>
        Body.Unfailing.modify.atomic

theorem vote_atomic {voter : Address} {disputeId outcome : Nat} :
    Body.Atomic (vote env voter disputeId outcome) :=
  .check .get fun _ => .check .orPanic fun _ => .check .orPanic fun _ =>
    .check .rejectIf fun _ => .check .okOr fun _ => .check .okOr fun _ =>
      .check .rejectIf fun _ => .check .rejectIf fun _ => .check .rejectIf fun _ =>
        (Body.Unfailing.bind .modify fun _ => .bind .orPanic fun _ => .bind .modify fun _ =>
          .bind .orPanic fun _ => .modify).atomic

theorem resolveDispute_atomic {disputeId : Nat} :
    Body.Atomic (resolveDispute env disputeId) := by
  refine .check .get fun storage => .check .orPanic fun _ => .check .okOr fun _ =>
    .check requireTransition_silent fun _ => .check .rejectIf fun _ =>
      .check requireQuorum_silent fun _ => ?_
  dsimp only
  split
  · exact (Body.Unfailing.bind (requireTransition_unfailing rfl) fun _ =>
      .bind .modify fun _ => .pure).atomic
  · exact (Body.Unfailing.bind (requireTransition_unfailing rfl) fun _ =>
      .bind .modify fun _ => .pure).atomic

theorem setQuorum_atomic {admin : Address} {minTotalWeight : Int} {minVoters : Nat} :
    Body.Atomic (setQuorum env admin minTotalWeight minVoters) :=
  .check .get fun _ => .check .orPanic fun _ => .check .okOr fun _ =>
    .check .orPanic fun _ => .check .rejectIf fun _ => Body.Unfailing.modify.atomic

/-- A call that answers with an error changes nothing. -/
theorem invoke_atomic {call : Call} : Body.Atomic (invoke env call) := by
  cases call with
  | initializeArbitration admin => exact initializeArbitration_atomic.bind fun _ => .pure
  | registerArbitrator arbitrator weight =>
      exact registerArbitrator_atomic.bind fun _ => .pure
  | unregisterArbitrator arbitrator => exact unregisterArbitrator_atomic.bind fun _ => .pure
  | createDispute creator description duration =>
      exact createDispute_atomic.bind fun _ => .pure
  | cancelDispute caller disputeId reason => exact cancelDispute_atomic.bind fun _ => .pure
  | vote voter disputeId outcome => exact vote_atomic.bind fun _ => .pure
  | resolveDispute disputeId => exact resolveDispute_atomic.bind fun _ => .pure
  | setQuorum admin minTotalWeight minVoters => exact setQuorum_atomic.bind fun _ => .pure
  | pausable call =>
      exact .check .get fun _ => .check .orPanic fun _ =>
        (Body.Unfailing.bind .modify fun _ => .pure).atomic

end Errors

section Steps

variable {storage after : Storage} {label : Label}

/-- The calls of the admin and of the pause module. -/
def Call.administers : Call → Bool
  | .initializeArbitration _ => true
  | .registerArbitrator _ _ => true
  | .unregisterArbitrator _ => true
  | .setQuorum _ _ _ => true
  | .pausable _ => true
  | _ => false

/-- The disputes and their votes are untouched, and new arbitrators have a positive
weight. -/
structure Administered (storage after : Storage) : Prop where
  dispute : after.dispute = storage.dispute
  disputeCounter : after.disputeCounter = storage.disputeCounter
  disputeVotes : after.disputeVotes = storage.disputeVotes
  voterCasted : after.voterCasted = storage.voterCasted
  voterCounter : after.voterCounter = storage.voterCounter
  arbitrator : ∀ address weight, after.arbitrator address = some weight →
    storage.arbitrator address = some weight ∨ 0 < weight

/-- What a step is: a call that answered with an error and changed nothing, or one that
did what it is for. -/
inductive Effect (storage : Storage) (label : Label) (after : Storage) : Prop where
  | failed (error : ArbitrationError) (answered : label.answer = .error error)
      (same : after = storage)
  | administered (called : label.call.administers = true)
      (kept : Administered storage after)
  | created (creator : Address) (description : Bytes) (duration id : Nat)
      (called : label.call = .createDispute creator description duration)
      (done : (createDispute label.env creator description duration).exec storage =
        .ok (.ok id, after))
  | cancelled (caller : Address) (disputeId : Nat) (reason : Option Bytes)
      (called : label.call = .cancelDispute caller disputeId reason)
      (done : (cancelDispute label.env caller disputeId reason).exec storage =
        .ok (.ok (), after))
  | voted (voter : Address) (disputeId outcome : Nat)
      (called : label.call = .vote voter disputeId outcome)
      (answered : label.answer = .ok .unit)
      (done : (vote label.env voter disputeId outcome).exec storage = .ok (.ok (), after))
  | resolved (disputeId outcome : Nat) (called : label.call = .resolveDispute disputeId)
      (answered : label.answer = .ok (.number outcome))
      (done : (resolveDispute label.env disputeId).exec storage = .ok (.ok outcome, after))

theorem effect_of_step (stepped : Step storage label after) :
    Effect storage label after := by
  obtain ⟨env, call, answer⟩ := label
  cases answer with
  | error raised => exact .failed raised rfl (invoke_atomic stepped)
  | ok value =>
      cases call with
      | initializeArbitration admin =>
          obtain ⟨_, done, -⟩ := Body.ok_of_answer stepped
          obtain ⟨-, rfl⟩ := initializeArbitration_eq_ok.mp done
          exact .administered rfl ⟨rfl, rfl, rfl, rfl, rfl, fun _ _ => .inl⟩
      | registerArbitrator arbitrator weight =>
          obtain ⟨_, done, -⟩ := Body.ok_of_answer stepped
          obtain ⟨-, positive, rfl⟩ := registerArbitrator_eq_ok.mp done
          refine .administered rfl ⟨rfl, rfl, rfl, rfl, rfl, fun address found stored => ?_⟩
          by_cases same : address = arbitrator
          · obtain rfl : weight = found := by simpa [same] using stored
            exact .inr positive
          · exact .inl (by simpa [same] using stored)
      | unregisterArbitrator arbitrator =>
          obtain ⟨_, done, -⟩ := Body.ok_of_answer stepped
          obtain ⟨-, rfl⟩ := unregisterArbitrator_eq_ok.mp done
          refine .administered rfl ⟨rfl, rfl, rfl, rfl, rfl, fun address found stored => ?_⟩
          by_cases same : address = arbitrator
          · simp [same] at stored
          · exact .inl (by simpa [same] using stored)
      | createDispute creator description duration =>
          obtain ⟨id, done, -⟩ := Body.ok_of_answer stepped
          exact .created creator description duration id rfl done
      | cancelDispute caller disputeId reason =>
          obtain ⟨_, done, -⟩ := Body.ok_of_answer stepped
          exact .cancelled caller disputeId reason rfl done
      | vote voter disputeId outcome =>
          obtain ⟨_, done, rfl⟩ := Body.ok_of_answer stepped
          exact .voted voter disputeId outcome rfl rfl done
      | resolveDispute disputeId =>
          obtain ⟨outcome, done, rfl⟩ := Body.ok_of_answer stepped
          exact .resolved disputeId outcome rfl rfl done
      | setQuorum admin minTotalWeight minVoters =>
          obtain ⟨_, done, -⟩ := Body.ok_of_answer stepped
          obtain ⟨-, -, rfl⟩ := setQuorum_eq_ok.mp done
          exact .administered rfl ⟨rfl, rfl, rfl, rfl, rfl, fun _ _ => .inl⟩
      | pausable call =>
          simp only [Step, invoke, Body.bind_eq_ok, Body.orPanic_eq_ok, Body.exec_get,
            Body.exec_modify, Body.exec_pure, Except.ok.injEq, Prod.mk.injEq] at stepped
          obtain ⟨_, _, ⟨rfl, rfl⟩, pause, _, ⟨-, rfl⟩, _, _, ⟨-, rfl⟩, -, rfl⟩ := stepped
          exact .administered rfl ⟨rfl, rfl, rfl, rfl, rfl, fun _ _ => .inl⟩

end Steps

end Arbitration
