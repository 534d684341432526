import CredenceContracts.Arbitration.Ballots
import Mathlib.Algebra.Order.BigOperators.Group.List

/-!
# The life of a dispute

A dispute is created in its voting period and leaves it once: it is cancelled by its
creator or the admin, or it is resolved or tied after the period, when the quorum
configured at that moment is met.  What it ends as is final.  The transition table also
names an open and a resolving status; no dispute is ever stored in either.
-/

namespace Arbitration

open Soroban Transition MachineInt

section Verdicts

/-- A pass keeps the winner it has or takes the outcome it meets. -/
theorem foldl_pass {tallies : List (Nat × Int)} {start : Leader} :
    (tallies.foldl Leader.pass start).winningOutcome ∈ tallies.map Prod.fst ∨
      (tallies.foldl Leader.pass start).winningOutcome = start.winningOutcome ∧
        (tallies.foldl Leader.pass start).maxWeight = start.maxWeight := by
  induction tallies generalizing start with
  | nil => simp
  | cons entry rest ih =>
      rw [List.foldl_cons, List.map_cons, List.mem_cons]
      rcases @ih (start.pass entry) with later | ⟨same, weight⟩
      · exact .inl (.inr later)
      · rw [same, weight]
        unfold Leader.pass
        split
        · exact .inl (.inl rfl)
        · split <;> exact .inr ⟨rfl, rfl⟩

/-- A winner with a weight is one of the outcomes that were voted for. -/
theorem leader_mem {tallies : List (Nat × Int)} (weighed : 0 ≤ (leader tallies).maxWeight) :
    (leader tallies).winningOutcome ∈ tallies.map Prod.fst := by
  unfold leader at weighed ⊢
  rcases @foldl_pass tallies _ with member | ⟨-, weight⟩
  · exact member
  · rw [weight] at weighed
    simp at weighed

/-- A verdict is a tie with outcome 0, or an outcome that was voted for. -/
theorem verdict_cases (votes : Votes) :
    verdict votes = (.tied, 0) ∨
      ∃ outcome ∈ votes, verdict votes = (.resolved, outcome) := by
  unfold verdict
  dsimp only
  split
  · exact .inl rfl
  · rename_i decided
    rw [not_or, not_lt] at decided
    refine .inr ⟨_, ?_, rfl⟩
    obtain ⟨entry, member, same⟩ := List.mem_map.mp (leader_mem decided.2)
    rw [← same]
    exact Tally.mem_of_mem_toList member

theorem foldlM_checked {entries : List (Nat × Int)} {failure : Failure} {start total : Int}
    (summed : entries.foldlM (fun total entry => checkedI128 (total + entry.2) failure) start =
      .ok total) : total = start + (entries.map Prod.snd).sum := by
  induction entries generalizing start with
  | nil => simpa using (Outcome.pure_eq_ok.mp summed)
  | cons entry rest ih =>
      obtain ⟨next, checked, onward⟩ := Outcome.bind_eq_ok.mp summed
      obtain ⟨-, rfl⟩ := checkedI128_eq_ok.mp checked
      rw [ih onward, List.map_cons, List.sum_cons, add_assoc]

theorem totalWeight_eq {votes : Votes} {total : Int} (summed : totalWeight votes = .ok total) :
    total = Tally.total votes := by
  rw [foldlM_checked summed, zero_add, Tally.total]

end Verdicts

section Changes

variable {storage after : Storage} {label : Label}

/-- How a step takes a dispute out of its voting period. -/
inductive Settles (storage : Storage) (label : Label) (disputeId : Nat)
    (dispute settled : Dispute) : Prop where
  | cancelled (caller : Address) (reason : Option Bytes)
      (called : label.call = .cancelDispute caller disputeId reason)
      (signed : label.env.authorized caller = true)
      (entitled : caller = dispute.creator ∨ storage.admin = some caller)
      (status : settled.status = .cancelled) (outcome : settled.outcome = dispute.outcome)
  | resolved (called : label.call = .resolveDispute disputeId)
      (ended : dispute.votingEnd < label.env.timestamp)
      (quorum : QuorumChecked storage disputeId)
      (given : (settled.status, settled.outcome) = verdict (storage.disputeVotes disputeId))

/-- What a step does to the disputes. -/
inductive DisputeChange (storage : Storage) (label : Label) (after : Storage) : Prop where
  | kept (same : after.dispute = storage.dispute)
      (counter : after.disputeCounter = storage.disputeCounter)
  | created (dispute : Dispute) (status : dispute.status = .voting)
      (outcome : dispute.outcome = 0)
      (stored : after.dispute =
        Function.update storage.dispute storage.disputeCounter (some dispute))
      (counter : after.disputeCounter = storage.disputeCounter + 1)
  | settled (disputeId : Nat) (dispute settled : Dispute)
      (found : storage.dispute disputeId = some dispute)
      (status : dispute.status = .opened ∨ dispute.status = .voting)
      (settles : Settles storage label disputeId dispute settled)
      (stored : after.dispute = Function.update storage.dispute disputeId (some settled))
      (counter : after.disputeCounter = storage.disputeCounter)

theorem DisputeStatus.permits_cancelled {status : DisputeStatus}
    (permitted : status.permits .cancelled = true) :
    status = .opened ∨ status = .voting := by
  cases status <;> simp_all [DisputeStatus.permits]

theorem DisputeStatus.permits_resolving {status : DisputeStatus}
    (permitted : status.permits .resolving = true) : status = .voting := by
  cases status <;> simp_all [DisputeStatus.permits]

theorem Dispute.cancelRole_eq_some {dispute : Dispute} {admin caller : Address} {role : Role}
    (entitled : dispute.cancelRole admin caller = some role) :
    caller = dispute.creator ∨ caller = admin := by
  unfold cancelRole at entitled
  grind

theorem change_of_step (stepped : Step storage label after) :
    DisputeChange storage label after := by
  cases effect_of_step stepped with
  | failed error answered same => exact .kept (by rw [same]) (by rw [same])
  | administered called kept => exact .kept kept.dispute kept.disputeCounter
  | created creator description duration id called done =>
      obtain ⟨-, -, -, -, rfl⟩ := createDispute_eq_ok.mp done
      exact .created _ rfl rfl rfl rfl
  | cancelled caller disputeId reason called done =>
      obtain ⟨⟨-, signed⟩, -, dispute, admin, role, found, administered, entitled, permitted,
        rfl⟩ := cancelDispute_eq_ok.mp done
      have pending := DisputeStatus.permits_cancelled permitted
      refine .settled disputeId dispute _ found pending ?_ rfl rfl
      refine .cancelled caller reason called signed ?_ rfl rfl
      rcases dispute.cancelRole_eq_some entitled with own | rfl
      · exact .inl own
      · exact .inr administered
  | voted voter disputeId outcome called answered done =>
      obtain ⟨-, -, _, _, -, -, -, -, -, -, rfl⟩ := vote_eq_ok.mp done
      exact .kept rfl rfl
  | resolved disputeId outcome called answered done =>
      obtain ⟨-, dispute, found, permitted, ended, quorum, -, rfl⟩ :=
        resolveDispute_eq_ok.mp done
      have status := DisputeStatus.permits_resolving permitted
      exact .settled disputeId dispute _ found (.inr status)
        (.resolved called ended quorum rfl) rfl rfl

theorem arbitrator_of_step {address : Address} {weight : Int}
    (stepped : Step storage label after) (found : after.arbitrator address = some weight) :
    storage.arbitrator address = some weight ∨ 0 < weight := by
  cases effect_of_step stepped with
  | failed error answered same => exact .inl (same ▸ found)
  | administered called kept => exact kept.arbitrator address weight found
  | created creator description duration id called done =>
      obtain ⟨-, -, -, -, rfl⟩ := createDispute_eq_ok.mp done
      exact .inl found
  | cancelled caller disputeId reason called done =>
      obtain ⟨-, -, _, _, _, -, -, -, -, rfl⟩ := cancelDispute_eq_ok.mp done
      exact .inl found
  | voted voter disputeId outcome called answered done =>
      obtain ⟨-, -, _, _, -, -, -, -, -, -, rfl⟩ := vote_eq_ok.mp done
      exact .inl found
  | resolved disputeId outcome called answered done =>
      obtain ⟨-, _, -, -, -, -, -, rfl⟩ := resolveDispute_eq_ok.mp done
      exact .inl found

end Changes

section Standing

variable {storage after : Storage} {label : Label} {cast : List Ballot}
variable {trace : List (Event Storage Label)}

/-- The dispute is resolved with an outcome that was voted for, or has no outcome. -/
def Dispute.Standing (dispute : Dispute) (disputeId : Nat) (cast : List Ballot) : Prop :=
  (dispute.status = .voting ∨ dispute.status = .cancelled ∨ dispute.status = .tied) ∧
      dispute.outcome = 0 ∨
    dispute.status = .resolved ∧ dispute.outcome ≠ 0 ∧
      ∃ ballot ∈ cast, ballot.disputeId = disputeId ∧ ballot.outcome = dispute.outcome

theorem Dispute.Standing.mono {dispute : Dispute} {disputeId : Nat} {more : List Ballot}
    (standing : dispute.Standing disputeId cast) :
    dispute.Standing disputeId (cast ++ more) := by
  rcases standing with pending | ⟨status, nonzero, ballot, member, same⟩
  · exact .inl pending
  · exact .inr ⟨status, nonzero, ballot, List.mem_append_left _ member, same⟩

/-- What holds of the disputes, the arbitrators and the ballots of every run. -/
structure Sound (storage : Storage) (cast : List Ballot) : Prop where
  fresh : ∀ disputeId, storage.disputeCounter ≤ disputeId → storage.dispute disputeId = none
  standing : ∀ disputeId dispute, storage.dispute disputeId = some dispute →
    dispute.Standing disputeId cast
  arbitrator : ∀ address weight, storage.arbitrator address = some weight → 0 < weight
  ballot : ∀ ballot ∈ cast, 0 < ballot.weight ∧ ballot.outcome ≠ 0

theorem sound_deployed : Sound .deployed [] where
  fresh := fun _ _ => rfl
  standing := by simp [Storage.deployed]
  arbitrator := by simp [Storage.deployed]
  ballot := by simp

/-- A voted outcome has a ballot. -/
theorem Counted.ballot_of_mem {disputeId outcome : Nat} (counted : Counted storage cast)
    (member : outcome ∈ storage.disputeVotes disputeId) :
    ∃ ballot ∈ cast, ballot.disputeId = disputeId ∧ ballot.outcome = outcome := by
  obtain ⟨entry, listed, same⟩ := ((counted.votes disputeId).keys outcome).mp member
  obtain ⟨ballot, on, rfl⟩ := List.mem_map.mp listed
  obtain ⟨inside, dispute⟩ := List.mem_filter.mp on
  exact ⟨ballot, inside, of_decide_eq_true dispute, same⟩

/-- What a dispute ends as stands. -/
theorem Settles.standing {disputeId : Nat} {dispute settled : Dispute}
    (settles : Settles storage label disputeId dispute settled)
    (sound : Sound storage cast) (counted : Counted storage cast)
    (pending : dispute.outcome = 0) : settled.Standing disputeId cast := by
  cases settles with
  | cancelled caller reason called signed entitled status outcome =>
      exact .inl ⟨.inr (.inl status), outcome.trans pending⟩
  | resolved called ended quorum given =>
      rcases verdict_cases (storage.disputeVotes disputeId) with tied | ⟨outcome, member, won⟩
      · obtain ⟨status, zero⟩ := Prod.mk.inj (given.trans tied)
        exact .inl ⟨.inr (.inr status), zero⟩
      · obtain ⟨status, rfl⟩ := Prod.mk.inj (given.trans won)
        obtain ⟨ballot, inside, on, same⟩ := counted.ballot_of_mem member
        exact .inr ⟨status, same ▸ (sound.ballot ballot inside).2, ballot, inside, on, same⟩

/-- A dispute that leaves its voting period was in it, without an outcome. -/
theorem Dispute.Standing.voting {dispute : Dispute} {disputeId : Nat}
    (standing : dispute.Standing disputeId cast)
    (status : dispute.status = .opened ∨ dispute.status = .voting) :
    dispute.status = .voting ∧ dispute.outcome = 0 := by
  unfold Dispute.Standing at standing
  grind

/-- A step keeps the disputes sound over the ballots before it. -/
theorem Sound.disputes (sound : Sound storage cast) (counted : Counted storage cast)
    (stepped : Step storage label after) :
    (∀ disputeId, after.disputeCounter ≤ disputeId → after.dispute disputeId = none) ∧
      ∀ disputeId dispute, after.dispute disputeId = some dispute →
        dispute.Standing disputeId cast := by
  cases change_of_step stepped with
  | kept same counter =>
      rw [same, counter]
      exact ⟨sound.fresh, sound.standing⟩
  | created new status outcome stored counter =>
      rw [stored, counter]
      constructor
      · intro disputeId beyond
        have different : disputeId ≠ storage.disputeCounter := by omega
        simpa [different] using sound.fresh disputeId (Nat.le_of_succ_le beyond)
      · intro disputeId dispute found
        by_cases same : disputeId = storage.disputeCounter
        · obtain rfl : new = dispute := by simpa [same] using found
          exact .inl ⟨.inl status, outcome⟩
        · exact sound.standing disputeId dispute (by simpa [same] using found)
  | settled id before settled found status settles stored counter =>
      have used : id < storage.disputeCounter := by
        by_contra beyond
        simp [sound.fresh id (not_lt.mp beyond)] at found
      rw [stored, counter]
      constructor
      · intro disputeId beyond
        have different : disputeId ≠ id := by omega
        simpa [different] using sound.fresh disputeId beyond
      · intro disputeId dispute present
        by_cases same : disputeId = id
        · subst same
          obtain rfl : settled = dispute := by simpa using present
          have pending := ((sound.standing _ _ found).voting status).2
          exact settles.standing sound counted pending
        · exact sound.standing disputeId dispute (by simpa [same] using present)

/-- The ballot of a step has a positive weight and an outcome. -/
theorem Sound.ballot_of_step {last : Ballot} (sound : Sound storage cast)
    (stepped : Step storage label after)
    (found : Arbitration.ballot ⟨storage, label, after⟩ = some last) :
    0 < last.weight ∧ last.outcome ≠ 0 := by
  rcases step_ballot stepped with ⟨silent, -⟩ | ⟨same, again, done⟩
  · cases silent.symm.trans found
  · obtain rfl : same = last := Option.some.inj (again.symm.trans found)
    obtain ⟨-, -, weighed⟩ := ballot_eq_some.mp found
    obtain ⟨-, nonzero, -⟩ := vote_eq_ok.mp done
    exact ⟨sound.arbitrator _ _ weighed, nonzero⟩

theorem sound_of_run (run : Run Step .deployed trace storage) :
    Sound storage (ballots trace) := by
  refine run.history (motive := fun trace storage => Sound storage (ballots trace))
    sound_deployed ?_
  intro trace event reached sound stepped
  obtain ⟨fresh, standing⟩ := sound.disputes (counted_of_run reached) stepped
  rw [ballots_snoc]
  constructor
  · exact fresh
  · exact fun disputeId dispute found => (standing disputeId dispute found).mono
  · intro address weight found
    rcases arbitrator_of_step stepped found with before | positive
    · exact sound.arbitrator address weight before
    · exact positive
  · intro ballot member
    rcases List.mem_append.mp member with before | last
    · exact sound.ballot ballot before
    · exact sound.ballot_of_step stepped (Option.mem_toList.mp last)

end Standing

section Quorums

variable {storage : Storage} {cast : List Ballot}

/-- The quorum configured in the entries is met by the ballots on the dispute. -/
def QuorumMet (storage : Storage) (disputeId : Nat) (cast : List Ballot) : Prop :=
  (getQuorum storage).1 ≤ ((ballotsOn disputeId cast).map Ballot.weight).sum ∧
    (getQuorum storage).2 ≤ (ballotsOn disputeId cast).length

/-- The tallies sum up to the weights of the ballots. -/
theorem Counted.total {disputeId : Nat} (counted : Counted storage cast) :
    Tally.total (storage.disputeVotes disputeId) =
      ((ballotsOn disputeId cast).map Ballot.weight).sum := by
  rw [(counted.votes disputeId).total, List.map_map]
  rfl

/-- A passed check means that the quorum is met, also where none was configured. -/
theorem QuorumChecked.met {disputeId : Nat} (checked : QuorumChecked storage disputeId)
    (sound : Sound storage cast) (counted : Counted storage cast) :
    QuorumMet storage disputeId cast := by
  unfold QuorumMet getQuorum
  rw [← counted.counter disputeId]
  by_cases configured : 0 < storage.minTotalWeight ∨ 0 < storage.minVoters
  · obtain ⟨total, summed, enough, voters⟩ := checked configured
    rw [totalWeight_eq summed, counted.total] at enough
    exact ⟨enough, voters⟩
  · rw [not_or, not_lt, not_lt] at configured
    refine ⟨configured.1.trans (List.sum_nonneg fun weight member => ?_), by omega⟩
    obtain ⟨ballot, on, rfl⟩ := List.mem_map.mp member
    exact (sound.ballot ballot (List.mem_filter.mp on).1).1.le

end Quorums

section Lives

variable {storage : Storage} {trace : List (Event Storage Label)}

/-- The disputes along a history. -/
structure Lifecycle (storage : Storage) (trace : List (Event Storage Label)) : Prop where
  created : ∀ event ∈ trace, ∀ disputeId dispute,
    event.before.dispute disputeId = none → event.after.dispute disputeId = some dispute →
      dispute.status = .voting
  /-- A dispute stays as it is, or leaves its voting period. -/
  moves : ∀ event ∈ trace, ∀ disputeId dispute,
    event.before.dispute disputeId = some dispute →
      ∃ later, event.after.dispute disputeId = some later ∧
        (later = dispute ∨ dispute.status = .voting ∧
          (later.status = .resolved ∨ later.status = .tied ∨ later.status = .cancelled))
  resting : ∀ disputeId dispute, storage.dispute disputeId = some dispute →
    dispute.status ≠ .opened ∧ dispute.status ≠ .resolving
  /-- What is no longer in its voting period is final. -/
  terminal : ∀ disputeId dispute, dispute.status ≠ .voting →
    Lasting (fun storage => storage.dispute disputeId = some dispute) trace
  outcome : ∀ disputeId dispute, storage.dispute disputeId = some dispute →
    (dispute.outcome ≠ 0 ↔ dispute.status = .resolved) ∧
      (dispute.status = .resolved → ∃ voter, VotedFor trace disputeId dispute.outcome voter)
  /-- The votes of a dispute decide it after its period, with the quorum of that moment. -/
  resolved : ∀ earlier event later, trace = earlier ++ event :: later →
    ∀ disputeId dispute settled, event.before.dispute disputeId = some dispute →
      event.after.dispute disputeId = some settled → dispute.status = .voting →
        settled.status = .resolved ∨ settled.status = .tied →
          dispute.votingEnd < event.label.env.timestamp ∧
            QuorumMet event.before disputeId (ballots earlier)
  cancelled : ∀ event ∈ trace, ∀ disputeId dispute settled,
    event.before.dispute disputeId = some dispute →
      event.after.dispute disputeId = some settled → dispute.status = .voting →
        settled.status = .cancelled →
          ∃ caller reason, event.label.call = .cancelDispute caller disputeId reason ∧
            event.label.env.authorized caller = true ∧
              (caller = dispute.creator ∨ event.before.admin = some caller)
  /-- An error changes nothing. -/
  failed : ∀ event ∈ trace, ∀ error, event.label.answer = .error error →
    event.after = event.before

/-- A step keeps a dispute or takes it out of its voting period. -/
theorem settles_of_step {cast : List Ballot} {event : Event Storage Label} {disputeId : Nat}
    {dispute : Dispute} (sound : Sound event.before cast)
    (stepped : Step event.before event.label event.after)
    (found : event.before.dispute disputeId = some dispute) :
    ∃ later, event.after.dispute disputeId = some later ∧
      (later = dispute ∨ dispute.status = .voting ∧
        Settles event.before event.label disputeId dispute later) := by
  cases change_of_step stepped with
  | kept same counter => exact ⟨dispute, by rw [same, found], .inl rfl⟩
  | created new status outcome stored counter =>
      have different : disputeId ≠ event.before.disputeCounter := by
        rintro rfl
        simp [sound.fresh _ le_rfl] at found
      exact ⟨dispute, by simpa [stored, different] using found, .inl rfl⟩
  | settled id before settled present status settles stored counter =>
      by_cases same : disputeId = id
      · subst same
        obtain rfl : before = dispute := Option.some.inj (present.symm.trans found)
        have voting := ((sound.standing _ _ found).voting status).1
        exact ⟨settled, by simp [stored], .inr ⟨voting, settles⟩⟩
      · exact ⟨dispute, by simpa [stored, same] using found, .inl rfl⟩

theorem Settles.status {label : Label} {disputeId : Nat} {dispute settled : Dispute}
    (settles : Settles storage label disputeId dispute settled) :
    settled.status = .resolved ∨ settled.status = .tied ∨ settled.status = .cancelled := by
  cases settles with
  | cancelled caller reason called signed entitled status outcome => exact .inr (.inr status)
  | resolved called ended quorum given =>
      rcases verdict_cases (storage.disputeVotes disputeId) with tied | ⟨outcome, -, won⟩
      · exact .inr (.inl (Prod.mk.inj (given.trans tied)).1)
      · exact .inl (Prod.mk.inj (given.trans won)).1

/-- A dispute that a step decides or cancels was settled by that step. -/
theorem settles_of_left {cast : List Ballot} {event : Event Storage Label} {disputeId : Nat}
    {dispute settled : Dispute} (sound : Sound event.before cast)
    (stepped : Step event.before event.label event.after)
    (found : event.before.dispute disputeId = some dispute)
    (present : event.after.dispute disputeId = some settled)
    (voting : dispute.status = .voting) (left : settled.status ≠ .voting) :
    Settles event.before event.label disputeId dispute settled := by
  obtain ⟨later, stored, same | ⟨-, settles⟩⟩ := settles_of_step sound stepped found
  · obtain rfl : settled = dispute := Option.some.inj ((present.symm.trans stored).trans
      (congrArg some same))
    exact absurd voting left
  · obtain rfl : later = settled := Option.some.inj (stored.symm.trans present)
    exact settles

/-- A step that takes a dispute to its end by the votes does so after its period and
with the quorum of that moment. -/
theorem Settles.decided {cast : List Ballot} {label : Label} {disputeId : Nat}
    {dispute settled : Dispute} (settles : Settles storage label disputeId dispute settled)
    (sound : Sound storage cast) (counted : Counted storage cast)
    (status : settled.status ≠ .cancelled) :
    dispute.votingEnd < label.env.timestamp ∧ QuorumMet storage disputeId cast := by
  cases settles with
  | cancelled caller reason called signed entitled cancelled outcome =>
      exact absurd cancelled status
  | resolved called ended quorum given => exact ⟨ended, quorum.met sound counted⟩

theorem Settles.entitled {label : Label} {disputeId : Nat} {dispute settled : Dispute}
    (settles : Settles storage label disputeId dispute settled)
    (status : settled.status = .cancelled) :
    ∃ caller reason, label.call = .cancelDispute caller disputeId reason ∧
      label.env.authorized caller = true ∧
        (caller = dispute.creator ∨ storage.admin = some caller) := by
  cases settles with
  | cancelled caller reason called signed entitled cancelled outcome =>
      exact ⟨caller, reason, called, signed, entitled⟩
  | resolved called ended quorum given =>
      rcases verdict_cases (storage.disputeVotes disputeId) with tied | ⟨outcome, -, won⟩
      · cases status.symm.trans (Prod.mk.inj (given.trans tied)).1
      · cases status.symm.trans (Prod.mk.inj (given.trans won)).1

/-- The standing of a dispute in terms of its status. -/
theorem Dispute.Standing.outcome_iff {dispute : Dispute} {disputeId : Nat}
    {cast : List Ballot} (standing : dispute.Standing disputeId cast) :
    (dispute.status ≠ .opened ∧ dispute.status ≠ .resolving) ∧
      (dispute.outcome ≠ 0 ↔ dispute.status = .resolved) := by
  unfold Dispute.Standing at standing
  grind

/-- Every dispute of every run lives the life of a dispute. -/
theorem dispute_lifecycle (run : Run Step .deployed trace storage) :
    Lifecycle storage trace where
  created := by
    intro event member disputeId dispute absent present
    cases change_of_step (run.stepped_of_mem member) with
    | kept same counter => simp [same, absent] at present
    | created new status outcome stored counter =>
        by_cases same : disputeId = event.before.disputeCounter
        · obtain rfl : new = dispute := by simpa [stored, same] using present
          exact status
        · simp [stored, same, absent] at present
    | settled id before settled found status settles stored counter =>
        by_cases same : disputeId = id
        · cases absent.symm.trans (same ▸ found)
        · simp [stored, same, absent] at present
  moves := by
    intro event member disputeId dispute found
    obtain ⟨earlier, reached, stepped⟩ := run.reached_of_mem member
    obtain ⟨later, stored, same | ⟨voting, settles⟩⟩ :=
      settles_of_step (sound_of_run reached) stepped found
    · exact ⟨later, stored, .inl same⟩
    · exact ⟨later, stored, .inr ⟨voting, settles.status⟩⟩
  resting := fun disputeId dispute found =>
    ((sound_of_run run).standing disputeId dispute found).outcome_iff.1
  terminal := by
    intro disputeId dispute left
    refine (run.lasting_iff _).mpr fun event member found => ?_
    obtain ⟨earlier, reached, stepped⟩ := run.reached_of_mem member
    obtain ⟨later, stored, rfl | ⟨voting, -⟩⟩ :=
      settles_of_step (sound_of_run reached) stepped found
    · exact stored
    · exact absurd voting left
  outcome := by
    intro disputeId dispute found
    have standing := (sound_of_run run).standing disputeId dispute found
    refine ⟨standing.outcome_iff.2, fun resolved => ?_⟩
    rcases standing with ⟨pending, -⟩ | ⟨-, -, ⟨_, voter, _, weight⟩, cast, rfl, rfl⟩
    · simp [resolved] at pending
    · exact ⟨voter, (votedFor_iff run).mpr ⟨weight, cast⟩⟩
  resolved := by
    intro earlier event later position disputeId dispute settled found present voting ended
    obtain ⟨reached, stepped, -⟩ := run.split position
    have sound := sound_of_run reached
    have left : settled.status ≠ .voting ∧ settled.status ≠ .cancelled := by grind
    have settles := settles_of_left sound stepped found present voting left.1
    exact settles.decided sound (counted_of_run reached) left.2
  cancelled := by
    intro event member disputeId dispute settled found present voting status
    obtain ⟨earlier, reached, stepped⟩ := run.reached_of_mem member
    have left : settled.status ≠ .voting := by simp [status]
    exact (settles_of_left (sound_of_run reached) stepped found present voting left).entitled
      status
  failed := by
    intro event member error answered
    have stepped := run.stepped_of_mem member
    unfold Step at stepped
    rw [answered] at stepped
    exact invoke_atomic stepped

end Lives

section Sample

/-- One dispute is resolved after a call that came too early, one is tied and one is
cancelled. -/
theorem dispute_lifecycle_sample :
    ∃ trace storage, Run Step .deployed trace storage ∧ Lifecycle storage trace ∧
      (storage.dispute 0).map Dispute.status = some .resolved ∧
        (storage.dispute 1).map Dispute.status = some .tied ∧
          (storage.dispute 2).map Dispute.status = some .cancelled := by
  obtain ⟨storage, followed, first, second, third⟩ : ∃ storage,
      replay next .deployed
          [ votingLabel 1 (.initializeArbitration ⟨1⟩) .unit,
            votingLabel 2 (.registerArbitrator ⟨2⟩ 5) .unit,
            votingLabel 3 (.createDispute ⟨4⟩ [] 100) (.number 0),
            votingLabel 3 (.createDispute ⟨4⟩ [] 100) (.number 1),
            votingLabel 3 (.createDispute ⟨4⟩ [] 100) (.number 2),
            votingLabel 4 (.vote ⟨2⟩ 0 1) .unit,
            { env := .signedByAll ⟨0⟩ 103
              call := .resolveDispute 0
              answer := .error .votingNotEnded },
            votingLabel 104 (.resolveDispute 0) (.number 1),
            votingLabel 105 (.resolveDispute 1) (.number 0),
            votingLabel 106 (.cancelDispute ⟨1⟩ 2 none) .unit ] = some storage ∧
        (storage.dispute 0).map Dispute.status = some .resolved ∧
          (storage.dispute 1).map Dispute.status = some .tied ∧
            (storage.dispute 2).map Dispute.status = some .cancelled := by
    refine ⟨_, rfl, ?_⟩
    exact ⟨rfl, rfl, rfl⟩
  obtain ⟨trace, run, _⟩ := run_of_replay step_of_next followed
  exact ⟨trace, storage, run, dispute_lifecycle run, first, second, third⟩

end Sample

end Arbitration
