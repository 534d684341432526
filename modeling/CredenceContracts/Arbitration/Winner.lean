import CredenceContracts.Arbitration.Lifecycle
import CredenceContracts.Library.Heaviest

/-!
# The heaviest outcome wins

A resolution passes over the tallies twice, for their sum where a quorum was configured
and for the heaviest outcome.  The weights are positive, so neither pass depends on the
order in which the map is iterated: the dispute goes to the outcome that outweighs all
others, and is tied when there is none.
-/

namespace Arbitration

open Soroban Transition MachineInt
open Body (rejectIf okOr orPanic)

section Orders

/-- The sum of tallies in the order they are iterated. -/
def sumOf (tallies : List (Nat × Int)) : Outcome Int :=
  tallies.foldlM (fun total entry => checkedI128 (total + entry.2) (.contract .overflow)) 0

/-- The status and the outcome that tallies give a dispute in the order they are
iterated. -/
def decision (tallies : List (Nat × Int)) : DisputeStatus × Nat :=
  let found := leader tallies
  if found.isTie = true ∨ found.maxWeight < 0 then
    (.tied, 0)
  else
    (.resolved, found.winningOutcome)

variable (iterate : Votes → List (Nat × Int)) (env : Env)

/-- The check of the quorum over a map that is iterated in some order. -/
def requireQuorumIn (storage : Storage) (disputeId : Nat) : Entry Unit :=
  if storage.minTotalWeight > 0 ∨ storage.minVoters > 0 then do
    let total ← orPanic (sumOf (iterate (storage.disputeVotes disputeId)))
    rejectIf (total < storage.minTotalWeight ∨
      storage.voterCounter disputeId < storage.minVoters) .quorumNotMet
  else
    pure ()

/-- The end of a resolution: the dispute is tied or goes to the leader of the tallies. -/
def conclude (tallies : List (Nat × Int)) (disputeId : Nat) (dispute : Dispute) :
    Entry Nat := do
  let found := leader tallies
  if found.isTie = true ∨ found.maxWeight < 0 then do
    requireTransition .resolving .tied
    modify fun stored => { stored with
      dispute := Function.update stored.dispute disputeId
        (some { dispute with status := .tied, outcome := 0 }) }
    return 0
  else do
    requireTransition .resolving .resolved
    modify fun stored => { stored with
      dispute := Function.update stored.dispute disputeId
        (some { dispute with status := .resolved, outcome := found.winningOutcome }) }
    return found.winningOutcome

/-- The resolution of a dispute over a map that is iterated in some order. -/
def resolveDisputeIn (disputeId : Nat) : Entry Nat := do
  let storage ← get
  orPanic (Pausable.requireNotPaused storage.pause)
  let dispute ← okOr (storage.dispute disputeId) .disputeNotFound
  requireTransition dispute.status .resolving
  rejectIf (env.timestamp ≤ dispute.votingEnd) .votingNotEnded
  requireQuorumIn iterate storage disputeId
  conclude (iterate (storage.disputeVotes disputeId)) disputeId dispute

/-- The contract iterates in the order of outcomes. -/
theorem resolveDispute_eq_in {disputeId : Nat} :
    resolveDispute env disputeId = resolveDisputeIn Std.TreeMap.toList env disputeId :=
  rfl

end Orders

section Passes

variable {seen rest entries : List (Nat × Int)} {kept : Leader} {entry : Nat × Int}

/-- The leader of the tallies that were passed. -/
def Leader.Of (leader : Leader) (seen : List (Nat × Int)) : Prop :=
  Heaviest.Leads seen leader.winningOutcome leader.maxWeight (leader.isTie = true)

theorem Leader.Of.pass (leads : kept.Of seen) (new : entry.1 ∉ seen.map Prod.fst) :
    (kept.pass entry).Of (seen ++ [entry]) := by
  obtain ⟨outcome, weight⟩ := entry
  have other : outcome ≠ kept.winningOutcome := by
    rintro rfl
    exact new (List.mem_map.mpr ⟨_, leads.mem, rfl⟩)
  unfold Leader.pass
  split
  · rename_i heavier
    simpa [Leader.Of] using Heaviest.Leads.overtaken leads heavier
  · rename_i light
    split
    · rename_i same
      obtain rfl : weight = kept.maxWeight := same
      simpa [Leader.Of] using Heaviest.Leads.equalled leads other
    · rename_i different
      exact Heaviest.Leads.trailed leads (lt_of_le_of_ne (not_lt.mp light) different)

theorem Leader.Of.foldl (leads : kept.Of seen) (distinct : ((seen ++ rest).map Prod.fst).Nodup) :
    (rest.foldl Leader.pass kept).Of (seen ++ rest) := by
  induction rest generalizing seen kept with
  | nil => simpa using leads
  | cons entry rest ih =>
      have new : entry.1 ∉ seen.map Prod.fst := by
        intro before
        rw [List.map_append, List.map_cons] at distinct
        exact (List.nodup_append.mp distinct).2.2 _ before _ (List.mem_cons_self ..) rfl
      rw [List.append_cons] at distinct ⊢
      exact ih (leads.pass new) distinct

/-- The first tally takes the lead, and the pass goes on from there. -/
theorem leader_of (distinct : (entries.map Prod.fst).Nodup)
    (weighed : ∀ entry ∈ entries, 0 < entry.2) (some : entries ≠ []) :
    (leader entries).Of entries := by
  cases entries with
  | nil => exact absurd rfl some
  | cons first rest =>
      have positive : -1 < first.2 :=
        (neg_one_lt_zero).trans (weighed first (List.mem_cons_self ..))
      have leads : Leader.Of { winningOutcome := first.1, maxWeight := first.2, isTie := false }
          [first] := by
        simpa [Leader.Of] using Heaviest.Leads.single
      have passed := leads.foldl distinct
      unfold leader
      rw [List.foldl_cons, Leader.pass, if_pos positive]
      exact passed

theorem decision_eq_resolved_iff {outcome : Nat} (distinct : (entries.map Prod.fst).Nodup)
    (weighed : ∀ entry ∈ entries, 0 < entry.2) :
    decision entries = (.resolved, outcome) ↔ Heaviest.Outweighs entries outcome := by
  by_cases empty : entries = []
  · subst empty
    simp [decision, leader, Heaviest.Outweighs]
  · have leads := leader_of distinct weighed empty
    have heavy : ¬(leader entries).maxWeight < 0 := (weighed _ leads.mem).le.not_gt
    rw [Heaviest.Leads.outweighs_iff leads]
    by_cases tied : (leader entries).isTie = true <;> simp [decision, tied, heavy]

theorem decision_eq_tied_iff (distinct : (entries.map Prod.fst).Nodup)
    (weighed : ∀ entry ∈ entries, 0 < entry.2) :
    decision entries = (.tied, 0) ↔ entries = [] ∨ Heaviest.Shared entries := by
  by_cases empty : entries = []
  · simp [empty, decision, leader]
  · have leads := leader_of distinct weighed empty
    have heavy : ¬(leader entries).maxWeight < 0 := (weighed _ leads.mem).le.not_gt
    rw [Heaviest.Leads.shared_iff leads]
    by_cases tied : (leader entries).isTie = true <;> simp [decision, tied, heavy, empty]

/-- Positive tallies can be added up in any order, or in none. -/
theorem sumOf_eq (weighed : ∀ entry ∈ entries, 0 < entry.2) :
    sumOf entries =
      if (entries.map Prod.snd).sum < 2 ^ 127 then
        .ok (entries.map Prod.snd).sum
      else
        .error (.contract .overflow) := by
  suffices onward : ∀ start : Int, 0 ≤ start → start < 2 ^ 127 →
      entries.foldlM (fun total entry =>
          checkedI128 (total + entry.2) (Failure.contract .overflow)) start =
        if start + (entries.map Prod.snd).sum < 2 ^ 127 then
          .ok (start + (entries.map Prod.snd).sum)
        else
          .error (.contract .overflow) by
    simpa [sumOf] using onward 0 le_rfl (by norm_num)
  induction entries with
  | nil =>
      intro start nonneg fits
      rw [List.map_nil, List.sum_nil, add_zero, if_pos fits]
      rfl
  | cons first rest ih =>
      intro start nonneg fits
      rw [List.forall_mem_cons] at weighed
      obtain ⟨positive, others⟩ := weighed
      rw [List.foldlM_cons, List.map_cons, List.sum_cons, ← add_assoc]
      by_cases next : start + first.2 < 2 ^ 127
      · have fitting : FitsI128 (start + first.2) := by
          unfold FitsI128
          omega
        rw [checkedI128, if_pos fitting]
        exact ih others _ (by omega) next
      · have unfitting : ¬FitsI128 (start + first.2) := fun fits => next fits.2
        have later : 0 ≤ (rest.map Prod.snd).sum := by
          refine List.sum_nonneg fun weight member => ?_
          obtain ⟨entry, inside, rfl⟩ := List.mem_map.mp member
          exact (others entry inside).le
        rw [checkedI128, if_neg unfitting, if_neg (by omega)]
        rfl

end Passes

section Votes

variable {storage : Storage} {cast : List Ballot} {disputeId : Nat}
variable {order : List (Nat × Int)}

/-- The tally of the outcome is greater than that of every other. -/
def Wins (storage : Storage) (disputeId outcome : Nat) : Prop :=
  ∀ other, other ≠ outcome → getTally storage disputeId other < getTally storage disputeId outcome

/-- No votes were cast, or two outcomes share the greatest tally. -/
def Ties (storage : Storage) (disputeId : Nat) (cast : List Ballot) : Prop :=
  ballotsOn disputeId cast = [] ∨
    ∃ first second, first ≠ second ∧
      getTally storage disputeId first = getTally storage disputeId second ∧
        ∀ other, getTally storage disputeId other ≤ getTally storage disputeId first

/-- Where a quorum was configured, the weights of the ballots on the dispute can be added
up. -/
def Summable (storage : Storage) (disputeId : Nat) (cast : List Ballot) : Prop :=
  0 < storage.minTotalWeight ∨ 0 < storage.minVoters →
    ((ballotsOn disputeId cast).map Ballot.weight).sum < 2 ^ 127

theorem Counted.mem_iff_pos (counted : Counted storage cast) (sound : Sound storage cast)
    {outcome : Nat} :
    outcome ∈ storage.disputeVotes disputeId ↔ 0 < getTally storage disputeId outcome := by
  refine (counted.votes disputeId).mem_iff_pos fun entry member => ?_
  obtain ⟨ballot, on, rfl⟩ := List.mem_map.mp member
  exact (sound.ballot ballot (List.mem_filter.mp on).1).1

/-- The iterated tallies are positive. -/
theorem Counted.weighed (counted : Counted storage cast) (sound : Sound storage cast)
    (iterated : order.Perm (storage.disputeVotes disputeId).toList) :
    ∀ entry ∈ order, 0 < entry.2 := by
  intro entry member
  have listed := iterated.mem_iff.mp member
  have present : entry.1 ∈ storage.disputeVotes disputeId := Tally.mem_of_mem_toList listed
  rw [← Tally.getD_of_mem_toList listed]
  exact (counted.mem_iff_pos sound).mp present

theorem Counted.tally_nonneg (counted : Counted storage cast) (sound : Sound storage cast)
    (outcome : Nat) : 0 ≤ getTally storage disputeId outcome := by
  by_cases present : outcome ∈ storage.disputeVotes disputeId
  · exact ((counted.mem_iff_pos sound).mp present).le
  · exact (Std.TreeMap.getD_eq_fallback present).ge

theorem Counted.outweighs_iff (counted : Counted storage cast) (sound : Sound storage cast)
    {outcome : Nat} :
    Heaviest.Outweighs (storage.disputeVotes disputeId).toList outcome ↔
      Wins storage disputeId outcome := by
  constructor
  · rintro ⟨weight, member, lighter⟩ other different
    have own : getTally storage disputeId outcome = weight := Tally.getD_of_mem_toList member
    have positive : 0 < weight := counted.weighed sound (.refl _) _ member
    rw [own]
    by_cases present : other ∈ storage.disputeVotes disputeId
    · exact lighter _ (Tally.mem_toList_of_mem present) different
    · rw [counted.mem_iff_pos sound, not_lt] at present
      exact present.trans_lt positive
  · intro wins
    have positive : 0 < getTally storage disputeId outcome :=
      (counted.tally_nonneg sound _).trans_lt (wins (outcome + 1) (Nat.succ_ne_self outcome))
    have present := (counted.mem_iff_pos sound).mpr positive
    refine ⟨_, Tally.mem_toList_of_mem present, fun entry member different => ?_⟩
    rw [← Tally.getD_of_mem_toList member]
    exact wins entry.1 different

/-- No outcome is listed where no ballot was cast. -/
theorem Counted.toList_eq_nil_iff (counted : Counted storage cast) :
    (storage.disputeVotes disputeId).toList = [] ↔ ballotsOn disputeId cast = [] := by
  rw [List.eq_nil_iff_forall_not_mem, List.eq_nil_iff_forall_not_mem]
  constructor
  · intro unlisted ballot on
    have present : ballot.outcome ∈ storage.disputeVotes disputeId :=
      ((counted.votes disputeId).keys _).mpr ⟨ballot.entry, List.mem_map_of_mem on, rfl⟩
    exact unlisted _ (Tally.mem_toList_of_mem present)
  · intro uncast entry member
    have present : entry.1 ∈ storage.disputeVotes disputeId := Tally.mem_of_mem_toList member
    obtain ⟨ballot, inside, on, -⟩ := counted.ballot_of_mem present
    exact uncast ballot (List.mem_filter.mpr ⟨inside, decide_eq_true on⟩)

theorem Counted.shared_iff (counted : Counted storage cast) (sound : Sound storage cast) :
    ((storage.disputeVotes disputeId).toList = [] ∨
        Heaviest.Shared (storage.disputeVotes disputeId).toList) ↔
      Ties storage disputeId cast := by
  unfold Ties
  rw [← counted.toList_eq_nil_iff]
  constructor
  · rintro (empty | ⟨first, member, second, inside, different, same, bound⟩)
    · exact .inl empty
    · refine .inr ⟨first.1, second.1, different, ?_⟩
      have greatest : getTally storage disputeId first.1 = first.2 :=
        Tally.getD_of_mem_toList member
      have equal : getTally storage disputeId second.1 = second.2 :=
        Tally.getD_of_mem_toList inside
      refine ⟨by rw [greatest, equal, same], fun other => ?_⟩
      rw [greatest]
      by_cases present : other ∈ storage.disputeVotes disputeId
      · exact bound _ (Tally.mem_toList_of_mem present)
      · rw [counted.mem_iff_pos sound, not_lt] at present
        exact present.trans (counted.weighed sound (.refl _) _ member).le
  · rintro (empty | ⟨first, second, different, same, greatest⟩)
    · exact .inl empty
    · by_cases present : first ∈ storage.disputeVotes disputeId
      · have positive := (counted.mem_iff_pos sound).mp present
        have again := (counted.mem_iff_pos sound).mpr (same ▸ positive)
        refine .inr ⟨_, Tally.mem_toList_of_mem present, _, Tally.mem_toList_of_mem again,
          different, same, fun entry member => ?_⟩
        rw [← Tally.getD_of_mem_toList member]
        exact greatest entry.1
      · -- the greatest tally is not positive, so nothing was voted for
        rw [counted.mem_iff_pos sound] at present
        refine .inl (List.eq_nil_iff_forall_not_mem.mpr fun entry member => present ?_)
        have positive :=
          (counted.mem_iff_pos sound).mp (Tally.mem_of_mem_toList member)
        exact positive.trans_le (greatest entry.1)

end Votes

section Resolutions

variable {storage middle : Storage} {cast : List Ballot} {disputeId : Nat} {dispute : Dispute}
variable {tallies : List (Nat × Int)} {iterate : Votes → List (Nat × Int)} {env : Env}

/-- The entries after a dispute was given a status and an outcome. -/
def Storage.settled (storage : Storage) (disputeId : Nat) (dispute : Dispute)
    (given : DisputeStatus × Nat) : Storage :=
  { storage with
    dispute := Function.update storage.dispute disputeId
      (some { dispute with status := given.1, outcome := given.2 }) }

theorem Storage.settled_inj {given other : DisputeStatus × Nat}
    (same : storage.settled disputeId dispute given = storage.settled disputeId dispute other) :
    given = other := by
  have stored := congrFun (congrArg Storage.dispute same) disputeId
  simp only [Storage.settled, Function.update_self, Option.some.injEq, Dispute.mk.injEq] at stored
  exact Prod.ext stored.2.2.2.2.2.1 stored.2.2.2.2.2.2.1

theorem exec_conclude :
    (conclude tallies disputeId dispute).exec storage =
      .ok (.ok (decision tallies).2, storage.settled disputeId dispute (decision tallies)) := by
  unfold conclude decision
  dsimp only
  split <;> rfl

/-- The dispute is still in its voting status after the end of its voting period. -/
structure Finished (env : Env) (storage : Storage) (disputeId : Nat)
    (dispute : Dispute) : Prop where
  found : storage.dispute disputeId = some dispute
  voting : dispute.status = .voting
  ended : dispute.votingEnd < env.timestamp

/-- A finished dispute is up to its quorum and its tallies. -/
theorem exec_resolveDisputeIn (unpaused : storage.pause.paused = false)
    (finished : Finished env storage disputeId dispute) :
    (resolveDisputeIn iterate env disputeId).exec storage =
      (requireQuorumIn iterate storage disputeId >>= fun _ =>
        conclude (iterate (storage.disputeVotes disputeId)) disputeId dispute).exec storage := by
  have admitted : (orPanic (Pausable.requireNotPaused storage.pause) : Entry Unit).exec storage =
      .ok (.ok (), storage) :=
    Body.orPanic_eq_ok.mpr ⟨Pausable.requireNotPaused_eq_ok.mpr unpaused, rfl⟩
  have permitted : (requireTransition dispute.status .resolving).exec storage =
      .ok (.ok (), storage) :=
    requireTransition_eq_ok.mpr ⟨by rw [finished.voting]; rfl, rfl⟩
  have ended : (rejectIf (env.timestamp ≤ dispute.votingEnd) .votingNotEnded :
      Entry Unit).exec storage = .ok (.ok (), storage) :=
    Body.rejectIf_eq_ok.mpr ⟨not_le.mpr finished.ended, rfl⟩
  unfold resolveDisputeIn
  rw [Body.exec_bind_of_ok Body.exec_get, Body.exec_bind_of_ok admitted,
    Body.exec_bind_of_ok (Body.okOr_eq_ok.mpr ⟨finished.found, rfl⟩),
    Body.exec_bind_of_ok permitted, Body.exec_bind_of_ok ended]

/-- The sum of a resolution is that of the ballots. -/
theorem Counted.sumOf_eq (counted : Counted storage cast) (sound : Sound storage cast)
    (iterated : (iterate (storage.disputeVotes disputeId)).Perm
      (storage.disputeVotes disputeId).toList) :
    sumOf (iterate (storage.disputeVotes disputeId)) =
      if ((ballotsOn disputeId cast).map Ballot.weight).sum < 2 ^ 127 then
        .ok ((ballotsOn disputeId cast).map Ballot.weight).sum
      else
        .error (.contract .overflow) := by
  rw [Arbitration.sumOf_eq (counted.weighed sound iterated), (iterated.map Prod.snd).sum_eq,
    ← counted.total]
  rfl

instance : Decidable (QuorumMet storage disputeId cast) := by
  unfold QuorumMet
  infer_instance

theorem Counted.quorumMet_iff (counted : Counted storage cast) :
    QuorumMet storage disputeId cast ↔
      ¬(((ballotsOn disputeId cast).map Ballot.weight).sum < storage.minTotalWeight ∨
        storage.voterCounter disputeId < storage.minVoters) := by
  rw [counted.counter, not_or, not_lt, not_lt]
  rfl

/-- The check of a quorum whose sum does not overflow tells whether the quorum is met. -/
theorem exec_requireQuorumIn (counted : Counted storage cast) (sound : Sound storage cast)
    (iterated : (iterate (storage.disputeVotes disputeId)).Perm
      (storage.disputeVotes disputeId).toList)
    (summable : Summable storage disputeId cast) :
    (requireQuorumIn iterate storage disputeId).exec middle =
      .ok (if QuorumMet storage disputeId cast then .ok () else .error .quorumNotMet,
        middle) := by
  unfold requireQuorumIn
  split
  · rename_i configured
    rw [counted.sumOf_eq sound iterated, if_pos (summable configured),
      Body.exec_bind_of_ok (Body.orPanic_eq_ok.mpr ⟨rfl, rfl⟩)]
    split
    · rename_i met
      exact Body.rejectIf_eq_ok.mpr ⟨counted.quorumMet_iff.mp met, rfl⟩
    · rename_i unmet
      exact Body.exec_rejectIf (not_not.mp (mt counted.quorumMet_iff.mpr unmet))
  · rename_i unset
    have met : QuorumMet storage disputeId cast :=
      QuorumChecked.met (fun configured => absurd configured unset) sound counted
    rw [if_pos met]
    rfl

theorem requireQuorumIn_overflow (counted : Counted storage cast) (sound : Sound storage cast)
    (iterated : (iterate (storage.disputeVotes disputeId)).Perm
      (storage.disputeVotes disputeId).toList)
    (beyond : ¬Summable storage disputeId cast) :
    (requireQuorumIn iterate storage disputeId).exec middle =
      .error (.contract .overflow) := by
  obtain ⟨configured, large⟩ := Classical.not_imp.mp beyond
  unfold requireQuorumIn
  rw [if_pos configured, counted.sumOf_eq sound iterated, if_neg large]
  rfl

end Resolutions

section Winners

variable {storage : Storage} {trace : List (Event Storage Label)} {disputeId : Nat}
variable {dispute : Dispute} {iterate : Votes → List (Nat × Int)} {env : Env}

/-- What a resolution returns and stores is what the tallies decide. -/
structure Decides (resolution : Except Failure (Except ArbitrationError Nat × Storage))
    (storage : Storage) (disputeId : Nat) (dispute : Dispute) (cast : List Ballot) : Prop where
  resolved : ∀ outcome,
    resolution = .ok (.ok outcome, storage.settled disputeId dispute (.resolved, outcome)) ↔
      Wins storage disputeId outcome
  tied : resolution = .ok (.ok 0, storage.settled disputeId dispute (.tied, 0)) ↔
    Ties storage disputeId cast
  complete : (∃ outcome, Wins storage disputeId outcome) ∨ Ties storage disputeId cast

theorem decision_cases {tallies : List (Nat × Int)} :
    (∃ outcome, decision tallies = (.resolved, outcome)) ∨ decision tallies = (.tied, 0) := by
  unfold decision
  dsimp only
  split
  · exact .inr rfl
  · exact .inl ⟨_, rfl⟩

/-- A finished dispute with its quorum goes to the heaviest outcome or is tied, in
whatever order the tallies are iterated. -/
theorem heaviest_outcome_wins (run : Run Step .deployed trace storage)
    (iterated : (iterate (storage.disputeVotes disputeId)).Perm
      (storage.disputeVotes disputeId).toList)
    (unpaused : storage.pause.paused = false)
    (finished : Finished env storage disputeId dispute)
    (met : QuorumMet storage disputeId (ballots trace))
    (summable : Summable storage disputeId (ballots trace)) :
    Decides ((resolveDisputeIn iterate env disputeId).exec storage) storage disputeId dispute
      (ballots trace) := by
  have counted := counted_of_run run
  have sound := sound_of_run run
  let given := decision (iterate (storage.disputeVotes disputeId))
  have checked : (requireQuorumIn iterate storage disputeId).exec storage =
      .ok (.ok (), storage) := by
    rw [exec_requireQuorumIn counted sound iterated summable, if_pos met]
  have concluded : (resolveDisputeIn iterate env disputeId).exec storage =
      .ok (.ok given.2, storage.settled disputeId dispute given) := by
    rw [exec_resolveDisputeIn unpaused finished, Body.exec_bind_of_ok checked, exec_conclude]
  have exactly (status : DisputeStatus) (outcome : Nat) :
      (resolveDisputeIn iterate env disputeId).exec storage =
          .ok (.ok outcome, storage.settled disputeId dispute (status, outcome)) ↔
        given = (status, outcome) := by
    rw [concluded]
    constructor
    · intro same
      exact Storage.settled_inj (Prod.mk.inj (Except.ok.inj same)).2
    · intro same
      rw [same]
  have distinct : ((iterate (storage.disputeVotes disputeId)).map Prod.fst).Nodup :=
    (iterated.map Prod.fst).nodup_iff.mpr Tally.nodup_keys_toList
  have weighed := counted.weighed sound iterated
  have wins (outcome : Nat) : given = (.resolved, outcome) ↔ Wins storage disputeId outcome := by
    rw [decision_eq_resolved_iff distinct weighed, Heaviest.outweighs_perm iterated,
      counted.outweighs_iff sound]
  have ties : given = (.tied, 0) ↔ Ties storage disputeId (ballots trace) := by
    rw [decision_eq_tied_iff distinct weighed, Heaviest.shared_perm iterated,
      ← counted.shared_iff sound, ← List.perm_nil, ← List.perm_nil]
    exact or_congr ⟨iterated.symm.trans, iterated.trans⟩ Iff.rfl
  constructor
  · intro outcome
    rw [exactly, wins]
  · rw [exactly, ties]
  · rw [← ties]
    simp only [← wins]
    exact decision_cases

/-- Two outcomes share the lead until a third one takes it, and the map is iterated
backwards. -/
theorem heaviest_outcome_wins_sample :
    ∃ trace storage dispute, Run Step .deployed trace storage ∧
      getTally storage 0 1 = 5 ∧ getTally storage 0 2 = 5 ∧ getTally storage 0 3 = 7 ∧
        Decides ((resolveDisputeIn (fun votes => votes.toList.reverse) (.signedByAll ⟨0⟩ 104)
          0).exec storage) storage 0 dispute (ballots trace) := by
  obtain ⟨storage, dispute, followed, paused, found, voting, ended, quorum, total, counter,
      first, second, third⟩ : ∃ storage dispute,
      replay next .deployed
          [ votingLabel 1 (.initializeArbitration ⟨1⟩) .unit,
            votingLabel 1 (.setQuorum ⟨1⟩ 10 3) .unit,
            votingLabel 2 (.registerArbitrator ⟨2⟩ 5) .unit,
            votingLabel 2 (.registerArbitrator ⟨3⟩ 5) .unit,
            votingLabel 2 (.registerArbitrator ⟨4⟩ 7) .unit,
            votingLabel 3 (.createDispute ⟨5⟩ [] 100) (.number 0),
            votingLabel 4 (.vote ⟨2⟩ 0 1) .unit,
            votingLabel 5 (.vote ⟨3⟩ 0 2) .unit,
            votingLabel 6 (.vote ⟨4⟩ 0 3) .unit ] = some storage ∧
        storage.pause.paused = false ∧ storage.dispute 0 = some dispute ∧
          dispute.status = .voting ∧ dispute.votingEnd < 104 ∧ getQuorum storage = (10, 3) ∧
            Tally.total (storage.disputeVotes 0) = 17 ∧ storage.voterCounter 0 = 3 ∧
              getTally storage 0 1 = 5 ∧ getTally storage 0 2 = 5 ∧
                getTally storage 0 3 = 7 := by
    refine ⟨_, _, rfl, rfl, rfl, rfl, by decide, rfl, rfl, rfl, rfl, rfl, rfl⟩
  obtain ⟨trace, run, _⟩ := run_of_replay step_of_next followed
  have counted := counted_of_run run
  have met : QuorumMet storage 0 (ballots trace) := by
    rw [QuorumMet, ← counted.total, ← counted.counter, quorum, total, counter]
    decide
  have summable : Summable storage 0 (ballots trace) := by
    intro _
    rw [← counted.total, total]
    decide
  have finished : Finished (.signedByAll ⟨0⟩ 104) storage 0 dispute := ⟨found, voting, ended⟩
  exact ⟨trace, storage, dispute, run, first, second, third,
    heaviest_outcome_wins run (List.reverse_perm _) paused finished met summable⟩

end Winners

end Arbitration
