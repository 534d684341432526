import CredenceContracts.Arbitration.Spec
import CredenceContracts.Library.Tally
import Mathlib.Data.Set.Card

/-!
# The tallies are the ballots

Every vote that succeeds casts a ballot with the weight its voter has at that moment.
The tally map, the flags and the counter of a dispute are three views of its ballots:
the sum of their weights by outcome, their voters, and their number.  What happens to
the weight of an arbitrator later does not reach the ballots it has cast.
-/

namespace Arbitration

open Soroban Transition

/-- A vote that counts. -/
structure Ballot where
  disputeId : Nat
  voter : Address
  outcome : Nat
  weight : Int
  deriving DecidableEq

section Histories

/-- The ballot that a step casts: that of a vote that succeeds, with the weight that its
voter has before it. -/
def ballot (event : Event Storage Label) : Option Ballot :=
  match event.label.call, event.label.answer with
  | .vote voter disputeId outcome, .ok _ =>
      (event.before.arbitrator voter).map fun weight => { disputeId, voter, outcome, weight }
  | _, _ => none

def ballots (trace : List (Event Storage Label)) : List Ballot :=
  trace.filterMap ballot

/-- The ballots on one dispute. -/
def ballotsOn (disputeId : Nat) (cast : List Ballot) : List Ballot :=
  cast.filter fun ballot => ballot.disputeId = disputeId

@[simp] theorem ballot_eq_some {event : Event Storage Label} {cast : Ballot} :
    ballot event = some cast ↔
      event.label.call = .vote cast.voter cast.disputeId cast.outcome ∧
        (∃ value, event.label.answer = .ok value) ∧
          event.before.arbitrator cast.voter = some cast.weight := by
  unfold ballot
  split
  · rename_i voter disputeId outcome value called answered
    rw [called, answered, Option.map_eq_some_iff]
    constructor
    · rintro ⟨weight, found, rfl⟩
      exact ⟨rfl, ⟨value, rfl⟩, found⟩
    · rintro ⟨same, -, found⟩
      cases same
      exact ⟨cast.weight, found, rfl⟩
  · rename_i other
    refine iff_of_false (by simp) ?_
    rintro ⟨called, ⟨value, answered⟩, -⟩
    exact other _ _ _ _ called answered

theorem ballots_snoc {trace : List (Event Storage Label)} {event : Event Storage Label} :
    ballots (trace ++ [event]) = ballots trace ++ (ballot event).toList := by
  unfold ballots
  rw [List.filterMap_append]
  cases found : ballot event <;> simp [found]

theorem mem_ballots {trace : List (Event Storage Label)} {cast : Ballot} :
    cast ∈ ballots trace ↔ ∃ event ∈ trace, ballot event = some cast :=
  List.mem_filterMap

theorem ballotsOn_snoc {cast : List Ballot} {last : Ballot} {disputeId : Nat} :
    ballotsOn disputeId (cast ++ [last]) =
      if last.disputeId = disputeId then
        ballotsOn disputeId cast ++ [last]
      else
        ballotsOn disputeId cast := by
  unfold ballotsOn
  split <;> simp_all

end Histories

section Counting

variable {storage after : Storage} {cast : List Ballot}

/-- What a ballot adds to a tally. -/
def Ballot.entry (ballot : Ballot) : Nat × Int :=
  (ballot.outcome, ballot.weight)

/-- The stored votes are those of the ballots. -/
structure Counted (storage : Storage) (cast : List Ballot) : Prop where
  votes : ∀ disputeId, Tally.Of ((ballotsOn disputeId cast).map Ballot.entry)
    (storage.disputeVotes disputeId)
  casted : ∀ disputeId voter, storage.voterCasted disputeId voter = true ↔
    voter ∈ (ballotsOn disputeId cast).map Ballot.voter
  distinct : ∀ disputeId, ((ballotsOn disputeId cast).map Ballot.voter).Nodup
  counter : ∀ disputeId, storage.voterCounter disputeId = (ballotsOn disputeId cast).length

theorem counted_deployed : Counted .deployed [] where
  votes := fun _ => Tally.of_nil
  casted := by simp [Storage.deployed, ballotsOn]
  distinct := by simp [ballotsOn]
  counter := by simp [Storage.deployed, ballotsOn]

theorem Counted.of_same (counted : Counted storage cast)
    (votes : after.disputeVotes = storage.disputeVotes)
    (casted : after.voterCasted = storage.voterCasted)
    (counter : after.voterCounter = storage.voterCounter) : Counted after cast where
  votes := votes ▸ counted.votes
  casted := casted ▸ counted.casted
  distinct := counted.distinct
  counter := counter ▸ counted.counter

/-- A vote of an address that has not voted on the dispute adds its ballot. -/
theorem Counted.voted {last : Ballot} (counted : Counted storage cast)
    (new : storage.voterCasted last.disputeId last.voter = false) :
    Counted (storage.voted last.voter last.disputeId last.outcome last.weight)
      (cast ++ [last]) where
  votes := by
    intro disputeId
    rw [ballotsOn_snoc]
    by_cases same : last.disputeId = disputeId
    · subst same
      have added : Tally.Of ((ballotsOn last.disputeId cast).map Ballot.entry ++ [last.entry])
          ((storage.disputeVotes last.disputeId).insert last.outcome
            (getTally storage last.disputeId last.outcome + last.weight)) :=
        (counted.votes last.disputeId).snoc
      simpa [Storage.voted] using added
    · simpa [Storage.voted, same, Ne.symm same] using counted.votes disputeId
  casted := by
    intro disputeId voter
    rw [ballotsOn_snoc]
    by_cases same : last.disputeId = disputeId
    · subst same
      by_cases self : voter = last.voter
      · simp [Storage.voted, self]
      · simpa [Storage.voted, self] using counted.casted last.disputeId voter
    · simpa [Storage.voted, same, Ne.symm same] using counted.casted disputeId voter
  distinct := by
    intro disputeId
    rw [ballotsOn_snoc]
    split
    · rename_i same
      subst same
      have fresh : last.voter ∉ (ballotsOn last.disputeId cast).map Ballot.voter := by
        rw [← counted.casted, new]
        simp
      rw [List.map_append, List.map_singleton, ← List.concat_eq_append]
      exact List.Nodup.concat fresh (counted.distinct last.disputeId)
    · exact counted.distinct disputeId
  counter := by
    intro disputeId
    rw [ballotsOn_snoc]
    by_cases same : last.disputeId = disputeId
    · subst same
      simp [Storage.voted, counted.counter]
    · simpa [Storage.voted, same, Ne.symm same] using counted.counter disputeId

end Counting

section Runs

variable {storage after : Storage} {label : Label} {trace : List (Event Storage Label)}

/-- A step casts no ballot and leaves the votes alone, or it is a vote that casts one. -/
theorem step_ballot (stepped : Step storage label after) :
    (ballot ⟨storage, label, after⟩ = none ∧ after.disputeVotes = storage.disputeVotes ∧
        after.voterCasted = storage.voterCasted ∧
          after.voterCounter = storage.voterCounter) ∨
      ∃ cast, ballot ⟨storage, label, after⟩ = some cast ∧
        (vote label.env cast.voter cast.disputeId cast.outcome).exec storage =
          .ok (.ok (), after) := by
  have silent (quiet : ∀ voter disputeId outcome value,
      label.call = .vote voter disputeId outcome → label.answer ≠ .ok value) :
      ballot ⟨storage, label, after⟩ = none := by
    refine Option.eq_none_iff_forall_ne_some.mpr fun cast found => ?_
    obtain ⟨called, ⟨value, answered⟩, -⟩ := ballot_eq_some.mp found
    exact quiet _ _ _ _ called answered
  cases effect_of_step stepped with
  | failed error answered same =>
      refine .inl ⟨silent fun _ _ _ _ _ => by simp [answered], ?_⟩
      rw [same]
      exact ⟨rfl, rfl, rfl⟩
  | administered called kept =>
      refine .inl ⟨silent fun _ _ _ _ voting => ?_, kept.disputeVotes, kept.voterCasted,
        kept.voterCounter⟩
      simp [voting, Call.administers] at called
  | created creator description duration id called done =>
      obtain ⟨-, -, -, -, rfl⟩ := createDispute_eq_ok.mp done
      exact .inl ⟨silent fun _ _ _ _ voting => by simp [called] at voting, rfl, rfl, rfl⟩
  | cancelled caller disputeId reason called done =>
      obtain ⟨-, -, _, _, _, -, -, -, -, rfl⟩ := cancelDispute_eq_ok.mp done
      exact .inl ⟨silent fun _ _ _ _ voting => by simp [called] at voting, rfl, rfl, rfl⟩
  | voted voter disputeId outcome called answered done =>
      obtain ⟨-, -, weight, dispute, weighed, -⟩ := vote_eq_ok.mp done
      have found : ballot ⟨storage, label, after⟩ =
          some { disputeId, voter, outcome, weight } :=
        ballot_eq_some.mpr ⟨called, ⟨_, answered⟩, weighed⟩
      exact .inr ⟨_, found, done⟩
  | resolved disputeId outcome called answered done =>
      obtain ⟨-, _, -, -, -, -, -, rfl⟩ := resolveDispute_eq_ok.mp done
      exact .inl ⟨silent fun _ _ _ _ voting => by simp [called] at voting, rfl, rfl, rfl⟩

theorem counted_of_run (run : Run Step .deployed trace storage) :
    Counted storage (ballots trace) := by
  apply run.history (motive := fun trace storage => Counted storage (ballots trace))
  · exact counted_deployed
  · intro trace event _ counted stepped
    rw [ballots_snoc]
    rcases step_ballot stepped with ⟨silent, votes, casted, counter⟩ | ⟨cast, found, done⟩
    · rw [silent, Option.toList_none, List.append_nil]
      exact counted.of_same votes casted counter
    · obtain ⟨-, -, weight, dispute, weighed, -, -, new, -, -, stored⟩ := vote_eq_ok.mp done
      obtain ⟨-, -, weight'⟩ := ballot_eq_some.mp found
      obtain rfl : weight = cast.weight := Option.some.inj (weighed.symm.trans weight')
      rw [found, stored]
      exact counted.voted new

end Runs

section Exactness

variable {storage : Storage} {trace : List (Event Storage Label)}

/-- The vote of the address for the outcome succeeded. -/
def VotedFor (trace : List (Event Storage Label)) (disputeId outcome : Nat)
    (voter : Address) : Prop :=
  ∃ event ∈ trace, event.label.call = .vote voter disputeId outcome ∧
    ∃ value, event.label.answer = .ok value

/-- The tallies after a history. -/
structure ExactTallies (storage : Storage) (trace : List (Event Storage Label)) : Prop where
  /-- A tally is the sum of the weights that its voters had when they voted. -/
  tally : ∀ disputeId outcome, getTally storage disputeId outcome =
    (((ballots trace).filter fun cast =>
      cast.disputeId = disputeId ∧ cast.outcome = outcome).map Ballot.weight).sum
  /-- The ballots are the votes that succeeded. -/
  ballot : ∀ disputeId outcome voter, VotedFor trace disputeId outcome voter ↔
    ∃ weight, { disputeId, voter, outcome, weight : Ballot } ∈ ballots trace
  /-- No address has two ballots on one dispute. -/
  distinct : ∀ disputeId, (((ballots trace).filter fun cast =>
    cast.disputeId = disputeId).map Ballot.voter).Nodup
  /-- The flags are those of the voters. -/
  flag : ∀ disputeId voter, hasVoted storage disputeId voter = true ↔
    ∃ outcome, VotedFor trace disputeId outcome voter
  /-- The counter counts the voters. -/
  counter : ∀ disputeId,
    {voter | ∃ outcome, VotedFor trace disputeId outcome voter}.encard =
      storage.voterCounter disputeId
  one : ∀ disputeId voter first second, VotedFor trace disputeId first voter →
    VotedFor trace disputeId second voter → first = second
  /-- A vote succeeds in the voting period only, with the weight the voter has then. -/
  accepted : ∀ event ∈ trace, ∀ voter disputeId outcome value,
    event.label.call = .vote voter disputeId outcome → event.label.answer = .ok value →
      (∃ dispute, event.before.dispute disputeId = some dispute ∧ dispute.status = .voting ∧
        dispute.votingStart ≤ event.label.env.timestamp ∧
          event.label.env.timestamp ≤ dispute.votingEnd) ∧
      ∃ weight, event.before.arbitrator voter = some weight ∧
        { disputeId, voter, outcome, weight : Ballot } ∈ ballots trace

/-- A vote that succeeded cast a ballot in its voting period. -/
theorem voted_of_step {event : Event Storage Label} {voter : Address}
    {disputeId outcome : Nat} {value : Value}
    (stepped : Step event.before event.label event.after)
    (called : event.label.call = .vote voter disputeId outcome)
    (answered : event.label.answer = .ok value) :
    (∃ dispute, event.before.dispute disputeId = some dispute ∧
      dispute.Votable event.label.env.timestamp) ∧
    ∃ weight, event.before.arbitrator voter = some weight ∧
      ballot event = some { disputeId, voter, outcome, weight } := by
  have voted : (invoke event.label.env (.vote voter disputeId outcome)).exec event.before =
      .ok (.ok value, event.after) := by
    rw [← called, ← answered]
    exact stepped
  obtain ⟨_, done, -⟩ := Body.ok_of_answer voted
  obtain ⟨-, -, weight, dispute, weighed, found, votable, -⟩ := vote_eq_ok.mp done
  exact ⟨⟨dispute, found, votable⟩, weight, weighed,
    ballot_eq_some.mpr ⟨called, ⟨value, answered⟩, weighed⟩⟩

theorem votedFor_iff (run : Run Step .deployed trace storage) {disputeId outcome : Nat}
    {voter : Address} :
    VotedFor trace disputeId outcome voter ↔
      ∃ weight, { disputeId, voter, outcome, weight : Ballot } ∈ ballots trace := by
  constructor
  · rintro ⟨event, member, called, value, answered⟩
    obtain ⟨-, weight, -, found⟩ :=
      voted_of_step (run.stepped_of_mem member) called answered
    exact ⟨weight, mem_ballots.mpr ⟨event, member, found⟩⟩
  · rintro ⟨weight, cast⟩
    obtain ⟨event, member, found⟩ := mem_ballots.mp cast
    obtain ⟨called, answered, -⟩ := ballot_eq_some.mp found
    exact ⟨event, member, called, answered⟩

/-- The voters of a dispute are those of its ballots. -/
theorem mem_voters_iff (run : Run Step .deployed trace storage) {disputeId : Nat}
    {voter : Address} :
    (∃ outcome, VotedFor trace disputeId outcome voter) ↔
      voter ∈ (ballotsOn disputeId (ballots trace)).map Ballot.voter := by
  simp only [votedFor_iff run, ballotsOn, List.mem_map, List.mem_filter, decide_eq_true_eq]
  constructor
  · rintro ⟨outcome, weight, cast⟩
    exact ⟨_, ⟨cast, rfl⟩, rfl⟩
  · rintro ⟨⟨_, _, outcome, weight⟩, ⟨cast, rfl⟩, rfl⟩
    exact ⟨outcome, weight, cast⟩

theorem weightOf_entries {cast : List Ballot} {disputeId outcome : Nat} :
    Tally.weightOf ((ballotsOn disputeId cast).map Ballot.entry) outcome =
      ((cast.filter fun ballot =>
        ballot.disputeId = disputeId ∧ ballot.outcome = outcome).map Ballot.weight).sum := by
  induction cast with
  | nil => rfl
  | cons first rest ih =>
      simp only [Tally.weightOf, ballotsOn] at ih ⊢
      by_cases same : first.disputeId = disputeId <;>
        by_cases equal : first.outcome = outcome <;>
          simp [same, equal, ih, Ballot.entry]

/-- The tallies are exact after every run. -/
theorem tallies_exact (run : Run Step .deployed trace storage) :
    ExactTallies storage trace where
  tally := by
    intro disputeId outcome
    rw [getTally, ((counted_of_run run).votes disputeId).value outcome, weightOf_entries]
  ballot := fun _ _ _ => votedFor_iff run
  distinct := (counted_of_run run).distinct
  flag := by
    intro disputeId voter
    rw [mem_voters_iff run]
    exact (counted_of_run run).casted disputeId voter
  counter := by
    intro disputeId
    have counted := counted_of_run run
    have voters : {voter | ∃ outcome, VotedFor trace disputeId outcome voter} =
        ((ballotsOn disputeId (ballots trace)).map Ballot.voter).toFinset := by
      ext voter
      simpa using mem_voters_iff run
    rw [voters, Set.encard_coe_eq_coe_finsetCard,
      List.toFinset_card_of_nodup (counted.distinct disputeId), List.length_map,
      counted.counter disputeId]
  one := by
    intro disputeId voter first second forFirst forSecond
    obtain ⟨weight, cast⟩ := (votedFor_iff run).mp forFirst
    obtain ⟨other, again⟩ := (votedFor_iff run).mp forSecond
    have distinct := (counted_of_run run).distinct disputeId
    have same := List.inj_on_of_nodup_map distinct
      (List.mem_filter.mpr ⟨cast, by simp⟩) (List.mem_filter.mpr ⟨again, by simp⟩) rfl
    exact congrArg Ballot.outcome same
  accepted := by
    intro event member voter disputeId outcome value called answered
    obtain ⟨⟨dispute, found, votable⟩, weight, weighed, cast⟩ :=
      voted_of_step (run.stepped_of_mem member) called answered
    exact ⟨⟨dispute, found, votable⟩, weight, weighed, mem_ballots.mpr ⟨event, member, cast⟩⟩

end Exactness

section Sample

def votingLabel (timestamp : Nat) (call : Call) (value : Value) : Label where
  env := .signedByAll ⟨0⟩ timestamp
  call := call
  answer := .ok value

/-- An arbitrator votes, is given another weight, leaves, and votes again on a later
dispute after its return. -/
theorem tallies_exact_sample :
    ∃ trace storage, Run Step .deployed trace storage ∧ ExactTallies storage trace ∧
      getTally storage 0 1 = 5 ∧ getTally storage 1 1 = 9 ∧ storage.voterCounter 0 = 2 := by
  obtain ⟨storage, followed, first, second, counter⟩ : ∃ storage,
      replay next .deployed
          [ votingLabel 1 (.initializeArbitration ⟨1⟩) .unit,
            votingLabel 2 (.registerArbitrator ⟨2⟩ 5) .unit,
            votingLabel 2 (.registerArbitrator ⟨3⟩ 4) .unit,
            votingLabel 3 (.createDispute ⟨4⟩ [] 100) (.number 0),
            votingLabel 3 (.createDispute ⟨4⟩ [] 100) (.number 1),
            votingLabel 4 (.vote ⟨2⟩ 0 1) .unit,
            votingLabel 5 (.registerArbitrator ⟨2⟩ 7) .unit,
            votingLabel 6 (.vote ⟨3⟩ 0 2) .unit,
            votingLabel 7 (.unregisterArbitrator ⟨2⟩) .unit,
            votingLabel 8 (.registerArbitrator ⟨2⟩ 9) .unit,
            votingLabel 9 (.vote ⟨2⟩ 1 1) .unit ] = some storage ∧
        getTally storage 0 1 = 5 ∧ getTally storage 1 1 = 9 ∧ storage.voterCounter 0 = 2 := by
    refine ⟨_, rfl, ?_⟩
    exact ⟨rfl, rfl, rfl⟩
  obtain ⟨trace, run, _⟩ := run_of_replay step_of_next followed
  exact ⟨trace, storage, run, tallies_exact run, first, second, counter⟩

end Sample

end Arbitration
