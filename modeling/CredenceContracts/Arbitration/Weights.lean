import CredenceContracts.Arbitration.Lifecycle
import Mathlib.Tactic.Linarith

/-!
# Reported weights and counted weights

The stored weight of an arbitrator is the one it was last registered with, and that is
what its vote adds to a tally.  The reported weight is the stored one narrowed to an
unsigned 32-bit word, so the two agree on the weights that fit in such a word and on no
others.
-/

namespace Arbitration

open Soroban Transition

section Registrations

/-- What an event makes of the weight of an arbitrator, where it is a registration or an
unregistration of it that succeeded. -/
def registration (arbitrator : Address) (event : Event Storage Label) :
    Option (Option Int) :=
  match event.label.call, event.label.answer with
  | .registerArbitrator named weight, .ok _ =>
      if named = arbitrator then some (some weight) else none
  | .unregisterArbitrator named, .ok _ => if named = arbitrator then some none else none
  | _, _ => none

/-- The weight an arbitrator was last registered with, unless it was unregistered
since. -/
def registeredWeight (arbitrator : Address) (trace : List (Event Storage Label)) :
    Option Int :=
  trace.foldl (fun weight event => (registration arbitrator event).getD weight) none

theorem registeredWeight_snoc {arbitrator : Address} {trace : List (Event Storage Label)}
    {event : Event Storage Label} :
    registeredWeight arbitrator (trace ++ [event]) =
      (registration arbitrator event).getD (registeredWeight arbitrator trace) := by
  simp [registeredWeight]

variable {storage after : Storage} {label : Label} {trace : List (Event Storage Label)}

/-- A step changes the stored weight of an arbitrator where it registers or unregisters
it, and nowhere else. -/
theorem step_arbitrator (stepped : Step storage label after) (arbitrator : Address) :
    after.arbitrator arbitrator =
      (registration arbitrator ⟨storage, label, after⟩).getD
        (storage.arbitrator arbitrator) := by
  obtain ⟨env, call, answer⟩ := label
  cases answer with
  | error raised =>
      obtain rfl : after = storage := invoke_atomic stepped
      cases call <;> rfl
  | ok value =>
      cases call with
      | initializeArbitration admin =>
          obtain ⟨_, done, -⟩ := Body.ok_of_answer stepped
          obtain ⟨-, rfl⟩ := initializeArbitration_eq_ok.mp done
          rfl
      | registerArbitrator named weight =>
          obtain ⟨_, done, -⟩ := Body.ok_of_answer stepped
          obtain ⟨-, -, rfl⟩ := registerArbitrator_eq_ok.mp done
          by_cases same : named = arbitrator
          · simp [registration, same]
          · simp [registration, same, Ne.symm same]
      | unregisterArbitrator named =>
          obtain ⟨_, done, -⟩ := Body.ok_of_answer stepped
          obtain ⟨-, rfl⟩ := unregisterArbitrator_eq_ok.mp done
          by_cases same : named = arbitrator
          · simp [registration, same]
          · simp [registration, same, Ne.symm same]
      | createDispute creator description duration =>
          obtain ⟨_, done, -⟩ := Body.ok_of_answer stepped
          obtain ⟨-, -, -, -, rfl⟩ := createDispute_eq_ok.mp done
          rfl
      | cancelDispute caller disputeId reason =>
          obtain ⟨_, done, -⟩ := Body.ok_of_answer stepped
          obtain ⟨-, -, _, _, _, -, -, -, -, rfl⟩ := cancelDispute_eq_ok.mp done
          rfl
      | vote voter disputeId outcome =>
          obtain ⟨_, done, -⟩ := Body.ok_of_answer stepped
          obtain ⟨-, -, _, _, -, -, -, -, -, -, rfl⟩ := vote_eq_ok.mp done
          rfl
      | resolveDispute disputeId =>
          obtain ⟨_, done, -⟩ := Body.ok_of_answer stepped
          obtain ⟨-, _, -, -, -, -, -, rfl⟩ := resolveDispute_eq_ok.mp done
          rfl
      | setQuorum admin minTotalWeight minVoters =>
          obtain ⟨_, done, -⟩ := Body.ok_of_answer stepped
          obtain ⟨-, -, rfl⟩ := setQuorum_eq_ok.mp done
          rfl
      | pausable call =>
          simp only [Step, invoke, Body.bind_eq_ok, Body.orPanic_eq_ok, Body.exec_get,
            Body.exec_modify, Body.exec_pure, Except.ok.injEq, Prod.mk.injEq] at stepped
          obtain ⟨_, _, ⟨rfl, rfl⟩, pause, _, ⟨-, rfl⟩, _, _, ⟨-, rfl⟩, -, rfl⟩ := stepped
          rfl

/-- After every run the stored weight is the one last registered. -/
theorem arbitrator_of_run (run : Run Step .deployed trace storage) (arbitrator : Address) :
    storage.arbitrator arbitrator = registeredWeight arbitrator trace := by
  apply run.history
    (motive := fun trace storage =>
      storage.arbitrator arbitrator = registeredWeight arbitrator trace)
  · rfl
  · intro trace event _ same stepped
    rw [registeredWeight_snoc, ← same]
    exact step_arbitrator stepped arbitrator

/-- A registered weight is positive. -/
theorem registeredWeight_pos (run : Run Step .deployed trace storage)
    {arbitrator : Address} {weight : Int}
    (registered : registeredWeight arbitrator trace = some weight) : 0 < weight := by
  have stored : storage.arbitrator arbitrator = some weight :=
    (arbitrator_of_run run arbitrator).trans registered
  exact (sound_of_run run).arbitrator arbitrator weight stored

end Registrations

section Agreement

variable {storage after : Storage} {trace : List (Event Storage Label)} {env : Env}
variable {voter : Address} {disputeId outcome : Nat} {weight : Int}

/-- The reported weight of the voter is the amount by which the tally of the outcome
grows. -/
def ReportsRaise (before after : Storage) (voter : Address) (disputeId outcome : Nat) :
    Prop :=
  ∃ reported, getArbitratorWeight before voter = .ok reported ∧
    getTally after disputeId outcome = getTally before disputeId outcome + reported

@[simp] theorem getArbitratorWeight_eq_ok {reported : Nat} :
    getArbitratorWeight storage voter = .ok reported ↔
      ∃ weight, storage.arbitrator voter = some weight ∧
        reported = (weight % 2 ^ 32).toNat := by
  simp [getArbitratorWeight]

theorem getTally_voted :
    getTally (storage.voted voter disputeId outcome weight) disputeId outcome =
      getTally storage disputeId outcome + weight := by
  simp [getTally, Storage.voted]

/-- A vote that succeeds adds the stored weight of its voter to the tally. -/
theorem tally_of_vote
    (voted : Step storage ⟨env, .vote voter disputeId outcome, .ok .unit⟩ after)
    (stored : storage.arbitrator voter = some weight) :
    getTally after disputeId outcome = getTally storage disputeId outcome + weight := by
  obtain ⟨_, done, -⟩ := Body.ok_of_answer voted
  obtain ⟨-, -, counted, _, found, -, -, -, -, -, rfl⟩ := vote_eq_ok.mp done
  obtain rfl : counted = weight := Option.some.inj (found.symm.trans stored)
  exact getTally_voted

/-- A positive weight survives the narrowing exactly where it fits. -/
theorem narrowed_eq_iff (positive : 0 < weight) :
    ((weight % 2 ^ 32).toNat : Int) = weight ↔ weight < 2 ^ 32 := by
  omega

/-- In every run and for every arbitrator registered there, the reported weight is what a
vote that succeeds adds to the tally if and only if the weight it was last registered with
fits in an unsigned 32-bit word. -/
theorem reported_weight_iff (run : Run Step .deployed trace storage)
    (registered : registeredWeight voter trace = some weight)
    (voted : Step storage ⟨env, .vote voter disputeId outcome, .ok .unit⟩ after) :
    ReportsRaise storage after voter disputeId outcome ↔ weight < 2 ^ 32 := by
  have stored : storage.arbitrator voter = some weight :=
    (arbitrator_of_run run voter).trans registered
  have raised := tally_of_vote voted stored
  have positive : 0 < weight := registeredWeight_pos run registered
  rw [← narrowed_eq_iff positive]
  constructor
  · rintro ⟨reported, read, raise⟩
    obtain ⟨found, same, rfl⟩ := getArbitratorWeight_eq_ok.mp read
    obtain rfl : found = weight := Option.some.inj (same.symm.trans stored)
    linarith
  · intro same
    exact ⟨_, getArbitratorWeight_eq_ok.mpr ⟨weight, stored, rfl⟩, by rw [raised, same]⟩

end Agreement

section Sample

/-- An arbitrator is registered, left without a weight and registered again with the
largest weight that is reported in full. -/
theorem reported_weight_sample :
    ∃ trace storage after, Run Step .deployed trace storage ∧
      registeredWeight ⟨2⟩ trace = some (2 ^ 32 - 1) ∧
        Step storage (votingLabel 5 (.vote ⟨2⟩ 0 1) .unit) after ∧
          ReportsRaise storage after ⟨2⟩ 0 1 := by
  obtain ⟨storage, followed, stored⟩ : ∃ storage,
      replay next .deployed
          [ votingLabel 1 (.initializeArbitration ⟨1⟩) .unit,
            votingLabel 2 (.registerArbitrator ⟨2⟩ 5) .unit,
            votingLabel 3 (.unregisterArbitrator ⟨2⟩) .unit,
            votingLabel 3 (.registerArbitrator ⟨2⟩ (2 ^ 32 - 1)) .unit,
            votingLabel 4 (.createDispute ⟨4⟩ [] 100) (.number 0) ] = some storage ∧
        storage.arbitrator ⟨2⟩ = some (2 ^ 32 - 1) ∧
          ∃ after, next storage (votingLabel 5 (.vote ⟨2⟩ 0 1) .unit) = some after := by
    refine ⟨_, rfl, ?_⟩
    exact ⟨rfl, _, rfl⟩
  obtain ⟨stored, after, voted⟩ := stored
  obtain ⟨trace, run, _⟩ := run_of_replay step_of_next followed
  have registered : registeredWeight ⟨2⟩ trace = some (2 ^ 32 - 1) :=
    (arbitrator_of_run run _).symm.trans stored
  have stepped : Step storage (votingLabel 5 (.vote ⟨2⟩ 0 1) .unit) after :=
    step_of_next voted
  exact ⟨trace, storage, after, run, registered, stepped,
    (reported_weight_iff run registered stepped).mpr (by decide)⟩

/-- An arbitrator of weight 2³² is reported with weight 0, and its vote adds 2³² to the
tally. -/
theorem reported_weight_narrowed :
    ∃ trace storage after, Run Step .deployed trace storage ∧
      Step storage (votingLabel 5 (.vote ⟨2⟩ 0 1) .unit) after ∧
        getArbitratorWeight storage ⟨2⟩ = .ok 0 ∧
          getTally after 0 1 = getTally storage 0 1 + 2 ^ 32 ∧
            ¬ReportsRaise storage after ⟨2⟩ 0 1 := by
  obtain ⟨storage, followed, read, after, voted, raised⟩ : ∃ storage,
      replay next .deployed
          [ votingLabel 1 (.initializeArbitration ⟨1⟩) .unit,
            votingLabel 2 (.registerArbitrator ⟨2⟩ (2 ^ 32)) .unit,
            votingLabel 4 (.createDispute ⟨4⟩ [] 100) (.number 0) ] = some storage ∧
        getArbitratorWeight storage ⟨2⟩ = .ok 0 ∧
          ∃ after, next storage (votingLabel 5 (.vote ⟨2⟩ 0 1) .unit) = some after ∧
            getTally after 0 1 = getTally storage 0 1 + 2 ^ 32 := by
    refine ⟨_, rfl, ?_⟩
    exact ⟨rfl, _, rfl, rfl⟩
  obtain ⟨trace, run, _⟩ := run_of_replay step_of_next followed
  refine ⟨trace, storage, after, run, step_of_next voted, read, raised, ?_⟩
  rintro ⟨reported, found, raise⟩
  obtain rfl : 0 = reported := Except.ok.inj (read.symm.trans found)
  omega

end Sample

end Arbitration
