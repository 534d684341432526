import CredenceContracts.Emergency.Contract
import CredenceContracts.Library.Journal
import Mathlib.Data.Nat.Bits

/-!
# The trail of the emergency mode

The audit records are the trail of what happened: every withdrawal, and every change of
the mode that was made with approvals.  A configuration may set the mode without a record;
between configurations the recorded changes alternate and end with the mode in force.
-/

namespace Emergency

open Soroban MachineInt Transition

section Abstract

/-- What happened so far: the mode in force, and the audit records in their order. -/
structure Trail where
  mode : Option Bool
  transitions : List EmergencyModeTransition
  records : List EmergencyWithdrawalRecord

/-- The trail with one more change of the mode. -/
def Trail.flip (trail : Trail) (env : Env) (enabled : Bool) (admin governance : Address)
    (reason : String) : Trail :=
  { trail with
    mode := some enabled
    transitions := trail.transitions ++ [{
      id := trail.transitions.length + 1
      enabled
      approvedAdmin := admin
      approvedGovernance := governance
      reason
      timestamp := env.timestamp }] }

/-- What a call adds to the trail. -/
def Trail.enter (trail : Trail) (label : Label) : Trail :=
  match label.call with
  | .setConfig _ _ _ enabled => { trail with mode := some enabled }
  | .setEnabled enabled admin governance reason =>
      if trail.mode = some enabled then
        trail
      else
        trail.flip label.env enabled admin governance reason
  | .storeRecord identity grossAmount feeAmount netAmount treasury approvedAdmin
      approvedGovernance reason =>
      { trail with
        records := trail.records ++ [{
          id := trail.records.length + 1
          identity
          grossAmount
          feeAmount
          netAmount
          treasury
          approvedAdmin
          approvedGovernance
          reason
          timestamp := label.env.timestamp }] }

/-- The trail that events leave. -/
def Trail.after (trail : Trail) (events : List (Event Storage Label)) : Trail :=
  events.foldl (fun trail event => trail.enter event.label) trail

/-- The trail of a history. -/
def trailOf (trace : List (Event Storage Label)) : Trail :=
  Trail.after ⟨none, [], []⟩ trace

/-- Flags that alternate. -/
def alternating : Bool → Nat → List Bool
  | _, 0 => []
  | flag, count + 1 => flag :: alternating (!flag) count

def Call.configures : Call → Bool
  | .setConfig .. => true
  | _ => false

variable {trail : Trail} {event : Event Storage Label}
variable {trace events : List (Event Storage Label)}

theorem Trail.enter_of_same {env : Env} {enabled : Bool} {admin governance : Address}
    {reason : String} (same : trail.mode = some enabled) :
    trail.enter ⟨env, .setEnabled enabled admin governance reason⟩ = trail :=
  if_pos same

theorem Trail.enter_of_flip {env : Env} {enabled : Bool} {admin governance : Address}
    {reason : String} (flips : trail.mode ≠ some enabled) :
    trail.enter ⟨env, .setEnabled enabled admin governance reason⟩ =
      trail.flip env enabled admin governance reason :=
  if_neg flips

theorem trailOf_append : trailOf (trace ++ events) = (trailOf trace).after events := by
  simp [trailOf, Trail.after]

/-- Records are only added. -/
theorem Trail.enter_extends (trail : Trail) (label : Label) :
    trail.transitions <+: (trail.enter label).transitions ∧
      trail.records <+: (trail.enter label).records := by
  unfold Trail.enter
  split
  · exact ⟨List.prefix_rfl, List.prefix_rfl⟩
  · split
    · exact ⟨List.prefix_rfl, List.prefix_rfl⟩
    · exact ⟨List.prefix_append _ _, List.prefix_rfl⟩
  · exact ⟨List.prefix_rfl, List.prefix_append _ _⟩

theorem Trail.after_extends (trail : Trail) (events : List (Event Storage Label)) :
    trail.transitions <+: (trail.after events).transitions ∧
      trail.records <+: (trail.after events).records := by
  induction events generalizing trail with
  | nil => exact ⟨List.prefix_rfl, List.prefix_rfl⟩
  | cons event rest ih =>
      obtain ⟨transitions, records⟩ := trail.enter_extends event.label
      obtain ⟨onward, further⟩ := ih (trail.enter event.label)
      exact ⟨transitions.trans onward, records.trans further⟩

/-- Without a configuration the recorded changes alternate, away from the mode that was in
force, and the last of them is the mode in force. -/
theorem Trail.after_alternates {enabled : Bool} (mode : trail.mode = some enabled)
    (quiet : ∀ event ∈ events, event.label.call.configures = false) :
    ∃ changes, (trail.after events).transitions = trail.transitions ++ changes ∧
      changes.map EmergencyModeTransition.enabled = alternating (!enabled) changes.length ∧
        (trail.after events).mode = some (enabled ^^ changes.length.bodd) := by
  induction events generalizing trail enabled with
  | nil => exact ⟨[], by simp [Trail.after], rfl, by simp [Trail.after, mode]⟩
  | cons event rest ih =>
      obtain ⟨here, later⟩ := List.forall_mem_cons.mp quiet
      have onward : trail.after (event :: rest) = (trail.enter event.label).after rest := rfl
      rw [onward]
      obtain ⟨before, ⟨env, call⟩, after⟩ := event
      cases call with
      | setConfig => cases here
      | storeRecord => exact ih mode later
      | setEnabled flag admin governance reason =>
          by_cases same : trail.mode = some flag
          · simp only [Trail.enter_of_same same]
            exact ih mode later
          · have flipped : flag = !enabled := by
              rw [mode, Option.some_inj] at same
              exact Bool.eq_not_of_ne (Ne.symm same)
            subst flipped
            simp only [Trail.enter_of_flip same]
            have flips : (trail.flip env (!enabled) admin governance reason).mode =
                some (!enabled) := rfl
            obtain ⟨changes, transitions, flags, last⟩ := ih flips later
            rw [Trail.flip, List.append_assoc] at transitions
            refine ⟨_, transitions, ?_, ?_⟩
            · simp [alternating, flags]
            · simp [last, Nat.bodd_succ]

end Abstract

section Refinement

variable {storage before after : Storage} {label : Label} {trail : Trail}
variable {trace : List (Event Storage Label)}

/-- The stored entries show this trail. -/
structure Storage.Shows (storage : Storage) (trail : Trail) : Prop where
  mode : storage.emergencyConfig.map EmergencyConfig.enabled = trail.mode
  transitions : Journal.Holds storage.transition storage.transitionSeq trail.transitions
  records : Journal.Holds storage.record storage.recordSeq trail.records

/-- The views display this trail: the mode in force, how many changes and withdrawals are
recorded, and under the numbers from one on, which. -/
structure Storage.Displays (storage : Storage) (trail : Trail) : Prop where
  mode : (getConfig storage).toOption.map EmergencyConfig.enabled = trail.mode
  latestTransition : latestTransitionId storage = trail.transitions.length
  transition : ∀ id transition, getTransition storage id = .ok transition ↔
    ∃ index, id = index + 1 ∧ trail.transitions[index]? = some transition
  latestRecord : latestRecordId storage = trail.records.length
  record : ∀ id record, getRecord storage id = .ok record ↔
    ∃ index, id = index + 1 ∧ trail.records[index]? = some record

theorem Storage.Shows.displays (shows : storage.Shows trail) : storage.Displays trail where
  mode := by
    rw [← shows.mode, getConfig]
    cases storage.emergencyConfig <;> rfl
  latestTransition := shows.transitions.count
  transition id transition := Outcome.unwrapOr_eq_ok.trans shows.transitions.lookup
  latestRecord := shows.records.count
  record id record := Outcome.unwrapOr_eq_ok.trans shows.records.lookup

theorem shows_deployed : Storage.deployed.Shows ⟨none, [], []⟩ :=
  ⟨rfl, .empty, .empty⟩

/-- A successful call adds to the trail what it stands for. -/
theorem Storage.Shows.step (shows : before.Shows trail) (stepped : Step before label after) :
    after.Shows (trail.enter label) := by
  obtain ⟨env, call⟩ := label
  cases call with
  | setConfig governance treasury emergencyFeeBps enabled =>
      simp only [Step, invoke, setConfig, Outcome.bind_eq_ok, Outcome.pure_eq_ok] at stepped
      obtain ⟨-, -, rfl⟩ := stepped
      exact ⟨rfl, shows.transitions, shows.records⟩
  | setEnabled enabled admin governance reason =>
      simp only [Step, invoke, setEnabled, getConfig, Outcome.bind_eq_ok,
        Outcome.unwrapOr_eq_ok] at stepped
      obtain ⟨cfg, found, stepped⟩ := stepped
      have mode : trail.mode = some cfg.enabled := by
        rw [← shows.mode, found]
        rfl
      split at stepped
      · rename_i same
        obtain rfl := Outcome.pure_eq_ok.mp stepped
        rw [Trail.enter_of_same (by rw [mode, same])]
        exact shows
      · rename_i different
        simp only [incrementSeq, Outcome.bind_eq_ok, checkedU64_eq_ok, Outcome.pure_eq_ok]
          at stepped
        obtain ⟨_, ⟨-, rfl⟩, rfl⟩ := stepped
        have flipped : trail.mode ≠ some enabled := by
          rw [mode]
          simpa using different
        rw [Trail.enter_of_flip flipped, Trail.flip, ← shows.transitions.count]
        exact ⟨rfl, shows.transitions.append _, shows.records⟩
  | storeRecord identity grossAmount feeAmount netAmount treasury approvedAdmin
      approvedGovernance reason =>
      obtain ⟨⟨_, id⟩, stored, rfl⟩ := Outcome.map_eq_ok.mp stepped
      simp only [storeRecord, incrementSeq, Outcome.bind_eq_ok, checkedU64_eq_ok,
        Outcome.pure_eq_ok, Prod.mk.injEq] at stored
      obtain ⟨_, ⟨-, rfl⟩, rfl, -⟩ := stored
      rw [Trail.enter, ← shows.records.count]
      exact ⟨shows.mode, shows.transitions, shows.records.append _⟩

theorem shows_of_run (run : Run Step .deployed trace storage) : storage.Shows (trailOf trace) := by
  apply run.history (motive := fun trace storage => storage.Shows (trailOf trace))
  · exact shows_deployed
  · rintro trace event - shows stepped
    rw [trailOf_append]
    exact shows.step stepped

/-- Every run keeps the trail of its calls: the entries show the mode in force and the
audit records, the views display them, and none of them is ever altered.  After a configuration, the recorded changes
alternate from the mode that it set and lead to the mode in force, up to the next one. -/
theorem emergency_trail (run : Run Step .deployed trace storage) :
    storage.Shows (trailOf trace) ∧ storage.Displays (trailOf trace) ∧
    (∀ earlier later, trace = earlier ++ later →
      (trailOf earlier).transitions <+: (trailOf trace).transitions ∧
        (trailOf earlier).records <+: (trailOf trace).records) ∧
    ∀ earlier event later governance treasury feeBps enabled,
      trace = earlier ++ event :: later →
      event.label.call = .setConfig governance treasury feeBps enabled →
      (∀ other ∈ later, other.label.call.configures = false) →
      ∃ changes, (trailOf trace).transitions = (trailOf earlier).transitions ++ changes ∧
        changes.map EmergencyModeTransition.enabled = alternating (!enabled) changes.length ∧
          storage.emergencyConfig.map EmergencyConfig.enabled =
            some (enabled ^^ changes.length.bodd) := by
  have shows := shows_of_run run
  refine ⟨shows, shows.displays, ?_, ?_⟩
  · rintro earlier later rfl
    rw [trailOf_append]
    exact Trail.after_extends _ later
  · rintro earlier ⟨before, ⟨env, call⟩, after⟩ later governance treasury feeBps enabled rfl rfl
      quiet
    have configured : (trailOf earlier |>.enter ⟨env, .setConfig governance treasury feeBps
        enabled⟩).mode = some enabled := rfl
    obtain ⟨changes, transitions, flags, mode⟩ := Trail.after_alternates configured quiet
    refine ⟨changes, ?_, flags, ?_⟩
    · rw [trailOf_append]
      exact transitions
    · rw [shows.mode, trailOf_append]
      exact mode

/-- The mode is switched on, on again and off; the second call is no change. -/
theorem emergency_trail_sample :
    ∃ trace storage changes, Run Step .deployed trace storage ∧
      storage.transitionSeq = 2 ∧ (trailOf trace).transitions = changes ∧
        changes.map EmergencyModeTransition.enabled = [true, false] := by
  obtain ⟨configured, storage, first, followed, two⟩ : ∃ configured storage,
      next .deployed ⟨.signedByAll ⟨0⟩ 1, .setConfig ⟨2⟩ ⟨3⟩ 100 false⟩ = some configured ∧
        replay next configured
          [ ⟨.signedByAll ⟨0⟩ 2, .setEnabled true ⟨1⟩ ⟨2⟩ "outage"⟩,
            ⟨.signedByAll ⟨0⟩ 3, .setEnabled true ⟨1⟩ ⟨2⟩ "again"⟩,
            ⟨.signedByAll ⟨0⟩ 4, .setEnabled false ⟨1⟩ ⟨2⟩ "over"⟩ ] = some storage ∧
        storage.transitionSeq = 2 :=
    ⟨_, _, rfl, rfl, rfl⟩
  obtain ⟨later, run, labels⟩ := run_of_replay step_of_next followed
  have whole := Run.cons (step_of_next first) run
  obtain ⟨shows, -, -, alternates⟩ := emergency_trail whole
  have quiet : ∀ event ∈ later, event.label.call.configures = false := by
    intro event member
    have listed : event.label ∈ later.map Event.label := List.mem_map_of_mem member
    rw [labels] at listed
    simp only [List.mem_cons, List.not_mem_nil, or_false] at listed
    rcases listed with same | same | same <;> rw [same] <;> rfl
  obtain ⟨changes, transitions, flags, -⟩ := alternates [] _ later _ _ _ _ rfl rfl quiet
  have none : (trailOf []).transitions = [] := rfl
  rw [none, List.nil_append] at transitions
  refine ⟨_, storage, changes, whole, two, transitions, ?_⟩
  have length : changes.length = 2 := by
    rw [← transitions, ← shows.transitions.count, two]
  rw [flags, length]
  rfl

end Refinement

end Emergency
