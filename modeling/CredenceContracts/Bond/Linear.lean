import CredenceContracts.Bond.Change
import CredenceContracts.Bond.Reentrancy

/-!
# Runs with callbacks as serial runs

Whatever callback contracts do during the calls of a run, the run ends as if what they
achieved had been called after the calls that notified them, one after another and with
no callback contract.  What such serial runs keep, every run keeps.
-/

namespace CredenceBond

open Soroban MachineInt Transition Reentrancy

variable {Ledger : Type} {ext : Externals Ledger}

section Schedules

/-- The call as one that notifies, where it is one. -/
def Call.notifying : Call → Option NotifyingCall
  | .withdrawBond identity => some (.withdrawBond identity)
  | .slashBond admin slashAmount idempotencySalt =>
      some (.slashBond admin slashAmount idempotencySalt)
  | .collectFees admin idempotencySalt => some (.collectFees admin idempotencySalt)
  | _ => none

theorem Call.toCall_of_notifying {call : Call} {notifying : NotifyingCall}
    (notifies : call.notifying = some notifying) : notifying.toCall = call := by
  cases call <;> simp_all [Call.notifying, NotifyingCall.toCall] <;> subst notifies <;> rfl

/-- What the callback contract achieves during an action. -/
def ReentrantLabel.heard (ext : Externals Ledger) (label : ReentrantLabel Ledger)
    (state : State Ledger) : List (Action Ledger) :=
  match label.action with
  | .call env call =>
      match call.notifying with
      | some notifying => notifying.heard ext label.callbacks env state
      | none => []
  | .aside _ => []

/-- An action that succeeded and what was achieved during it, in this order. -/
def scheduled (ext : Externals Ledger)
    (event : Event (State Ledger) (ReentrantLabel Ledger)) : List (Action Ledger) :=
  match event.label.action.perform ext (event.label.callbacks.answer ext) event.before with
  | .ok _ => event.label.action :: event.label.heard ext event.before
  | .error _ => []

variable {before after start final : State Ledger} {label : ReentrantLabel Ledger}
variable {trace : List (Event (State Ledger) (ReentrantLabel Ledger))}

theorem ReentrantLabel.heard_unguarded :
    ∀ action ∈ label.heard ext before, action.guarded = false := by
  unfold ReentrantLabel.heard
  split
  · split
    · exact NotifyingCall.heard_unguarded _
    · simp
  · simp

/-- A call that notifies no one does the same whatever the callback contract. -/
theorem invoke_of_quiet {callback : Notification → State Ledger → Option (State Ledger)}
    {env : Env} {call : Call} (quiet : call.notifying = none) :
    invoke (ext.notifying callback) env before call = invoke ext env before call := by
  cases call with
  | withdrawBond | slashBond | collectFees => cases quiet
  | _ => rfl

/-- An action that succeeds does what it does with no callback contract, and what was
achieved during it comes after it. -/
theorem perform_serial
    (performed : label.action.perform ext (label.callbacks.answer ext) before = .ok after) :
    serial (Action.perform ext) (label.action :: label.heard ext before) before = .ok after := by
  obtain ⟨action, callbacks⟩ := label
  rw [serial, List.foldlM_cons]
  refine Outcome.bind_eq_ok.mpr ?_
  cases action with
  | aside aside => exact ⟨after, performed, rfl⟩
  | call env call =>
      cases notifies : call.notifying with
      | none =>
          refine ⟨after, (invoke_of_quiet notifies).trans ?_, ?_⟩
          · exact (invoke_of_quiet notifies).symm.trans performed
          · simp [ReentrantLabel.heard, notifies]
      | some notifying =>
          have same := Call.toCall_of_notifying notifies
          have answered : invoke (ext.notifying (callbacks.answer ext)) env before
              notifying.toCall = .ok after := same ▸ performed
          rw [notifying.invoke_toCall] at answered
          obtain ⟨⟨_, amount⟩, done, rfl⟩ := Outcome.map_eq_ok.mp answered
          obtain ⟨between, alone, later⟩ := NotifyingCall.perform_serial done
          refine ⟨between, ?_, ?_⟩
          · have silently : invoke (ext.notifying silent) env before notifying.toCall =
                .ok between := by
              rw [notifying.invoke_toCall]
              exact Outcome.map_eq_ok.mpr ⟨_, alone, rfl⟩
            exact same ▸ silently
          · simp only [ReentrantLabel.heard, notifies]
            exact later

/-- A step does what its schedule does. -/
theorem scheduled_serial (stepped : ReentrantStep ext before label after) :
    serial (Action.perform ext) (scheduled ext ⟨before, label, after⟩) before = .ok after := by
  cases stepped with
  | done performed =>
      simp only [scheduled, performed]
      exact perform_serial performed
  | reverted failed =>
      simp only [scheduled, failed]
      rfl

theorem serial_append {first second : List (Action Ledger)}
    (early : serial (Action.perform ext) first start = .ok before)
    (late : serial (Action.perform ext) second before = .ok final) :
    serial (Action.perform ext) (first ++ second) start = .ok final := by
  rw [serial, List.foldlM_append]
  exact Outcome.bind_eq_ok.mpr ⟨before, early, late⟩

/-- A run of calls that callback contracts answer ends as the serial run of its schedule
does: of each call that succeeded, followed by what was achieved during it, with no
callback contract.  Nothing achieved during a call is one of the guarded calls. -/
theorem reentrant_runs_linearize (run : Run (ReentrantStep ext) start trace final) :
    serial (Action.perform ext) (trace.flatMap (scheduled ext)) start = .ok final ∧
      ∀ event ∈ trace, ∀ action ∈ (scheduled ext event).tail, action.guarded = false := by
  constructor
  · induction run with
    | nil => rfl
    | snoc _ stepped ih =>
        rw [List.flatMap_append, List.flatMap_singleton]
        exact serial_append ih (scheduled_serial stepped)
  · intro event _ action member
    unfold scheduled at member
    split at member
    · exact ReentrantLabel.heard_unguarded action member
    · simp at member

/-- One action with no callback contract. -/
def SerialStep (ext : Externals Ledger) (state : State Ledger) (action : Action Ledger)
    (after : State Ledger) : Prop :=
  action.perform ext silent state = .ok after

/-- A schedule is the run of its actions. -/
theorem run_of_serial {schedule : List (Action Ledger)}
    (done : serial (Action.perform ext) schedule start = .ok final) :
    ∃ history, Run (SerialStep ext) start history final ∧
      history.map Event.label = schedule := by
  induction schedule generalizing start with
  | nil =>
      obtain rfl := Outcome.pure_eq_ok.mp done
      exact ⟨[], .nil, rfl⟩
  | cons action rest ih =>
      rw [serial, List.foldlM_cons] at done
      obtain ⟨middle, first, remaining⟩ := Outcome.bind_eq_ok.mp done
      obtain ⟨history, run, labels⟩ := ih remaining
      have stepped : SerialStep ext start action middle := first
      exact ⟨_, .cons stepped run, by rw [List.map_cons, labels]⟩

/-- A run with callbacks ends as a run of the actions scheduled, which have the properties
that all of those have. -/
theorem run_of_scheduled (property : Action Ledger → Prop)
    (every : ∀ event ∈ trace, ∀ action ∈ scheduled ext event, property action)
    (run : Run (ReentrantStep ext) start trace final) :
    ∃ history, Run (SerialStep ext) start history final ∧
      history.map Event.label = trace.flatMap (scheduled ext) ∧
        ∀ event ∈ history, property event.label := by
  obtain ⟨history, serial, labels⟩ := run_of_serial (reentrant_runs_linearize run).1
  refine ⟨history, serial, labels, fun event member => ?_⟩
  have listed : event.label ∈ trace.flatMap (scheduled ext) :=
    labels ▸ List.mem_map_of_mem member
  obtain ⟨source, inside, scheduled⟩ := List.mem_flatMap.mp listed
  exact every source inside event.label scheduled

/-- With no callback contract nothing writes the storage during a call. -/
theorem guarded_silent (ext : Externals Ledger) (self : Address) :
    (ext.notifying silent).Guarded self := by
  rintro address function argument before _ ⟨⟩
  exact ⟨rfl, fun _ => le_rfl⟩

end Schedules

section Sample

/-- The admin collects the fees, and the callback contract asks for them too. -/
def greedyLabel : ReentrantLabel ReferenceLedger where
  action := .call (.signedByAll ⟨0⟩ 0) (.collectFees ⟨1⟩ [])
  callbacks := greedy

def greedySchedule : List (Action ReferenceLedger) :=
  [ .call (.signedByAll ⟨0⟩ 0) (.collectFees ⟨1⟩ []),
    .call (.signedByAll ⟨0⟩ 0) (.depositFees 7) ]

theorem greedy_run :
    ∃ after, Run (ReentrantStep Externals.reference) feesSample
      [⟨feesSample, greedyLabel, after⟩] after := by
  obtain ⟨after, performed⟩ : ∃ after, greedyLabel.action.perform Externals.reference
      (greedyLabel.callbacks.answer Externals.reference) feesSample = .ok after := ⟨_, rfl⟩
  exact ⟨after, .single (.done performed)⟩

theorem scheduled_greedy (after : State ReferenceLedger) :
    scheduled Externals.reference ⟨feesSample, greedyLabel, after⟩ = greedySchedule :=
  rfl

/-- Of what the callback contract tries, the deposit comes after the collection. -/
theorem reentrant_runs_linearize_sample :
    ∃ trace final, Run (ReentrantStep Externals.reference) feesSample trace final ∧
      serial (Action.perform Externals.reference) greedySchedule feesSample = .ok final := by
  obtain ⟨final, run⟩ := greedy_run
  refine ⟨_, final, run, ?_⟩
  simpa [scheduled_greedy] using (reentrant_runs_linearize run).1

end Sample

end CredenceBond
