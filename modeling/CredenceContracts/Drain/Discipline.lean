import CredenceContracts.Drain.Contract
import CredenceContracts.Library.Journal

/-!
# The discipline of the emergency drain

Every drain answers to a schedule of its own, made while the contract was paused and a
day before at least, and its record stays as it was written.
-/

namespace EmergencyDrain

open Soroban MachineInt Transition Journal

variable {Ledger : Type} {token : TokenInterface Ledger} {env : Env}
variable {state reached : State Ledger} {label : Label Ledger}

section Changes

theorem scheduleDrain_eq_ok {storage after : Storage} {delay : Nat} :
    scheduleDrain env storage delay = .ok after ↔
      storage.pause.paused = true ∧ drainTimelockSeconds ≤ delay ∧
        env.timestamp + delay < 2 ^ 64 ∧
          after = { storage with drainEta := some (env.timestamp + delay) } := by
  simp only [scheduleDrain, Outcome.bind_eq_ok, Outcome.rejectIf_eq_ok, checkedU64_eq_ok,
    Outcome.pure_eq_ok, Bool.not_eq_false, not_lt]
  simp only [BondPausable.isPaused]
  grind

/-- The record of a drain. -/
def drainRecordOf (env : Env) (id eta : Nat) (admin : Address) (amount : Int)
    (recipient : Address) : DrainRecord where
  id
  amount
  recipient
  admin
  timestamp := env.timestamp
  scheduledEta := eta

theorem executeDrain_ok {admin recipient treasury : Address} {amount : Int} {id : Nat}
    (done : executeDrain env token state admin amount recipient treasury = .ok (reached, id)) :
    state.storage.pause.paused = true ∧ 0 < amount ∧ recipient = treasury ∧
      ∃ eta, state.storage.drainEta = some eta ∧ eta ≤ env.timestamp ∧
        reached.storage = { state.storage with
          drainEta := none
          drainSeq := state.storage.drainSeq + 1
          drainRecord := Function.update state.storage.drainRecord (state.storage.drainSeq + 1)
            (some (drainRecordOf env (state.storage.drainSeq + 1) eta admin amount recipient)) } := by
  simp only [executeDrain, incrementDrainSeq, Outcome.bind_eq_ok, Outcome.rejectIf_eq_ok,
    Outcome.unwrapOr_eq_ok, checkedU64_eq_ok, Outcome.pure_eq_ok, Bool.not_eq_false, not_lt,
    not_le, ne_eq, Decidable.not_not, Prod.mk.injEq] at done
  obtain ⟨-, paused, eta, pending, -, ripe, -, positive, -, paid, ledger, -, ⟨counted, next⟩,
    ⟨_, ⟨-, rfl⟩, rfl, rfl⟩, rfl, -⟩ := done
  exact ⟨paused, positive, paid, eta, pending, ripe, rfl⟩

/-- The ways a step changes the pending schedule and the records. -/
inductive DrainChange (env : Env) (before after : Storage) : Call → Prop where
  | scheduled {delay : Nat} (paused : before.pause.paused = true)
      (delayed : drainTimelockSeconds ≤ delay)
      (stored : after = { before with drainEta := some (env.timestamp + delay) }) :
      DrainChange env before after (.scheduleDrain delay)
  | cancelled (stored : after = { before with drainEta := none }) :
      DrainChange env before after .cancelDrain
  | executed {admin recipient treasury : Address} {amount : Int} {eta : Nat}
      (paused : before.pause.paused = true) (positive : 0 < amount)
      (paid : recipient = treasury) (pending : before.drainEta = some eta)
      (ripe : eta ≤ env.timestamp)
      (stored : after = { before with
        drainEta := none
        drainSeq := before.drainSeq + 1
        drainRecord := Function.update before.drainRecord (before.drainSeq + 1)
          (some (drainRecordOf env (before.drainSeq + 1) eta admin amount recipient)) }) :
      DrainChange env before after (.executeDrain admin amount recipient treasury)
  | pausable {call : Pausable.Call} {pause : Pausable.Storage}
      (stored : after = { before with pause }) :
      DrainChange env before after (.pausable call)

theorem invoke_change {call : Call} (done : invoke token env state call = .ok reached) :
    DrainChange env state.storage reached.storage call := by
  cases call with
  | scheduleDrain delay =>
      simp only [invoke, Outcome.bind_eq_ok, Outcome.pure_eq_ok, scheduleDrain_eq_ok] at done
      obtain ⟨storage, ⟨paused, delayed, -, stored⟩, rfl⟩ := done
      exact .scheduled paused delayed stored
  | cancelDrain =>
      obtain rfl := Outcome.pure_eq_ok.mp done
      exact .cancelled rfl
  | executeDrain admin amount recipient treasury =>
      obtain ⟨⟨reached, id⟩, done, rfl⟩ := Outcome.map_eq_ok.mp done
      obtain ⟨paused, positive, paid, eta, pending, ripe, stored⟩ := executeDrain_ok done
      exact .executed paused positive paid pending ripe stored
  | pausable call =>
      simp only [invoke, Outcome.bind_eq_ok, Outcome.pure_eq_ok] at done
      obtain ⟨pause, -, rfl⟩ := done
      exact .pausable rfl

end Changes

section History

variable {trace : List (Event (State Ledger) (Label Ledger))} {start final : State Ledger}

/-- The step schedules a drain. -/
def schedules (event : Event (State Ledger) (Label Ledger)) : Bool :=
  match event.label.act with
  | .call (.scheduleDrain _) => true
  | _ => false

/-- The step executes a drain. -/
def drains (event : Event (State Ledger) (Label Ledger)) : Bool :=
  match event.label.act with
  | .call (.executeDrain _ _ _ _) => true
  | _ => false

/-- The step schedules, cancels or executes a drain. -/
def settles (event : Event (State Ledger) (Label Ledger)) : Bool :=
  match event.label.act with
  | .call (.scheduleDrain _) | .call .cancelDrain | .call (.executeDrain _ _ _ _) => true
  | _ => false

/-- The step schedules a drain for a time, a day ahead at least and while the contract is
paused. -/
def SchedulesFor (eta : Nat) (event : Event (State Ledger) (Label Ledger)) : Prop :=
  event.before.storage.pause.paused = true ∧
    event.label.env.timestamp + drainTimelockSeconds ≤ eta ∧
      ∃ delay, event.label.act = .call (.scheduleDrain delay) ∧
        event.label.env.timestamp + delay = eta

/-- A schedule for that time was made, and nothing was scheduled, cancelled or drained
since. -/
def Pending (eta : Nat) (trace : List (Event (State Ledger) (Label Ledger))) : Prop :=
  Since (SchedulesFor eta) (fun event => settles event = true) trace

/-- No drain was scheduled or executed yet. -/
structure Fresh (storage : Storage) : Prop where
  drainEta : storage.drainEta = none
  drainSeq : storage.drainSeq = 0
  drainRecord : storage.drainRecord = fun _ => none

/-- The entries are those that the history says. -/
structure Tracked (trace : List (Event (State Ledger) (Label Ledger))) (state : State Ledger) :
    Prop where
  pending : ∀ eta, state.storage.drainEta = some eta → Pending eta trace
  seq : state.storage.drainSeq = trace.countP drains
  numbered : Numbered state.storage.drainRecord state.storage.drainSeq
  covered : trace.countP drains + (if state.storage.drainEta.isSome then 1 else 0) ≤
    trace.countP schedules

theorem Tracked.of_fresh (fresh : Fresh start.storage) : Tracked [] start where
  pending := by simp [fresh.drainEta]
  seq := by simp [fresh.drainSeq]
  numbered := by
    rw [fresh.drainSeq, fresh.drainRecord]
    exact Numbered.empty
  covered := by simp [fresh.drainEta]

/-- A step that does not concern the drain leaves everything as it was. -/
theorem Tracked.quiet {event : Event (State Ledger) (Label Ledger)}
    (tracked : Tracked trace event.before) (still : settles event = false)
    (eta : event.after.storage.drainEta = event.before.storage.drainEta)
    (seq : event.after.storage.drainSeq = event.before.storage.drainSeq)
    (records : event.after.storage.drainRecord = event.before.storage.drainRecord) :
    Tracked (trace ++ [event]) event.after := by
  have undrained : drains event = false := by
    unfold drains settles at *
    split at still <;> simp_all
  have unscheduled : schedules event = false := by
    unfold schedules settles at *
    split at still <;> simp_all
  constructor
  · intro time found
    refine since_snoc.mpr (.inr ⟨by simp [still], tracked.pending time (eta ▸ found)⟩)
  · simpa [seq, undrained] using tracked.seq
  · rw [records, seq]
    exact tracked.numbered
  · simpa [eta, undrained, unscheduled] using tracked.covered

theorem Tracked.step {event : Event (State Ledger) (Label Ledger)}
    (tracked : Tracked trace event.before)
    (stepped : Step token event.before event.label event.after) :
    Tracked (trace ++ [event]) event.after := by
  obtain ⟨before, label, after⟩ := event
  change Step token before label after at stepped
  cases stepped with
  | elsewhere => exact tracked.quiet rfl rfl rfl rfl
  | @call env _ _ call done =>
      have covered := tracked.covered
      cases invoke_change done with
      | @scheduled delay paused delayed stored =>
          constructor
          · intro eta found
            obtain rfl : env.timestamp + delay = eta := by simpa [stored] using found
            exact since_snoc.mpr (.inl ⟨paused, Nat.add_le_add_left delayed _, delay, rfl, rfl⟩)
          · simpa [stored, drains] using tracked.seq
          · rw [stored]
            exact tracked.numbered
          · simp [stored, drains, schedules]
            omega
      | cancelled stored =>
          constructor
          · simp [stored]
          · simpa [stored, drains] using tracked.seq
          · rw [stored]
            exact tracked.numbered
          · simp [stored, drains, schedules]
            omega
      | executed paused positive paid pending ripe stored =>
          constructor
          · simp [stored]
          · simpa [stored, drains] using tracked.seq
          · rw [stored]
            exact tracked.numbered.append _
          · simp [stored, drains, schedules, pending] at covered ⊢
            omega
      | pausable stored =>
          exact tracked.quiet rfl (by rw [stored]) (by rw [stored]) (by rw [stored])

theorem Tracked.of_run (fresh : Fresh start.storage) (run : Run (Step token) start trace final) :
    Tracked trace final :=
  run.history (.of_fresh fresh) fun _ _ _ tracked stepped => tracked.step stepped

/-- A step alters no record that is there. -/
theorem record_kept {event : Event (State Ledger) (Label Ledger)} {number : Nat}
    {record : DrainRecord} (tracked : Tracked trace event.before)
    (stepped : Step token event.before event.label event.after)
    (found : event.before.storage.drainRecord number = some record) :
    event.after.storage.drainRecord number = some record := by
  obtain ⟨before, label, after⟩ := event
  change Step token before label after at stepped
  cases stepped with
  | elsewhere => exact found
  | call done =>
      cases invoke_change done with
      | scheduled _ _ stored | cancelled stored | pausable stored =>
          rw [stored]
          exact found
      | executed _ _ _ _ _ stored =>
          rw [stored]
          exact tracked.numbered.kept found

/-- What the history of the drains satisfies. -/
structure Disciplined (trace : List (Event (State Ledger) (Label Ledger)))
    (final : State Ledger) : Prop where
  /-- A drain is executed while the contract is paused and consumes the pending schedule,
  whose time has come; its record is the next one. -/
  drained : ∀ earlier event later, trace = earlier ++ event :: later →
    ∀ admin amount recipient treasury,
      event.label.act = .call (.executeDrain admin amount recipient treasury) →
        event.before.storage.pause.paused = true ∧
          ∃ eta, Pending eta earlier ∧ eta ≤ event.label.env.timestamp ∧
            event.after.storage.drainRecord (earlier.countP drains + 1) =
              some (drainRecordOf event.label.env (earlier.countP drains + 1) eta admin amount
                recipient)
  fewer : trace.countP drains ≤ trace.countP schedules
  numbered : Numbered final.storage.drainRecord (trace.countP drains)
  unaltered : ∀ number record,
    Lasting (fun state => state.storage.drainRecord number = some record) trace

/-- Every run that begins before the first schedule is disciplined. -/
theorem drains_disciplined (fresh : Fresh start.storage)
    (run : Run (Step token) start trace final) : Disciplined trace final where
  drained := by
    intro earlier event later position admin amount recipient treasury acts
    obtain ⟨reached, stepped, -⟩ := run.split position
    have tracked : Tracked earlier event.before := .of_run fresh reached
    obtain ⟨before, ⟨env, act⟩, after⟩ := event
    obtain rfl : act = _ := acts
    cases stepped with
    | call done =>
        cases invoke_change done with
        | @executed _ _ _ _ eta paused _ _ pending ripe stored =>
            refine ⟨paused, eta, tracked.pending eta pending, ripe, ?_⟩
            rw [← tracked.seq, stored]
            exact Function.update_self _ _ _
  fewer := by
    have covered := (Tracked.of_run fresh run).covered
    omega
  numbered := by
    have tracked := Tracked.of_run fresh run
    rw [← tracked.seq]
    exact tracked.numbered
  unaltered number record := by
    refine (run.lasting_iff _).mpr fun event member found => ?_
    obtain ⟨earlier, reached, stepped⟩ := run.reached_of_mem member
    exact record_kept (.of_run fresh reached) stepped found

end History

section Sample

/-- Everyone holds some of every token. -/
def sampleState : State ReferenceLedger where
  storage := .configured ⟨1⟩ ⟨9⟩
  ledger := .uniform 1000

/-- A drain is scheduled, scheduled anew and executed a day after. -/
def rescheduledDrain : List (Label ReferenceLedger) :=
  [ ⟨.signedByAll ⟨0⟩ 10, .call (.pausable (.pause ⟨1⟩))⟩,
    ⟨.signedByAll ⟨0⟩ 20, .call (.scheduleDrain 90000)⟩,
    ⟨.signedByAll ⟨0⟩ 30, .call (.scheduleDrain 86400)⟩,
    ⟨.signedByAll ⟨0⟩ 40, .call (.pausable (.unpause ⟨1⟩))⟩,
    ⟨.signedByAll ⟨0⟩ 86000, .call (.pausable (.pause ⟨1⟩))⟩,
    ⟨.signedByAll ⟨0⟩ 86430, .call (.executeDrain ⟨1⟩ 300 ⟨7⟩ ⟨7⟩)⟩ ]

theorem drains_disciplined_sample :
    ∃ trace final, Run (Step ReferenceLedger.token) sampleState trace final ∧
      trace.countP drains = 1 ∧ trace.countP schedules = 2 ∧
        Numbered final.storage.drainRecord (trace.countP drains) ∧
          (final.storage.drainRecord 1).map DrainRecord.scheduledEta = some 86430 := by
  have run : Run (Step ReferenceLedger.token) sampleState
      (record (next ReferenceLedger.token) sampleState rescheduledDrain)
      (rescheduledDrain.foldl (advance (next ReferenceLedger.token)) sampleState) :=
    run_of_record step_of_next (by decide +kernel)
  exact ⟨_, _, run, by decide +kernel, by decide +kernel,
    (drains_disciplined ⟨rfl, rfl, rfl⟩ run).numbered, by decide +kernel⟩

end Sample

end EmergencyDrain
