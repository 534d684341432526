import CredenceContracts.Bond.Lock
import CredenceContracts.Library.Reentrancy
import CredenceContracts.Library.Run

/-!
# Callbacks that call back

Three calls notify the callback contract after they have written everything but the
lock.  The callback can call the bond contract again, in any way that a finite program
can: what it achieves, it achieves as if it had been called after the notifying call.
-/

namespace CredenceBond

open Soroban MachineInt Transition Reentrancy
open Outcome (rejectIf unwrapOr)

/-- What the callback contract is told. -/
structure Notification where
  address : Address
  function : String
  argument : Int

/-- Another entry point of the contract, or anything outside it, that does the same
whether the lock is held or free. -/
structure Aside (Ledger : Type) where
  perform : State Ledger → Outcome (State Ledger)
  withLock : ∀ {state after : State Ledger} (locked : Bool), perform state = .ok after →
    perform (state.withLock locked) = .ok (after.withLock locked)

/-- What a callback does: it calls the contract, or something aside. -/
inductive Action (Ledger : Type) where
  | call (env : Env) (call : Call)
  | aside (aside : Aside Ledger)

variable {Ledger : Type}

def Action.guarded : Action Ledger → Bool
  | .call _ invoked => invoked.guarded
  | .aside _ => false

/-- A callback contract as a program for each notification. -/
abbrev Callbacks (Ledger : Type) : Type :=
  Notification → Program (Action Ledger) Notification (Outcome (State Ledger))

section Actions

variable (ext : Externals Ledger)

/-- The same externals with another callback contract. -/
def Externals.notifying (callback : Notification → State Ledger → Option (State Ledger)) :
    Externals Ledger :=
  { ext with
    callback := fun address function argument => callback ⟨address, function, argument⟩ }

def Action.perform (callback : Notification → State Ledger → Option (State Ledger)) :
    Action Ledger → State Ledger → Outcome (State Ledger)
  | .call env invoked, state => invoke (ext.notifying callback) env state invoked
  | .aside other, state => other.perform state

/-- The state after the program of a callback contract, unless it aborts. -/
def Callbacks.answer (callbacks : Callbacks Ledger) (notification : Notification)
    (told : State Ledger) : Option (State Ledger) :=
  ((callbacks notification).run (Action.perform ext) told).1

theorem discipline :
    Discipline (Action.perform ext) Action.guarded (fun state => state.storage.locked)
      State.withLock where
  found {callback action state after} guards performed := by
    cases action with
    | call env call => exact unlocked_of_guarded guards performed
    | aside aside => cases guards
  kept {callback action state after} unguarded performed := by
    cases action with
    | call env call => exact locked_of_unguarded unguarded performed
    | aside aside =>
        have again := aside.withLock state.storage.locked performed
        rw [State.withLock_self rfl] at again
        rw [Except.ok.inj (performed.symm.trans again)]
        rfl
  replaced {callback action state after} other lock unguarded performed := by
    cases action with
    | call env call =>
        have plain : invoke ext env state call = .ok after :=
          (invoke_callback unguarded).symm.trans performed
        exact (invoke_callback unguarded).trans (invoke_withLock unguarded plain)
    | aside aside => exact aside.withLock lock performed

end Actions

section Notifying

/-- The calls that notify the callback contract. -/
inductive NotifyingCall where
  | withdrawBond (identity : Address)
  | slashBond (admin : Address) (slashAmount : Int) (idempotencySalt : Bytes)
  | collectFees (admin : Address) (idempotencySalt : Bytes)

/-- What a call tells the callback contract, in which state, and what it returns. -/
structure Notice (Ledger : Type) where
  told : State Ledger
  function : String
  argument : Int
  returned : Int

variable (ext : Externals Ledger) (env : Env) (state : State Ledger)

def NotifyingCall.perform : NotifyingCall → Outcome (State Ledger × Int)
  | .withdrawBond identity => CredenceBond.withdrawBond ext env state identity
  | .slashBond admin slashAmount idempotencySalt =>
      CredenceBond.slashBond ext env state admin slashAmount idempotencySalt
  | .collectFees admin idempotencySalt =>
      CredenceBond.collectFees ext env state admin idempotencySalt

def NotifyingCall.toCall : NotifyingCall → Call
  | .withdrawBond identity => .withdrawBond identity
  | .slashBond admin slashAmount idempotencySalt =>
      .slashBond admin slashAmount idempotencySalt
  | .collectFees admin idempotencySalt => .collectFees admin idempotencySalt

theorem NotifyingCall.invoke_toCall (call : NotifyingCall) :
    invoke ext env state call.toCall = Prod.fst <$> call.perform ext env state := by
  cases call with
  | withdrawBond | slashBond | collectFees => rfl

theorem NotifyingCall.guarded_toCall (call : NotifyingCall) : call.toCall.guarded = true := by
  cases call with
  | withdrawBond | slashBond | collectFees => rfl

/-- What a call does before it notifies. -/
def NotifyingCall.prepare : NotifyingCall → Outcome (Notice Ledger)
  | .withdrawBond identity => do
      requireAuth env identity
      let storage ← acquireLock state.storage
      let bond ← ownedBond storage identity
      rejectIf (bond.active = false) (.contract .bondNotActive)
      requireNotice env bond (return ())
      let withdrawAmount := wrappingI128 bond.stake
      let storage := { storage with
        bond := some { bond with bondedAmount := 0, active := false } }
      assertSelfConsistent storage
      return ⟨state.store storage, "on_withdraw", withdrawAmount, withdrawAmount⟩
  | .slashBond admin slashAmount idempotencySalt => do
      requireAuth env admin
      let storage ← checkAndRecord ext state.storage admin "slash_bond" idempotencySalt
      let storage ← acquireLock storage
      requireStoredAdmin storage admin
      let bond ← unwrapOr storage.bond (.contract .bondNotFound)
      rejectIf (bond.active = false) (.contract .bondNotActive)
      let newSlashed := wrappingI128 (bond.slashedAmount + slashAmount)
      rejectIf (bond.bondedAmount < newSlashed) (.contract .slashExceedsBond)
      let storage := { storage with bond := some { bond with slashedAmount := newSlashed } }
      assertSelfConsistent storage
      return ⟨state.store storage, "on_slash", slashAmount, newSlashed⟩
  | .collectFees admin idempotencySalt => do
      requireAuth env admin
      let storage ← checkAndRecord ext state.storage admin "collect_fees" idempotencySalt
      let storage ← acquireLock storage
      requireStoredAdmin storage admin
      let fees := storage.fees
      return ⟨state.store { storage with fees := 0 }, "on_collect", fees, fees⟩

/-- What a call does from its notification on. -/
def Notice.conclude (notice : Notice Ledger) : Outcome (State Ledger × Int) := do
  let notified ← notify ext notice.told notice.function notice.argument
  return (notified.store (releaseLock notified.storage), notice.returned)

theorem NotifyingCall.perform_eq (call : NotifyingCall) :
    call.perform ext env state = call.prepare ext env state >>= Notice.conclude ext := by
  cases call with
  | withdrawBond identity =>
      simp only [perform, prepare, CredenceBond.withdrawBond, Notice.conclude, bind_assoc,
        pure_bind]
  | slashBond admin slashAmount idempotencySalt =>
      simp only [perform, prepare, CredenceBond.slashBond, Notice.conclude, bind_assoc, pure_bind]
  | collectFees admin idempotencySalt =>
      simp only [perform, prepare, CredenceBond.collectFees, Notice.conclude, bind_assoc, pure_bind]

end Notifying

section Serial

variable {ext : Externals Ledger} {env : Env} {state after : State Ledger} {amount : Int}
variable {notice : Notice Ledger} {callbacks : Callbacks Ledger}

/-- What the callback contract achieves when it is told, where one is registered. -/
def Notice.heard (ext : Externals Ledger) (callbacks : Callbacks Ledger)
    (notice : Notice Ledger) : List (Action Ledger) :=
  match notice.told.storage.callback with
  | none => []
  | some address =>
      ((callbacks ⟨address, notice.function, notice.argument⟩).run (Action.perform ext)
        notice.told).2

/-- What the callback contract achieves during a call. -/
def NotifyingCall.heard (ext : Externals Ledger) (callbacks : Callbacks Ledger) (env : Env)
    (state : State Ledger) (call : NotifyingCall) : List (Action Ledger) :=
  match call.prepare ext env state with
  | .ok notice => notice.heard ext callbacks
  | .error _ => []

/-- Where the call notifies, it holds the lock. -/
theorem NotifyingCall.prepare_locked {call : NotifyingCall}
    (prepared : call.prepare ext env state = .ok notice) :
    notice.told.storage.locked = true := by
  cases call with
  | withdrawBond identity =>
      simp only [prepare, Outcome.bind_eq_ok, acquireLock_eq_ok, Outcome.pure_eq_ok] at prepared
      obtain ⟨_, -, _, ⟨-, rfl⟩, _, -, _, -, _, -, _, -, rfl⟩ := prepared
      rfl
  | slashBond admin slashAmount idempotencySalt =>
      simp only [prepare, Outcome.bind_eq_ok, acquireLock_eq_ok, Outcome.pure_eq_ok] at prepared
      obtain ⟨_, -, _, -, _, ⟨-, rfl⟩, _, -, _, -, _, -, _, -, _, -, rfl⟩ := prepared
      rfl
  | collectFees admin idempotencySalt =>
      simp only [prepare, Outcome.bind_eq_ok, acquireLock_eq_ok, Outcome.pure_eq_ok] at prepared
      obtain ⟨_, -, _, -, _, ⟨-, rfl⟩, _, -, rfl⟩ := prepared
      rfl

theorem Notice.heard_unguarded (held : notice.told.storage.locked = true) :
    ∀ action ∈ notice.heard ext callbacks, action.guarded = false := by
  unfold Notice.heard
  cases notice.told.storage.callback with
  | none => simp
  | some address => exact (discipline ext).run_unguarded held

theorem Notice.conclude_silent (ext : Externals Ledger) (notice : Notice Ledger) :
    notice.conclude (ext.notifying silent) =
      .ok (notice.told.withLock false, notice.returned) := by
  unfold conclude notify
  cases notice.told.storage.callback with
  | none => rfl
  | some address => rfl

/-- What a callback contract achieves before the lock is released, it achieves after. -/
theorem Notice.conclude_serial (held : notice.told.storage.locked = true)
    (concluded : notice.conclude (ext.notifying (callbacks.answer ext)) = .ok (after, amount)) :
    amount = notice.returned ∧
      serial (Action.perform ext) (notice.heard ext callbacks) (notice.told.withLock false) =
        .ok after := by
  simp only [conclude, Outcome.bind_eq_ok, Outcome.pure_eq_ok, Prod.mk.injEq] at concluded
  obtain ⟨notified, told, rfl, rfl⟩ := concluded
  refine ⟨rfl, ?_⟩
  unfold notify at told
  unfold Notice.heard
  cases registered : notice.told.storage.callback with
  | none =>
      rw [registered] at told
      obtain rfl := Outcome.pure_eq_ok.mp told
      rfl
  | some address =>
      rw [registered] at told
      have answered := calling_eq_ok.mp told
      exact ((discipline ext).run_serial held answered).2 false

theorem NotifyingCall.heard_unguarded (call : NotifyingCall) :
    ∀ action ∈ call.heard ext callbacks env state, action.guarded = false := by
  unfold NotifyingCall.heard
  cases prepared : call.prepare ext env state with
  | error failure => simp
  | ok notice => exact notice.heard_unguarded (prepare_locked prepared)

/-- A call that a callback contract answers does what it does without an answer and
returns the same, and what the callback contract achieved comes after it. -/
theorem NotifyingCall.perform_serial {call : NotifyingCall}
    (performed : call.perform (ext.notifying (callbacks.answer ext)) env state =
      .ok (after, amount)) :
    ∃ between, call.perform (ext.notifying silent) env state = .ok (between, amount) ∧
      serial (Action.perform ext) (call.heard ext callbacks env state) between =
        .ok after := by
  rw [perform_eq] at performed
  obtain ⟨notice, prepared, concluded⟩ := Outcome.bind_eq_ok.mp performed
  have same : call.prepare ext env state = .ok notice := prepared
  obtain ⟨rfl, achieved⟩ := notice.conclude_serial (prepare_locked same) concluded
  refine ⟨notice.told.withLock false, ?_, ?_⟩
  · rw [perform_eq]
    exact Outcome.bind_eq_ok.mpr ⟨notice, prepared, notice.conclude_silent ext⟩
  · rw [heard, same]
    exact achieved

end Serial

section Runs

variable {ext : Externals Ledger} {start final : State Ledger}

/-- What is done at the top level, and the callback contract that answers. -/
structure ReentrantLabel (Ledger : Type) where
  action : Action Ledger
  callbacks : Callbacks Ledger

/-- The steps at the top level; one that fails is reverted. -/
inductive ReentrantStep (ext : Externals Ledger) :
    State Ledger → ReentrantLabel Ledger → State Ledger → Prop where
  | done {state after : State Ledger} {label : ReentrantLabel Ledger} :
      label.action.perform ext (label.callbacks.answer ext) state = .ok after →
      ReentrantStep ext state label after
  | reverted {state : State Ledger} {label : ReentrantLabel Ledger} {failure : Failure} :
      label.action.perform ext (label.callbacks.answer ext) state = .error failure →
      ReentrantStep ext state label state

theorem ReentrantStep.unlocked {before after : State Ledger} {label : ReentrantLabel Ledger}
    (stepped : ReentrantStep ext before label after) (free : before.storage.locked = false) :
    after.storage.locked = false := by
  cases stepped with
  | reverted failed => exact free
  | done performed =>
      cases guarded : label.action.guarded with
      | false => exact ((discipline ext).kept guarded performed).trans free
      | true =>
          obtain ⟨action, callbacks⟩ := label
          cases action with
          | call env call => exact released_of_guarded guarded performed
          | aside aside => cases guarded

/-- In every state that calls at the top level reach, whatever the callback contracts do
during them, the lock is free, whether the last call succeeded or was reverted.  During
a call of such a state no guarded call succeeds, and the call does what it does with no
answer and returns the same, and what the callback contract achieved comes after it. -/
theorem reentrant_callbacks_serialize
    {trace : List (Event (State Ledger) (ReentrantLabel Ledger))}
    (free : start.storage.locked = false)
    (run : Run (ReentrantStep ext) start trace final) :
    (∀ event ∈ trace, event.after.storage.locked = false) ∧
      ∀ (callbacks : Callbacks Ledger) (env : Env) (call : NotifyingCall),
        (∀ action ∈ call.heard ext callbacks env final, action.guarded = false) ∧
        ∀ after amount,
          call.perform (ext.notifying (callbacks.answer ext)) env final = .ok (after, amount) →
            after.storage.locked = false ∧
            ∃ between,
              call.perform (ext.notifying silent) env final = .ok (between, amount) ∧
                serial (Action.perform ext) (call.heard ext callbacks env final) between =
                  .ok after := by
  constructor
  · exact run.forall_after (fun _ => True) (fun state => state.storage.locked = false)
      (fun _ _ => trivial) free fun _ _ held stepped => stepped.unlocked held
  · intro callbacks env call
    refine ⟨call.heard_unguarded, fun after amount performed => ⟨?_, ?_⟩⟩
    · apply released_of_guarded call.guarded_toCall
      rw [call.invoke_toCall]
      exact Outcome.map_eq_ok.mpr ⟨_, performed, rfl⟩
    · exact NotifyingCall.perform_serial performed

end Runs

section Sample

/-- A contract with fees and a registered callback contract. -/
def feesSample : State ReferenceLedger :=
  bondSample.store { bondSample.storage with fees := 10, callback := some ⟨6⟩ }

/-- A callback contract that asks for the fees again, in vain, and then deposits some. -/
def greedy : Callbacks ReferenceLedger := fun _ =>
  .attempt (.call (.signedByAll ⟨0⟩ 0) (.collectFees ⟨1⟩ [])) (fun _ => .finish) fun _ =>
    .attempt (.call (.signedByAll ⟨0⟩ 0) (.depositFees 7)) (fun _ => .finish) fun _ => .finish

/-- The fees are paid out once, and the deposit comes after. -/
theorem reentrant_callbacks_serialize_sample :
    ∃ after between,
      collectFees (Externals.reference.notifying (greedy.answer Externals.reference))
        (.signedByAll ⟨0⟩ 0) feesSample ⟨1⟩ [] = .ok (after, 10) ∧
      collectFees (Externals.reference.notifying silent) (.signedByAll ⟨0⟩ 0) feesSample
        ⟨1⟩ [] = .ok (between, 10) ∧
      serial (Action.perform Externals.reference)
        (NotifyingCall.heard Externals.reference greedy (.signedByAll ⟨0⟩ 0) feesSample
          (.collectFees ⟨1⟩ [])) between = .ok after ∧
      after.storage.fees = 7 := by
  have run : Run (ReentrantStep Externals.reference) feesSample [] feesSample := .nil
  obtain ⟨-, serialize⟩ := reentrant_callbacks_serialize rfl run
  obtain ⟨-, between, alone, later⟩ := (serialize greedy (.signedByAll ⟨0⟩ 0)
    (.collectFees ⟨1⟩ [])).2 _ 10 rfl
  exact ⟨_, between, rfl, alone, later, rfl⟩

end Sample

end CredenceBond
