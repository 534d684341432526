import CredenceContracts.Bond.Entries
import CredenceContracts.Bond.Linear
import Mathlib.Data.Int.ModEq
import Mathlib.Algebra.BigOperators.Group.List.Basic
import Mathlib.Tactic.Ring

/-!
# The fee pool

Anyone adds to the pool and the admin empties it.  Callback contracts may add to it while
it is being emptied; still the pool holds what was added less what was returned, modulo
the range of its word.
-/

namespace CredenceBond

open Soroban MachineInt Transition Reentrancy

variable {Ledger : Type} {ext : Externals Ledger} {self : Address} {env : Env}
variable {before after start final : State Ledger}

section Pool

/-- The admin gets what the pool held. -/
theorem collectFees_returned {admin : Address} {idempotencySalt : Bytes} {fees : Int}
    (done : collectFees ext env before admin idempotencySalt = .ok (after, fees)) :
    fees = before.storage.fees := by
  simp only [collectFees, Outcome.bind_eq_ok, acquireLock_eq_ok, Outcome.pure_eq_ok,
    Prod.mk.injEq] at done
  obtain ⟨_, -, _, recorded, _, ⟨-, rfl⟩, _, -, _, -, -, rfl⟩ := done
  obtain ⟨_, rfl⟩ := checkAndRecord_ok recorded
  rfl

end Pool

section Words

variable {value exact : Int}

theorem wrappingI128_modEq : wrappingI128 exact ≡ exact [ZMOD 2 ^ 128] := by
  unfold Int.ModEq wrappingI128
  omega

theorem fits_wrappingI128 : FitsI128 (wrappingI128 exact) := by
  unfold FitsI128 wrappingI128
  omega

/-- A word is what it is congruent to, wrapped. -/
theorem eq_wrappingI128 (fits : FitsI128 value) (same : value ≡ exact [ZMOD 2 ^ 128]) :
    value = wrappingI128 exact := by
  unfold Int.ModEq at same
  unfold FitsI128 at fits
  unfold wrappingI128
  omega

end Words

section Actions

/-- What a call adds to the pool. -/
def Call.deposits : Call → Int
  | .depositFees amount => amount
  | _ => 0

/-- What an action adds to the pool. -/
def Action.deposits : Action Ledger → Int
  | .call _ invoked => invoked.deposits
  | .aside _ => 0

/-- What the actions of a schedule add to the pool. -/
def deposited (schedule : List (Action Ledger)) : Int :=
  (schedule.map Action.deposits).sum

/-- An action aside does not touch the pool. -/
def Action.KeepsFees : Action Ledger → Prop
  | .call _ _ => True
  | .aside other => ∀ state after, other.perform state = .ok after →
      after.storage.fees = state.storage.fees

/-- The call empties the pool. -/
def Call.empties : Call → Bool
  | .collectFees .. => true
  | _ => false

def Action.empties : Action Ledger → Bool
  | .call _ invoked => invoked.empties
  | .aside _ => false

variable {action : Action Ledger} {schedule : List (Action Ledger)}

theorem Action.empties_of_unguarded (unguarded : action.guarded = false) :
    action.empties = false := by
  cases action with
  | aside other => rfl
  | call env call =>
      cases call with
      | collectFees => cases unguarded
      | _ => rfl

theorem Call.poolAfter_modEq {call : Call} {fees : Int} (fills : call.empties = false) :
    call.poolAfter fees ≡ fees + call.deposits [ZMOD 2 ^ 128] := by
  cases call with
  | depositFees amount => exact wrappingI128_modEq
  | collectFees => cases fills
  | _ => simp [Call.poolAfter, Call.deposits]

/-- An action that does not empty the pool adds to it. -/
theorem fees_of_filling (keeps : action.KeepsFees) (fills : action.empties = false)
    (done : action.perform ext silent before = .ok after) :
    after.storage.fees ≡ before.storage.fees + action.deposits [ZMOD 2 ^ 128] := by
  cases action with
  | aside other =>
      rw [keeps before after done]
      simp [Action.deposits]
  | call env call =>
      rw [(invoke_entries (guarded_silent ext env.currentContractAddress) done).1]
      exact Call.poolAfter_modEq fills

theorem fees_of_serial (keeps : ∀ action ∈ schedule, action.KeepsFees)
    (fills : ∀ action ∈ schedule, action.empties = false)
    (done : serial (Action.perform ext) schedule start = .ok final) :
    final.storage.fees ≡ start.storage.fees + deposited schedule [ZMOD 2 ^ 128] := by
  induction schedule generalizing start with
  | nil =>
      obtain rfl := Outcome.pure_eq_ok.mp done
      simp [deposited]
  | cons action rest ih =>
      rw [serial, List.foldlM_cons] at done
      obtain ⟨middle, first, remaining⟩ := Outcome.bind_eq_ok.mp done
      obtain ⟨keepsFirst, keepsRest⟩ := List.forall_mem_cons.mp keeps
      obtain ⟨fillsFirst, fillsRest⟩ := List.forall_mem_cons.mp fills
      have here := fees_of_filling keepsFirst fillsFirst first
      have later := ih keepsRest fillsRest remaining
      rw [deposited, List.map_cons, List.sum_cons, ← add_assoc]
      exact later.trans (here.add_right _)

/-- Every action leaves a word in the pool. -/
theorem fits_of_action (keeps : action.KeepsFees)
    (done : action.perform ext silent before = .ok after)
    (fits : FitsI128 before.storage.fees) : FitsI128 after.storage.fees := by
  cases action with
  | aside other =>
      rw [keeps before after done]
      exact fits
  | call env call =>
      rw [(invoke_entries (guarded_silent ext env.currentContractAddress) done).1]
      cases call with
      | depositFees amount => exact fits_wrappingI128
      | collectFees admin idempotencySalt => exact FitsI128.zero
      | _ => exact fits

theorem fits_of_serial (keeps : ∀ action ∈ schedule, action.KeepsFees)
    (done : serial (Action.perform ext) schedule start = .ok final)
    (fits : FitsI128 start.storage.fees) : FitsI128 final.storage.fees := by
  induction schedule generalizing start with
  | nil =>
      obtain rfl := Outcome.pure_eq_ok.mp done
      exact fits
  | cons action rest ih =>
      rw [serial, List.foldlM_cons] at done
      obtain ⟨middle, first, remaining⟩ := Outcome.bind_eq_ok.mp done
      obtain ⟨keepsFirst, keepsRest⟩ := List.forall_mem_cons.mp keeps
      exact ih keepsRest remaining (fits_of_action keepsFirst first fits)

end Actions

section Runs

variable {label : ReentrantLabel Ledger}
variable {trace : List (Event (State Ledger) (ReentrantLabel Ledger))}

/-- The fees that an event returns to the admin. -/
def returnedFees (ext : Externals Ledger)
    (event : Event (State Ledger) (ReentrantLabel Ledger)) : Int :=
  match event.label.action with
  | .call env (.collectFees admin idempotencySalt) =>
      match collectFees (ext.notifying (event.label.callbacks.answer ext)) env event.before admin
          idempotencySalt with
      | .ok (_, fees) => fees
      | .error _ => 0
  | _ => 0

/-- Where it empties the pool, an action returns what the pool held and leaves none of it. -/
theorem fees_of_emptying {middle : State Ledger} (empties : label.action.empties = true)
    (performed : label.action.perform ext (label.callbacks.answer ext) before = .ok after)
    (alone : label.action.perform ext silent before = .ok middle) :
    middle.storage.fees = 0 ∧ returnedFees ext ⟨before, label, after⟩ = before.storage.fees ∧
      label.action.deposits = 0 := by
  obtain ⟨action, callbacks⟩ := label
  cases action with
  | aside other => cases empties
  | call env call =>
      cases call with
      | collectFees admin idempotencySalt =>
          have silently : invoke (ext.notifying silent) env before
              (.collectFees admin idempotencySalt) = .ok middle := alone
          have entries := invoke_entries (guarded_silent ext env.currentContractAddress) silently
          refine ⟨entries.1, ?_, rfl⟩
          obtain ⟨⟨_, fees⟩, done, -⟩ := Outcome.map_eq_ok.mp performed
          simp only [returnedFees, done]
          exact collectFees_returned done
      | _ => cases empties

theorem returnedFees_of_filling (fills : label.action.empties = false) :
    returnedFees ext ⟨before, label, after⟩ = 0 := by
  obtain ⟨action, callbacks⟩ := label
  cases action with
  | aside other => rfl
  | call env call =>
      cases call with
      | collectFees => cases fills
      | _ => rfl

theorem returnedFees_of_reverted {failure : Failure}
    (failed : label.action.perform ext (label.callbacks.answer ext) before = .error failure) :
    returnedFees ext ⟨before, label, after⟩ = 0 := by
  obtain ⟨action, callbacks⟩ := label
  cases action with
  | aside other => rfl
  | call env call =>
      cases call with
      | collectFees admin idempotencySalt =>
          simp only [returnedFees, Outcome.map_eq_error.mp failed]
      | _ => rfl

/-- A step adds what its schedule adds and takes out what it returns. -/
theorem fees_of_step
    (keeps : ∀ action ∈ scheduled ext ⟨before, label, after⟩, action.KeepsFees)
    (stepped : ReentrantStep ext before label after) :
    after.storage.fees + returnedFees ext ⟨before, label, after⟩ ≡
      before.storage.fees + deposited (scheduled ext ⟨before, label, after⟩)
        [ZMOD 2 ^ 128] := by
  cases stepped with
  | reverted failed =>
      rw [returnedFees_of_reverted failed]
      simp [scheduled, failed, deposited]
  | done performed =>
      have parts : scheduled ext ⟨before, label, after⟩ =
          label.action :: label.heard ext before := by simp only [scheduled, performed]
      have followed := perform_serial performed
      rw [serial, List.foldlM_cons] at followed
      obtain ⟨middle, alone, later⟩ := Outcome.bind_eq_ok.mp followed
      rw [parts] at keeps ⊢
      obtain ⟨keepsFirst, keepsRest⟩ := List.forall_mem_cons.mp keeps
      have during := fees_of_serial keepsRest
        (fun action heard => Action.empties_of_unguarded
          (ReentrantLabel.heard_unguarded action heard)) later
      rw [deposited, List.map_cons, List.sum_cons, ← deposited]
      cases empties : label.action.empties with
      | true =>
          obtain ⟨emptied, returned, nothing⟩ := fees_of_emptying empties performed alone
          rw [returned, nothing, zero_add, add_comm]
          exact (during.trans (by rw [emptied, zero_add])).add_left _
      | false =>
          rw [returnedFees_of_filling empties, add_zero, ← add_assoc]
          exact during.trans ((fees_of_filling keepsFirst empties alone).add_right _)

/-- In every run with callback contracts, whatever they do during the calls, the pool holds
what was added to it, during calls and between them, less what the admin got, wrapped to
its word. -/
theorem fees_conserved (fits : FitsI128 start.storage.fees)
    (keeps : ∀ event ∈ trace, ∀ action ∈ scheduled ext event, action.KeepsFees)
    (run : Run (ReentrantStep ext) start trace final) :
    final.storage.fees = wrappingI128 (start.storage.fees +
      deposited (trace.flatMap (scheduled ext)) - (trace.map (returnedFees ext)).sum) := by
  have kept : ∀ action ∈ trace.flatMap (scheduled ext), action.KeepsFees := by
    intro action member
    obtain ⟨event, occurred, inside⟩ := List.mem_flatMap.mp member
    exact keeps event occurred action inside
  have fitsFinal := fits_of_serial kept (reentrant_runs_linearize run).1 fits
  have sums : final.storage.fees + (trace.map (returnedFees ext)).sum ≡
      start.storage.fees + deposited (trace.flatMap (scheduled ext)) [ZMOD 2 ^ 128] := by
    clear fitsFinal kept
    induction run with
    | nil => simp [deposited]
    | @snoc trace before after label _ stepped ih =>
        have earlier := ih fun event member => keeps event (List.mem_append_left _ member)
        have last := fees_of_step (keeps _ (by simp)) stepped
        have total := earlier.add last
        rw [List.map_append, List.sum_append, List.map_singleton, List.sum_singleton,
          List.flatMap_append, List.flatMap_singleton, deposited, List.map_append,
          List.sum_append, ← deposited, ← deposited]
        refine Int.ModEq.add_right_cancel' before.storage.fees ?_
        convert total using 1 <;> ring
  apply eq_wrappingI128 fitsFinal
  simpa using sums.sub_right (trace.map (returnedFees ext)).sum

/-- The fees are collected while the callback contract asks for them again, in vain, and
deposits some. -/
theorem fees_conserved_sample :
    ∃ trace final, Run (ReentrantStep Externals.reference) feesSample trace final ∧
      (trace.map (returnedFees Externals.reference)).sum = 10 ∧
        final.storage.fees = wrappingI128 (10 + 7 - 10) := by
  obtain ⟨final, run⟩ := greedy_run
  refine ⟨_, final, run, rfl, ?_⟩
  refine (fees_conserved (by decide) ?_ run).trans rfl
  intro event member action inside
  obtain rfl := List.mem_singleton.mp member
  rw [scheduled_greedy, greedySchedule] at inside
  rcases List.mem_cons.mp inside with rfl | last
  · trivial
  · obtain rfl := List.mem_singleton.mp last
    trivial

end Runs

end CredenceBond
