import CredenceContracts.Bond.Entries
import CredenceContracts.Bond.Linear
import Mathlib.Data.List.Nodup

/-!
# Salted requests

Callback contracts may call back, fail and be caught; still no request under a salt is
carried out twice, and only those carried out use their salts up.
-/

namespace CredenceBond

open Soroban Transition Reentrancy

variable {Ledger : Type} {ext : Externals Ledger} {env : Env}
variable {before after start final : State Ledger}

section Serial

/-- The key of the request that an action makes. -/
def Action.requestKey (ext : Externals Ledger) : Action Ledger → Option Bytes
  | .call _ invoked => invoked.requestKey ext
  | .aside _ => none

/-- An action aside does not touch the keys. -/
def Action.KeepsKeys : Action Ledger → Prop
  | .call _ _ => True
  | .aside other => ∀ state after, other.perform state = .ok after →
      after.storage.idempotencyKey = state.storage.idempotencyKey

/-- The keys of the requests that a schedule makes. -/
def requestKeys (ext : Externals Ledger) (schedule : List (Action Ledger)) : List Bytes :=
  schedule.filterMap (Action.requestKey ext)

variable {action : Action Ledger} {history : List (Event (State Ledger) (Action Ledger))}

theorem recorded_of_action (keeps : action.KeepsKeys)
    (done : SerialStep ext before action after) :
    KeyRecorded (action.requestKey ext) before.storage.idempotencyKey
      after.storage.idempotencyKey := by
  cases action with
  | aside other => exact keeps before after done
  | call env call =>
      exact (invoke_entries (guarded_silent ext env.currentContractAddress) done).2

/-- The keys in use are those from before and those of the requests that were made, each
of which was new. -/
structure UsedOnce (before after : Bytes → Bool) (keys : List Bytes) : Prop where
  once : keys.Nodup
  fresh : ∀ key ∈ keys, before key = false
  used : ∀ key, after key = true ↔ before key = true ∨ key ∈ keys

theorem UsedOnce.record {earlier middle later : Bytes → Bool} {keys : List Bytes}
    {key : Option Bytes} (usedOnce : UsedOnce earlier middle keys)
    (recorded : KeyRecorded key middle later) : UsedOnce earlier later (keys ++ key.toList) := by
  cases key with
  | none =>
      obtain rfl : later = middle := recorded
      simpa using usedOnce
  | some key =>
      obtain ⟨unused, rfl⟩ := recorded
      have new : ¬(earlier key = true ∨ key ∈ keys) := by
        rw [← usedOnce.used key, unused]
        decide
      obtain ⟨unknown, absent⟩ := not_or.mp new
      constructor
      · simpa using List.Nodup.concat absent usedOnce.once
      · intro other member
        rcases List.mem_append.mp member with old | last
        · exact usedOnce.fresh other old
        · rw [Option.mem_toList.mp last |> Option.some.inj |>.symm]
          simpa using unknown
      · intro other
        by_cases same : other = key
        · simp [same]
        · simp [same, usedOnce.used other]

theorem usedOnce_of_run (keeps : ∀ event ∈ history, event.label.KeepsKeys)
    (run : Run (SerialStep ext) start history final) :
    UsedOnce start.storage.idempotencyKey final.storage.idempotencyKey
      (requestKeys ext (history.map Event.label)) := by
  induction run with
  | nil => exact ⟨List.nodup_nil, by simp [requestKeys], by simp [requestKeys]⟩
  | @snoc trace before after action _ stepped ih =>
      have earlier := ih fun event member => keeps event (List.mem_append_left _ member)
      have recorded := recorded_of_action (keeps ⟨before, action, after⟩ (by simp)) stepped
      have keys : requestKeys ext (trace.map Event.label ++ [action]) =
          requestKeys ext (trace.map Event.label) ++ (action.requestKey ext).toList := by
        rw [requestKeys, List.filterMap_append]
        cases key : action.requestKey ext <;> simp [requestKeys, key]
      rw [List.map_append]
      exact keys ▸ earlier.record recorded

end Serial

section Runs

variable {trace : List (Event (State Ledger) (ReentrantLabel Ledger))}

/-- A call whose key is in use fails. -/
theorem used_fails {call : Call} {key : Bytes} (keyed : call.requestKey ext = some key)
    (used : before.storage.idempotencyKey key = true) :
    invoke ext env before call ≠ .ok after := by
  intro done
  cases call with
  | slashBond admin amount idempotencySalt =>
      obtain ⟨⟨_, _⟩, done, rfl⟩ := Outcome.map_eq_ok.mp done
      simp only [slashBond, Outcome.bind_eq_ok] at done
      obtain ⟨-, -, _, recorded, -⟩ := done
      exact recorded_unused recorded keyed used
  | collectFees admin idempotencySalt =>
      obtain ⟨⟨_, _⟩, done, rfl⟩ := Outcome.map_eq_ok.mp done
      simp only [collectFees, Outcome.bind_eq_ok] at done
      obtain ⟨-, -, _, recorded, -⟩ := done
      exact recorded_unused recorded keyed used
  | _ => cases keyed

/-- In a run with callbacks no request under a salt is carried out twice: the keys that are
in use are those from before and, each once, those of the requests carried out.  So a
request that failed may be made again, and one that was carried out fails from then on. -/
theorem requests_run_once
    (keeps : ∀ event ∈ trace, ∀ action ∈ scheduled ext event, action.KeepsKeys)
    (run : Run (ReentrantStep ext) start trace final) :
    UsedOnce start.storage.idempotencyKey final.storage.idempotencyKey
      (requestKeys ext (trace.flatMap (scheduled ext))) ∧
    ∀ env call key callback after, call.requestKey ext = some key →
      key ∈ requestKeys ext (trace.flatMap (scheduled ext)) →
      invoke (ext.notifying callback) env final call ≠ .ok after := by
  obtain ⟨history, serial, labels, keepsEach⟩ :=
    run_of_scheduled Action.KeepsKeys keeps run
  have usedOnce := usedOnce_of_run keepsEach serial
  rw [labels] at usedOnce
  refine ⟨usedOnce, ?_⟩
  intro env call key callback after keyed member
  have same : call.requestKey (ext.notifying callback) = some key := by
    cases call <;> exact keyed
  exact used_fails same ((usedOnce.used key).mpr (.inr member))

/-- The admin collects the fees under a salt; the callback contract, and later anyone,
asks for the same in vain. -/
theorem requests_run_once_sample :
    ∃ trace final, Run (ReentrantStep Externals.reference) feesSample trace final ∧
      final.storage.fees = 7 ∧
        ∀ env callback after, invoke (Externals.reference.notifying callback) env final
          (.collectFees ⟨1⟩ [9]) ≠ .ok after := by
  let label : ReentrantLabel ReferenceLedger :=
    ⟨.call (.signedByAll ⟨0⟩ 0) (.collectFees ⟨1⟩ [9]), greedy⟩
  obtain ⟨final, performed, left⟩ : ∃ final,
      label.action.perform Externals.reference (label.callbacks.answer Externals.reference)
        feesSample = .ok final ∧ final.storage.fees = 7 := ⟨_, rfl, rfl⟩
  have run : Run (ReentrantStep Externals.reference) feesSample [⟨feesSample, label, final⟩]
      final := .single (.done performed)
  have schedule : scheduled Externals.reference ⟨feesSample, label, final⟩ =
      [ .call (.signedByAll ⟨0⟩ 0) (.collectFees ⟨1⟩ [9]),
        .call (.signedByAll ⟨0⟩ 0) (.depositFees 7) ] := rfl
  have keeps : ∀ event ∈ [⟨feesSample, label, final⟩],
      ∀ action ∈ scheduled Externals.reference event, action.KeepsKeys := by
    simp [schedule, Action.KeepsKeys]
  obtain ⟨-, fails⟩ := requests_run_once keeps run
  refine ⟨_, final, run, left, fun env callback after => ?_⟩
  exact fails env _ (computeKey Externals.reference ⟨1⟩ "collect_fees" [9]) callback after rfl
    (by simp [schedule, requestKeys, Action.requestKey, Call.requestKey, saltedKey])

end Runs

end CredenceBond
