import CredenceContracts.Library.Firsts
import CredenceContracts.Library.Run
import CredenceContracts.Soroban.Host
import Mathlib.Logic.Function.Basic

/-!
# Idempotent transactions

The first transaction of an id runs its logic and stores the result, later ones of the same
caller are answered from the store.  A run is therefore one of the first transactions alone.
The logic is any that leaves the stored results to the handler.
-/

namespace IdempotentTransactions

open Soroban Transition Firsts

/-- Stored transaction result. -/
structure StoredResult where
  caller : Address
  result : Bytes
  timestamp : Nat
  deriving DecidableEq, Repr

inductive IdempotencyError where
  | duplicateDifferentCaller
  deriving DecidableEq, Repr

/-- The stored results and everything else that the logic reads and writes. -/
structure State (Rest : Type) where
  idempotent : BytesN 32 → Option StoredResult
  rest : Rest

variable {Rest : Type}

/-- A state in which no result was stored yet. -/
def State.fresh (rest : Rest) : State Rest where
  idempotent := fun _ => none
  rest

/-- A transaction and its logic. -/
structure Transaction (Rest : Type) where
  env : Env
  txId : BytesN 32
  caller : Address
  execute : Rest → Outcome (Rest × Bytes)

/-- Answer a transaction from the store, or execute it and store its result. -/
def handle (state : State Rest) (transaction : Transaction Rest) :
    Outcome (State Rest × Except IdempotencyError Bytes) :=
  match state.idempotent transaction.txId with
  | some existing =>
      if existing.caller ≠ transaction.caller then
        return (state, .error .duplicateDifferentCaller)
      else
        return (state, .ok existing.result)
  | none => do
      let (rest, result) ← transaction.execute state.rest
      let record : StoredResult := {
        caller := transaction.caller
        result
        timestamp := transaction.env.timestamp }
      return ({
        idempotent := Function.update state.idempotent transaction.txId (some record)
        rest }, .ok result)

/-- A transaction with the answer it got. -/
structure Handled (Rest : Type) where
  transaction : Transaction Rest
  answer : Except IdempotencyError Bytes

/-- The id of a handled transaction. -/
def Handled.txId (handled : Handled Rest) : BytesN 32 :=
  handled.transaction.txId

/-- The handler answers a transaction; one whose logic fails has no effect. -/
def Step (state : State Rest) (handled : Handled Rest) (after : State Rest) : Prop :=
  handle state handled.transaction = .ok (after, handled.answer)

/-- The logic of the transaction runs, and its result is the answer. -/
def Performs (rest : Rest) (handled : Handled Rest) (after : Rest) : Prop :=
  ∃ result, handled.transaction.execute rest = .ok (after, result) ∧ handled.answer = .ok result

section Deduplication

variable {state before after : State Rest} {handled : Handled Rest} {rest : Rest}
variable {trace earlier later : List (Event (State Rest) (Handled Rest))}
variable {event : Event (State Rest) (Handled Rest)}

/-- The first transaction of an id in the history. -/
def origin (txId : BytesN 32) (trace : List (Event (State Rest) (Handled Rest))) :
    Option (Handled Rest) :=
  first? Handled.txId txId (trace.map Event.label)

/-- The stored results are those of the first transactions of their ids. -/
structure Remembers (state : State Rest) (trace : List (Event (State Rest) (Handled Rest))) :
    Prop where
  absent : ∀ txId, state.idempotent txId = none → origin txId trace = none
  stored : ∀ txId existing, state.idempotent txId = some existing →
    ∃ first, origin txId trace = some first ∧ first.answer = .ok existing.result ∧
      first.transaction.caller = existing.caller

/-- How a transaction is answered after a history: by its logic where it is the first of its
id, and else without any effect, with the first answer for the first caller and with an
error for everyone else. -/
inductive Answered (earlier : List (Event (State Rest) (Handled Rest)))
    (event : Event (State Rest) (Handled Rest)) : Prop where
  | performed : origin event.label.txId earlier = none →
      Performs event.before.rest event.label event.after.rest → Answered earlier event
  | repeated {first : Handled Rest} : origin event.label.txId earlier = some first →
      event.after = event.before →
      event.label.answer =
        (if first.transaction.caller = event.label.transaction.caller then first.answer
        else .error .duplicateDifferentCaller) →
      Answered earlier event

theorem origin_snoc {txId : BytesN 32} :
    origin txId (trace ++ [event]) =
      (origin txId trace).or (if event.label.txId = txId then some event.label else none) := by
  simp only [origin, List.map_append, List.map_singleton, first?_snoc]

/-- A handled transaction was performed, and its result stored under its id, or was answered
from the store. -/
theorem step_cases (stepped : Step before handled after) :
    (before.idempotent handled.txId = none ∧ Performs before.rest handled after.rest ∧
      ∃ result, handled.answer = .ok result ∧ after.idempotent =
        Function.update before.idempotent handled.txId (some {
          caller := handled.transaction.caller
          result
          timestamp := handled.transaction.env.timestamp })) ∨
    (∃ existing, before.idempotent handled.txId = some existing ∧ after = before ∧
      handled.answer = if existing.caller = handled.transaction.caller then .ok existing.result
        else .error .duplicateDifferentCaller) := by
  unfold Step handle at stepped
  split at stepped
  · rename_i existing found
    refine .inr ⟨existing, found, ?_⟩
    split at stepped <;> rename_i caller <;>
      obtain ⟨same, answer⟩ := Prod.mk.inj (Outcome.pure_eq_ok.mp stepped)
    · exact ⟨same, by rw [answer, if_neg caller]⟩
    · exact ⟨same, by rw [answer, if_pos (not_ne_iff.mp caller)]⟩
  · rename_i missing
    simp only [Outcome.bind_eq_ok, Outcome.pure_eq_ok, Prod.mk.injEq] at stepped
    obtain ⟨⟨rest, result⟩, executed, rfl, answer⟩ := stepped
    exact .inl ⟨missing, ⟨result, executed, answer⟩, result, answer, rfl⟩

theorem remembers_fresh : Remembers (State.fresh rest) [] :=
  ⟨fun _ _ => rfl, nofun⟩

/-- What is stored follows the first transactions of their ids. -/
theorem Remembers.step (remembers : Remembers before trace)
    (stepped : Step before handled after) :
    Remembers after (trace ++ [⟨before, handled, after⟩]) := by
  rcases step_cases stepped with ⟨missing, -, result, answer, stored⟩ | ⟨existing, found, rfl, -⟩
  · have unknown := remembers.absent _ missing
    constructor
    · intro txId none
      rw [stored] at none
      by_cases same : txId = handled.txId
      · simp [same] at none
      · rw [Function.update_of_ne same] at none
        simp [origin_snoc, remembers.absent txId none, Ne.symm same]
    · intro txId existing found
      rw [stored] at found
      by_cases same : txId = handled.txId
      · subst same
        rw [Function.update_self, Option.some_inj] at found
        subst found
        exact ⟨handled, by simp [origin_snoc, unknown], answer, rfl⟩
      · rw [Function.update_of_ne same] at found
        obtain ⟨first, known, told⟩ := remembers.stored txId existing found
        exact ⟨first, by simp [origin_snoc, known], told⟩
  · constructor
    · intro txId none
      have other : handled.txId ≠ txId := by
        rintro rfl
        cases found.symm.trans none
      simp [origin_snoc, remembers.absent txId none, other]
    · intro txId other held
      obtain ⟨first, known, told⟩ := remembers.stored txId other held
      exact ⟨first, by simp [origin_snoc, known], told⟩

theorem remembers_of_run (run : Run Step (.fresh rest) trace state) : Remembers state trace :=
  run.history (motive := fun trace state => Remembers state trace) remembers_fresh
    fun _ _ _ remembers stepped => remembers.step stepped

/-- After any history a transaction is answered as the first of its id was. -/
theorem Remembers.answered (remembers : Remembers event.before earlier)
    (stepped : Step event.before event.label event.after) : Answered earlier event := by
  rcases step_cases stepped with ⟨missing, performs, -⟩ | ⟨existing, found, same, answer⟩
  · exact .performed (remembers.absent _ missing) performs
  · obtain ⟨first, known, told, caller⟩ := remembers.stored _ existing found
    exact .repeated known same (by rw [answer, told, caller])

/-- A run of the handler is a run of the first transactions alone. -/
theorem performs_of_run (run : Run Step (.fresh rest) trace state) :
    ∃ history, Run Performs rest history state.rest ∧
      history.map Event.label = firsts Handled.txId (trace.map Event.label) := by
  apply run.history (motive := fun trace state => ∃ history,
    Run Performs rest history state.rest ∧
      history.map Event.label = firsts Handled.txId (trace.map Event.label))
  · exact ⟨[], .nil, rfl⟩
  · rintro trace ⟨before, handled, after⟩ reached ⟨history, performed, labels⟩ stepped
    have remembers := remembers_of_run reached
    rw [List.map_append, List.map_singleton, firsts_snoc]
    rcases step_cases stepped with ⟨missing, performs, -⟩ | ⟨existing, found, same, -⟩
    · have unknown := first?_eq_none.mp (remembers.absent _ missing)
      rw [if_neg unknown, ← labels]
      exact ⟨_, performed.snoc performs, by simp⟩
    · obtain ⟨first, known, -⟩ := remembers.stored _ existing found
      have old : handled.txId ∈ (trace.map Event.label).map Handled.txId := by
        by_contra unknown
        rw [origin, first?_eq_none.mpr unknown] at known
        cases known
      obtain rfl : after = before := same
      rw [if_pos old]
      exact ⟨history, performed, labels⟩

/-- However often transactions are submitted, by whom and in which order, everything but the
stored results evolves as if only the first transaction of each id had been; and each
transaction gets the answer of the first one of its id, or an error for another caller. -/
theorem transactions_deduplicated (run : Run Step (.fresh rest) trace state) :
    (∃ history, Run Performs rest history state.rest ∧
      history.map Event.label = firsts Handled.txId (trace.map Event.label) ∧
        ((history.map Event.label).map Handled.txId).Nodup) ∧
      ∀ earlier event later, trace = earlier ++ event :: later → Answered earlier event := by
  constructor
  · obtain ⟨history, performed, labels⟩ := performs_of_run run
    exact ⟨history, performed, labels, labels ▸ nodup_kinds_firsts⟩
  · intro earlier event later position
    obtain ⟨reached, stepped, -⟩ := run.split position
    exact (remembers_of_run reached).answered stepped

section Sample

/-- A transaction that adds to a sum and returns what was added. -/
def sampleTransaction (caller : Address) (amount : Nat) : Transaction Nat where
  env := .signedByAll ⟨0⟩ 5
  txId := Vector.replicate 32 9
  caller
  execute sum := .ok (sum + amount, [amount.toUInt8])

/-- One transaction is submitted again by its caller, with another amount, and by a
stranger. -/
theorem transactions_deduplicated_sample :
    ∃ trace state, Run Step (.fresh 0) trace state ∧ trace.length = 3 ∧ state.rest = 7 ∧
      ∃ history, Run Performs 0 history state.rest ∧ history.length = 1 := by
  obtain ⟨once, twice, thrice, first, second, third, sum⟩ : ∃ once twice thrice,
      handle (.fresh 0) (sampleTransaction ⟨1⟩ 7) = .ok (once, .ok [7]) ∧
        handle once (sampleTransaction ⟨1⟩ 8) = .ok (twice, .ok [7]) ∧
        handle twice (sampleTransaction ⟨2⟩ 9) =
          .ok (thrice, .error .duplicateDifferentCaller) ∧ thrice.rest = 7 :=
    ⟨_, _, _, rfl, rfl, rfl, rfl⟩
  have executed : Step (.fresh 0) ⟨sampleTransaction ⟨1⟩ 7, .ok [7]⟩ once := first
  have repeated : Step once ⟨sampleTransaction ⟨1⟩ 8, .ok [7]⟩ twice := second
  have refused : Step twice
      ⟨sampleTransaction ⟨2⟩ 9, .error .duplicateDifferentCaller⟩ thrice := third
  have run := ((Run.nil.snoc executed).snoc repeated).snoc refused
  obtain ⟨⟨history, performed, labels, -⟩, -⟩ := transactions_deduplicated run
  refine ⟨_, thrice, run, rfl, sum, history, performed, ?_⟩
  rw [← List.length_map Event.label, labels]
  rfl

end Sample

end Deduplication

end IdempotentTransactions
