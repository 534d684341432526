import CredenceContracts.Bond.EarlyExit

/-!
# Splitting an early exit

Exits at one time lower the bond and leave its terms alone, so that each of them is
charged as if it were the first.  As long as the penalty of the whole amount fits, the
pieces bear together what the whole would, or less by two units at most for each cut.
-/

namespace CredenceBond

open Soroban Transition

variable {Ledger : Type}

/-- The event is an early exit at the time. -/
def ExitsAt (now : Nat) (event : Event (State Ledger) Label) : Prop :=
  event.label.env.timestamp = now ∧
    ∃ identity amount, event.label.act = .call (.withdrawEarly identity amount)

/-- The amount of an early exit. -/
def Act.exitAmount : Act → Option Int
  | .call (.withdrawEarly _ amount) => some amount
  | _ => none

/-- The amounts of the early exits of a history. -/
def exitAmounts (trace : List (Event (State Ledger) Label)) : List Int :=
  trace.filterMap fun event => event.label.act.exitAmount

/-- The bond was left with the amounts one after another, all at one time, and every
amount was charged as it would have been first. -/
structure Exited (now : Nat) (bond : IdentityBond) (config : EarlyExitConfig)
    (start state : State Ledger) (amounts : List Int) : Prop where
  lowered : state.storage.bond =
    some { bond with bondedAmount := bond.bondedAmount - amounts.sum }
  configured : state.storage.earlyExitConfig = some config
  nonneg : ∀ amount ∈ amounts, 0 ≤ amount
  charged : penalties state.storage.events = penalties start.storage.events ++
    amounts.map
      (calculatePenalty · (bond.remaining now) bond.bondDuration config.penaltyBps)

section Exits

variable {ext : Externals Ledger} {self : Address} {env : Env} {now : Nat}
variable {start before after final : State Ledger} {bond : IdentityBond}
variable {config : EarlyExitConfig} {identity : Address} {amount : Int} {amounts : List Int}
variable {trace : List (Event (State Ledger) Label)}

theorem exited_start (found : start.storage.bond = some bond)
    (configured : start.storage.earlyExitConfig = some config) :
    Exited now bond config start start [] where
  lowered := by simpa using found
  configured := configured
  nonneg := by simp
  charged := by simp

theorem Exited.snoc (exited : Exited now bond config start before amounts)
    (clock : env.timestamp = now)
    (done : withdrawEarly ext env before identity amount = .ok after) :
    Exited now bond config start after (amounts ++ [amount]) := by
  obtain ⟨found, configured, nonneg, charged⟩ := exited
  have published := withdrawEarly_penalties done found configured
  obtain ⟨other, _, _, stored, -, _, -, low, high, -, -, frame⟩ := withdrawEarly_ok done
  obtain rfl := Option.some.inj (found.symm.trans stored)
  constructor
  · rw [frame]
    simp [sub_sub]
  · rw [frame]
    exact configured
  · intro piece member
    rcases List.mem_append.mp member with earlier | last
    · exact nonneg piece earlier
    · rw [List.mem_singleton.mp last]
      exact low.trans high
  · rw [published, charged, List.map_append, List.append_assoc, ← clock]
    rfl

/-- The events of a run of early exits at one time, one for each amount. -/
theorem exited_of_run (found : start.storage.bond = some bond)
    (configured : start.storage.earlyExitConfig = some config)
    (run : Run (Step ext self) start trace final)
    (exits : ∀ event ∈ trace, ExitsAt now event) :
    Exited now bond config start final (exitAmounts trace) ∧
      (exitAmounts trace).length = trace.length := by
  refine run.history (motive := fun trace state => (∀ event ∈ trace, ExitsAt now event) →
    Exited now bond config start state (exitAmounts trace) ∧
      (exitAmounts trace).length = trace.length)
    (fun _ => ⟨exited_start found configured, rfl⟩) ?_ exits
  intro trace event _ ih stepped every
  obtain ⟨exited, counted⟩ := ih fun past member => every past (List.mem_append_left _ member)
  obtain ⟨clock, identity, amount, called⟩ := every event (by simp)
  have amounts : exitAmounts (trace ++ [event]) = exitAmounts trace ++ [amount] := by
    simp [exitAmounts, called, Act.exitAmount]
  rw [amounts]
  exact ⟨exited.snoc clock (stepped.called called).2, by simp [counted]⟩

end Exits

section Splitting

variable (ext : Externals Ledger) (self : Address) (state : State Ledger)

/-- What is gained by splitting one early exit into a history of exits is the rounding:
two units at most for each cut, and never less than nothing. -/
def GainsRounding (split whole : State Ledger)
    (trace : List (Event (State Ledger) Label)) : Prop :=
  ∃ pieces penalty, penalties split.storage.events = penalties state.storage.events ++ pieces ∧
    penalties whole.storage.events = penalties state.storage.events ++ [penalty] ∧
      pieces.sum ≤ penalty ∧ penalty ≤ pieces.sum + 2 * (trace.length - 1)

/-- Two penalties together are the penalty of the sum, or less by two units at most, and
an early exit that is split into several at the same time gains no more than that for
each cut. -/
theorem splitting_gains_rounding :
    (∀ {first second : Int} {remaining duration penaltyBps : Nat}, 0 ≤ first → 0 ≤ second →
      0 < duration → remaining ≤ duration → PenaltyFits (first + second) remaining penaltyBps →
        calculatePenalty first remaining duration penaltyBps +
            calculatePenalty second remaining duration penaltyBps ≤
          calculatePenalty (first + second) remaining duration penaltyBps ∧
        calculatePenalty (first + second) remaining duration penaltyBps ≤
          calculatePenalty first remaining duration penaltyBps +
            calculatePenalty second remaining duration penaltyBps + 2) ∧
    ∀ {bond : IdentityBond} {config : EarlyExitConfig} {env : Env} {split whole : State Ledger}
      {trace : List (Event (State Ledger) Label)}, state.storage.bond = some bond →
        state.storage.earlyExitConfig = some config → 0 < bond.bondDuration →
          bond.remaining env.timestamp ≤ bond.bondDuration →
            PenaltyFits (exitAmounts trace).sum (bond.remaining env.timestamp)
              config.penaltyBps →
      Run (Step ext self) state trace split → trace ≠ [] →
        (∀ event ∈ trace, ExitsAt env.timestamp event) →
          withdrawEarly ext env state bond.identity (exitAmounts trace).sum = .ok whole →
            GainsRounding state split whole trace := by
  constructor
  · intro first second remaining duration penaltyBps firstNonneg secondNonneg positive within fits
    have both : ∀ piece ∈ [first, second], 0 ≤ piece := by
      simp [firstNonneg, secondNonneg]
    have total : [first, second].sum = first + second := by
      simp
    have pieces := calculatePenalty_sum_bounds positive within (List.cons_ne_nil _ _) both
      (total ▸ fits)
    simpa using pieces
  · intro bond config env split whole trace found configured positive within fits run cut exits
      done
    obtain ⟨exited, counted⟩ := exited_of_run found configured run exits
    have several : exitAmounts trace ≠ [] := by
      intro none
      rw [none, List.length_nil] at counted
      exact cut (List.length_eq_zero_iff.mp counted.symm)
    refine ⟨_, _, exited.charged, withdrawEarly_penalties done found configured, ?_⟩
    rw [← counted]
    exact calculatePenalty_sum_bounds positive within several exited.nonneg fits

end Splitting

section Sample

/-- Thirty-nine units leave early, after twenty of sixty seconds. -/
def smallExit : Label where
  env := .signedBy ⟨5⟩ ⟨0⟩ 20
  act := .call (.withdrawEarly ⟨5⟩ 39)

/-- Two penalties of nothing, where both amounts together would have borne two units. -/
theorem splitting_gains_rounding_sample :
    calculatePenalty 39 40 60 500 + calculatePenalty 39 40 60 500 ≤
        calculatePenalty 78 40 60 500 ∧
      ∃ trace split whole, Run (Step Externals.reference ⟨0⟩) (wealthyBonded 60) trace split ∧
        trace.length = 2 ∧ withdrawEarly Externals.reference (.signedBy ⟨5⟩ ⟨0⟩ 20)
            (wealthyBonded 60) ⟨5⟩ 78 = .ok whole ∧
          penalties split.storage.events = [0, 0] ∧ penalties whole.storage.events = [2] ∧
            GainsRounding (wealthyBonded 60) split whole trace := by
  have found : (wealthyBonded 60).storage.bond = some (wealthyBond 60) := by
    decide +kernel
  have run : Run (Step Externals.reference ⟨0⟩) (wealthyBonded 60)
      (record (next Externals.reference ⟨0⟩) (wealthyBonded 60) [smallExit, smallExit])
      ([smallExit, smallExit].foldl (advance (next Externals.reference ⟨0⟩))
        (wealthyBonded 60)) :=
    run_of_record step_of_next (by decide +kernel)
  have succeeds : (withdrawEarly Externals.reference (.signedBy ⟨5⟩ ⟨0⟩ 20) (wealthyBonded 60)
      ⟨5⟩ 78).isOk = true := by
    decide +kernel
  obtain ⟨whole, done⟩ := Outcome.exists_of_isOk succeeds
  obtain ⟨pair, several⟩ :=
    splitting_gains_rounding Externals.reference ⟨0⟩ (wealthyBonded 60)
  refine ⟨(pair (by decide) (by decide) (by decide) (by decide) (by decide)).1, _, _, whole, run,
    rfl, done, by decide +kernel,
    (withdrawEarly_penalties done found rfl).trans (by decide +kernel), ?_⟩
  refine several found rfl (by decide) (by decide) (by decide) run (by decide) ?_ done
  simp [record, smallExit, ExitsAt, Env.signedBy]

end Sample

end CredenceBond
