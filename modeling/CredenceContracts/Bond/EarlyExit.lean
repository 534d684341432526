import CredenceContracts.Bond.Closing
import CredenceContracts.Bond.Penalty

/-!
# Leaving early

An early exit publishes its penalty and pays it to the treasury.  The bond was started
before, for no longer than a timestamp can hold, so that the remaining time is within
the duration: the penalty stays within the amount, and it is the exact one as long as
its products fit.
-/

namespace CredenceBond

open Soroban MachineInt Transition

section Charges

/-- The penalty in an early-exit event. -/
def BondEvent.penalty : BondEvent → Option Int
  | .earlyExitPenalty _ _ penalty _ => some penalty
  | _ => none

/-- The penalties in a log. -/
def penalties (events : List BondEvent) : List Int :=
  events.filterMap BondEvent.penalty

theorem penalties_append (events later : List BondEvent) :
    penalties (events ++ later) = penalties events ++ penalties later :=
  List.filterMap_append

theorem penalties_tierEvents (env : Env) (identity : Address) (oldTier newTier : BondTier) :
    penalties (tierEvents env identity oldTier newTier) = [] := by
  unfold penalties tierEvents
  split <;> rfl

/-- The time that a bond still has to run. -/
def IdentityBond.remaining (bond : IdentityBond) (now : Nat) : Nat :=
  saturatingU64 (bond.bondStart + bond.bondDuration) - now

variable {Ledger : Type}

/-- The penalty is published and goes to the treasury, and the owner gets the rest. -/
structure Charges (token : TokenInterface Ledger) (env : Env) (before after : State Ledger)
    (bond : IdentityBond) (config : EarlyExitConfig) (amount penalty : Int) : Prop where
  published : penalties after.storage.events = penalties before.storage.events ++ [penalty]
  paid : ∃ middle,
    transferFromContract token env before.storage before.ledger config.treasury penalty =
        .ok middle ∧
      transferFromContract token env before.storage middle bond.identity (amount - penalty) =
        .ok after.ledger

variable {ext : Externals Ledger} {env : Env} {state after : State Ledger}
variable {bond : IdentityBond} {config : EarlyExitConfig} {identity : Address} {amount : Int}

/-- An early exit publishes one penalty. -/
theorem withdrawEarly_penalties
    (done : withdrawEarly ext env state identity amount = .ok after)
    (found : state.storage.bond = some bond)
    (configured : state.storage.earlyExitConfig = some config) :
    penalties after.storage.events =
      penalties state.storage.events ++ [earlyExitPenalty env bond config amount] := by
  simp only [withdrawEarly, Outcome.bind_eq_ok, acquireLock_eq_ok, ownedBond_eq_ok,
    Outcome.unwrapOr_eq_ok, Outcome.pure_eq_ok] at done
  obtain ⟨_, ⟨-, rfl⟩, other, ⟨stored, -⟩, _, -, _, -, _, -, named, setup, _, -, _, -, _, -, _,
    -, _, -, charged, paid, _, -, _, -, rfl⟩ := done
  obtain rfl := Option.some.inj (found.symm.trans stored)
  obtain rfl := Option.some.inj (configured.symm.trans setup)
  have logged (oldTier newTier : BondTier) :
      penalties (emitTierChangeIfNeeded env (({ state.storage with locked := true }).publish
          (.earlyExitPenalty bond.identity amount (earlyExitPenalty env bond config amount)
            config.treasury)) bond.identity oldTier newTier).events =
        penalties state.storage.events ++ [earlyExitPenalty env bond config amount] := by
    rw [emitTierChangeIfNeeded_events]
    simp only [Storage.publish, penalties_append, penalties_tierEvents, List.append_nil]
    rfl
  rcases whenPositive_eq_ok.mp paid with ⟨positive, sent⟩ | ⟨-, rfl⟩
  · simp only [transferFromContractWithSource, positive, if_true, Outcome.bind_eq_ok,
      Outcome.pure_eq_ok] at sent
    obtain ⟨_, -, rfl⟩ := sent
    refine (penalties_append _ _).trans ?_
    exact (congrArg (· ++ []) (logged _ _)).trans (List.append_nil _)
  · exact logged _ _

theorem withdrawEarly_charges
    (done : withdrawEarly ext env state bond.identity amount = .ok after)
    (found : state.storage.bond = some bond)
    (configured : state.storage.earlyExitConfig = some config) :
    Charges ext.token env state after bond config amount
      (earlyExitPenalty env bond config amount) := by
  refine ⟨withdrawEarly_penalties done found configured, ?_⟩
  obtain ⟨other, named, middle, stored, -, setup, -, -, -, first, second, -⟩ :=
    withdrawEarly_ok done
  obtain rfl := Option.some.inj (found.symm.trans stored)
  obtain rfl := Option.some.inj (configured.symm.trans setup)
  exact ⟨middle, first, second⟩

/-- One call charges one penalty. -/
theorem Charges.unique {token : TokenInterface Ledger} {penalty other : Int}
    (charges : Charges token env state after bond config amount penalty)
    (again : Charges token env state after bond config amount other) : penalty = other := by
  have same := charges.published.symm.trans again.published
  simpa using same

end Charges

section Terms

variable {Ledger : Type} {ext : Externals Ledger} {self : Address}
variable {start final : State Ledger} {trace : List (Event (State Ledger) Label)}

/-- A bond that is stored was started already, for a time that a timestamp can hold. -/
def State.Termed (now : Nat) (state : State Ledger) : Prop :=
  ∀ bond, state.storage.bond = some bond → bond.bondStart ≤ now ∧ bond.bondDuration < 2 ^ 64

/-- What writes the bond with the same terms keeps it termed. -/
theorem State.Termed.rewritten {now : Nat} {before after : State Ledger}
    {bond updated : IdentityBond} (termed : before.Termed now)
    (found : before.storage.bond = some bond)
    (written : before.storage.Writes after.storage updated)
    (started : updated.bondStart = bond.bondStart)
    (lasting : updated.bondDuration = bond.bondDuration) : after.Termed now := by
  intro later stored
  obtain rfl := written.unique stored
  rw [started, lasting]
  exact termed bond found

theorem State.Termed.same {now : Nat} {before after : State Ledger} (termed : before.Termed now)
    (unchanged : after.storage.bond = before.storage.bond) : after.Termed now := by
  intro bond stored
  exact termed bond (unchanged ▸ stored)

theorem invoke_termed (guarded : ext.Guarded self) {now : Nat} {env : Env}
    {before after : State Ledger} {call : Call} (past : env.timestamp ≤ now)
    (termed : before.Termed now) (done : invoke ext env before call = .ok after) :
    after.Termed now := by
  cases invoke_change guarded done with
  | initialized _ _ same | transferred _ _ same => exact termed.same same
  | administered _ _ same | unrelated _ same | notRenewed same => exact termed.same same.bond
  | created _ _ _ _ written =>
      intro later stored
      obtain rfl := written.unique stored
      exact ⟨past, (Nat.le_add_left _ _).trans_lt (createBond_end done)⟩
  | toppedUp found _ _ _ _ written => exact termed.rewritten found written rfl rfl
  | withdrawn found _ _ _ _ _ written => exact termed.rewritten found written rfl rfl
  | leftEarly found _ _ written => exact termed.rewritten found written rfl rfl
  | closed found _ _ _ written => exact termed.rewritten found written rfl rfl
  | requested found _ written => exact termed.rewritten found written rfl rfl
  | renewed found _ written =>
      intro later stored
      obtain rfl := written.unique stored
      exact ⟨past, (termed _ found).2⟩
  | extended found _ written =>
      intro later stored
      obtain rfl := written.unique stored
      obtain ⟨_, lengthened, -⟩ := storing_eq_ok.mp done
      exact ⟨(termed _ found).1,
        (Nat.le_add_left _ _).trans_lt (extendDuration_end found lengthened)⟩
  | liquidated found _ written => exact termed.rewritten found written rfl rfl
  | slashed found _ _ _ _ written => exact termed.rewritten found written rfl rfl
  | slashBonded found _ _ _ written => exact termed.rewritten found written rfl rfl

theorem step_termed (guarded : ext.Guarded self) {now : Nat} {label : Label}
    {before after : State Ledger} (past : label.env.timestamp ≤ now)
    (termed : before.Termed now) (stepped : Step ext self before label after) :
    after.Termed now := by
  cases stepped with
  | call _ done => exact invoke_termed guarded past termed done
  | elsewhere => exact termed

theorem termed_of_run (guarded : ext.Guarded self) {now : Nat}
    (unbonded : start.storage.bond = none) (run : Run (Step ext self) start trace final)
    (past : ∀ event ∈ trace, event.label.env.timestamp ≤ now) : final.Termed now := by
  refine (run.restrict (fun event => event.label.env.timestamp ≤ now) (State.Termed now) past
    ?_ ?_).2
  · intro bond stored
    cases unbonded.symm.trans stored
  · intro event earlier termed stepped
    exact step_termed guarded earlier termed stepped

end Terms

section Violations

variable {Ledger : Type} {ext : Externals Ledger} {env : Env} {state : State Ledger}
variable {storage : Storage} {bond : IdentityBond} {config : EarlyExitConfig}
variable {recipient : Address} {amount : Int}

/-- A payment fails as the token does, or panics. -/
theorem transferFromContract_ne_violation {token : TokenInterface Ledger} {ledger : Ledger} :
    transferFromContract token env storage ledger recipient amount ≠
      .error (.contract .invariantViolation) := by
  intro failed
  simp only [transferFromContract, Outcome.bind_eq_error, Outcome.rejectIf_eq_error,
    reduceCtorEq, and_false, false_or] at failed
  obtain ⟨_, -, failed⟩ := failed
  split at failed
  · simp at failed
  · simp [getToken] at failed

theorem whenPositive_ne_error {α : Type} {unchanged : α} {step : Outcome α}
    {failure : Failure} (passes : step ≠ .error failure) :
    whenPositive amount unchanged step ≠ .error failure := by
  unfold whenPositive
  split
  · exact passes
  · simp

theorem withdrawEarly_ne_violation (found : state.storage.bond = some bond)
    (configured : state.storage.earlyExitConfig = some config) (sound : bond.Sound)
    (counted : Counted state bond.identity) (available : amount ≤ bond.stake)
    (low : 0 ≤ earlyExitPenalty env bond config amount)
    (high : earlyExitPenalty env bond config amount ≤ amount) :
    withdrawEarly ext env state bond.identity amount ≠
      .error (.contract .invariantViolation) := by
  have total : amount - earlyExitPenalty env bond config amount +
      earlyExitPenalty env bond config amount = amount := sub_add_cancel _ _
  have rest : bond.slashedAmount ≤ bond.bondedAmount - amount := by
    unfold IdentityBond.stake at available
    omega
  refine Outcome.bind_ne_error (by simp [acquireLock]) fun _ acquired => ?_
  obtain ⟨-, rfl⟩ := acquireLock_eq_ok.mp acquired
  refine Outcome.bind_ne_error (by simp [ownedBond]) fun other owned => ?_
  obtain rfl := Option.some.inj (found.symm.trans (ownedBond_eq_ok.mp owned).1)
  refine Outcome.bind_ne_error (by simp) fun _ _ => ?_
  refine Outcome.bind_ne_error (by simp) fun _ _ => ?_
  refine Outcome.bind_ne_error (by simp) fun _ _ => ?_
  refine Outcome.bind_ne_error (by simp) fun named setup => ?_
  obtain rfl := Option.some.inj (configured.symm.trans (Outcome.unwrapOr_eq_ok.mp setup))
  refine Outcome.bind_ne_error (by simp) fun netAmount net => ?_
  obtain ⟨-, rfl⟩ := checkedI128_eq_ok.mp net
  refine Outcome.bind_ne_error (by simp) fun splitTotal split => ?_
  obtain ⟨-, rfl⟩ := checkedI128_eq_ok.mp split
  -- the penalty and the rest add up, and neither is negative
  refine Outcome.bind_ne_error ?_ fun _ _ => ?_
  · rw [ne_eq, Outcome.rejectIf_eq_error]
    rintro ⟨negative | excessive | lost, -⟩
    · exact absurd low negative.not_ge
    · exact absurd high excessive.not_ge
    · exact lost total
  refine Outcome.bind_ne_error (by simp) fun _ lowered => ?_
  obtain ⟨-, rfl⟩ := checkedI128_eq_ok.mp lowered
  refine Outcome.bind_ne_error (by simp) fun _ _ => ?_
  refine Outcome.bind_ne_error (whenPositive_ne_error ?_) fun charged paid => ?_
  · exact Outcome.bind_ne_error transferFromContract_ne_violation fun _ _ => by simp
  refine Outcome.bind_ne_error (whenPositive_ne_error transferFromContract_ne_violation)
    fun _ _ => ?_
  obtain ⟨-, events, charges⟩ := whenPositive_source_ok low paid
  have consistent : assertSelfConsistent (releaseLock charged.storage) = .ok () := by
    obtain ⟨tiers, emitted⟩ := emitTierChangeIfNeeded_eq env
      ({ state.storage with locked := true }.publish
        (.earlyExitPenalty bond.identity amount (earlyExitPenalty env bond config amount)
          config.treasury)) bond.identity
      (getTierForAmount state.storage bond.bondedAmount)
      (getTierForAmount state.storage (bond.bondedAmount - amount))
    have frame : charged.storage = { state.storage with
        locked := true
        bond := some { bond with bondedAmount := bond.bondedAmount - amount }
        events } := by
      rw [charges]
      exact congrArg (fun storage : Storage => { storage with
        bond := some { bond with bondedAmount := bond.bondedAmount - amount }
        events }) emitted
    rw [frame]
    exact consistent_of_counted { bond with bondedAmount := bond.bondedAmount - amount } counted
      rfl rfl rfl sound.nonnegative rest
  exact Outcome.bind_ne_error (by simp [consistent]) fun _ _ => by simp

end Violations

section Exact

variable {Ledger : Type} {ext : Externals Ledger} {self : Address} {env : Env}
variable {start state after : State Ledger} {bond : IdentityBond} {config : EarlyExitConfig}
variable {trace : List (Event (State Ledger) Label)} {amount : Int}

/-- The exact penalty of leaving a bond with an amount now. -/
def exactExitPenalty (env : Env) (bond : IdentityBond) (config : EarlyExitConfig)
    (amount : Int) : Int :=
  exactPenalty amount (bond.remaining env.timestamp) bond.bondDuration config.penaltyBps

/-- An early exit charges the exact penalty, and one with less of the amount or with
less time to run charges no more. -/
structure ExactExit (ext : Externals Ledger) (env : Env) (state after : State Ledger)
    (bond : IdentityBond) (config : EarlyExitConfig) (amount : Int) : Prop where
  charges : Charges ext.token env state after bond config amount
    (exactExitPenalty env bond config amount)
  monotone : ∀ {later : Env} {other : State Ledger} {smaller penalty : Int}, 0 < smaller →
    smaller ≤ amount → env.timestamp ≤ later.timestamp →
      withdrawEarly ext later state bond.identity smaller = .ok other →
        Charges ext.token later state other bond config smaller penalty →
          penalty ≤ exactExitPenalty env bond config amount

/-- What is known of an early exit before it is tried. -/
structure LeavesEarly (env : Env) (state : State Ledger) (bond : IdentityBond)
    (config : EarlyExitConfig) (amount : Int) : Prop where
  found : state.storage.bond = some bond
  configured : state.storage.earlyExitConfig = some config
  rate : config.penaltyBps ≤ 10000
  positive : 0 < amount
  available : amount ≤ bond.stake
  early : 0 < bond.remaining env.timestamp

theorem LeavesEarly.remaining_le (termed : state.Termed env.timestamp)
    (found : state.storage.bond = some bond) :
    bond.remaining env.timestamp ≤ bond.bondDuration := by
  have started := (termed bond found).1
  unfold IdentityBond.remaining saturatingU64
  omega

/-- A penalty whose larger counterpart fits is within it. -/
theorem calculatePenalty_le_exact {smaller : Int} {shorter remaining duration penaltyBps : Nat}
    (positive : 0 < duration) (nonnegative : 0 ≤ smaller) (below : smaller ≤ amount)
    (earlier : shorter ≤ remaining) (fits : PenaltyFits amount remaining penaltyBps) :
    calculatePenalty smaller shorter duration penaltyBps ≤
      exactPenalty amount remaining duration penaltyBps := by
  rw [calculatePenalty_eq nonnegative, if_pos (fits.mono nonnegative below earlier)]
  exact exactPenalty_mono positive nonnegative below earlier

theorem exactExit_iff (leaves : LeavesEarly env state bond config amount)
    (termed : state.Termed env.timestamp)
    (done : withdrawEarly ext env state bond.identity amount = .ok after) :
    ExactExit ext env state after bond config amount ↔
      PenaltyFits amount (bond.remaining env.timestamp) config.penaltyBps := by
  obtain ⟨found, configured, -, positive, -, early⟩ := leaves
  have running := LeavesEarly.remaining_le termed found
  have lasting : 0 < bond.bondDuration := early.trans_le running
  have charged := withdrawEarly_charges done found configured
  have agrees : earlyExitPenalty env bond config amount =
      exactExitPenalty env bond config amount ↔
        PenaltyFits amount (bond.remaining env.timestamp) config.penaltyBps :=
    calculatePenalty_eq_exact_iff positive.le lasting (termed bond found).2 early
  constructor
  · intro exit
    exact agrees.mp (charged.unique exit.charges)
  · intro fits
    have same := agrees.mpr fits
    refine ⟨same ▸ charged, ?_⟩
    intro later other smaller penalty smallerPositive below onward again charges
    obtain rfl := charges.unique (withdrawEarly_charges again found configured)
    exact calculatePenalty_le_exact lasting smallerPositive.le below
      (Nat.sub_le_sub_left onward _) fits

/-- In every reachable state an early exit charges the exact penalty if and only if the
products of the penalty fit; whatever they are, the penalty is within the amount and the
call finds no invariant violated. -/
theorem early_exit_penalty_exact_iff (guarded : ext.Guarded self) (initial : Initial start)
    (run : Run (Step ext self) start trace state)
    (counting : ∀ event ∈ trace, CountsElsewhere event)
    (past : ∀ event ∈ trace, event.label.env.timestamp ≤ env.timestamp)
    (leaves : LeavesEarly env state bond config amount) :
    (∀ after, withdrawEarly ext env state bond.identity amount = .ok after →
        (ExactExit ext env state after bond config amount ↔
          PenaltyFits amount (bond.remaining env.timestamp) config.penaltyBps) ∧
        ∃ penalty, Charges ext.token env state after bond config amount penalty ∧
          0 ≤ penalty ∧ penalty ≤ amount) ∧
      withdrawEarly ext env state bond.identity amount ≠
        .error (.contract .invariantViolation) := by
  have termed := termed_of_run guarded initial.unbonded run past
  have running := LeavesEarly.remaining_le termed leaves.found
  obtain ⟨low, high⟩ : 0 ≤ earlyExitPenalty env bond config amount ∧
      earlyExitPenalty env bond config amount ≤ amount :=
    calculatePenalty_bounds leaves.positive.le (leaves.early.trans_le running) running
      leaves.rate
  constructor
  · intro after done
    exact ⟨exactExit_iff leaves termed done, _,
      withdrawEarly_charges done leaves.found leaves.configured, low, high⟩
  · exact withdrawEarly_ne_violation leaves.found leaves.configured
      (Storage.Sound.of_run guarded initial.unbonded run bond leaves.found)
      (counted_of_run guarded initial.counted run counting bond.identity) leaves.available low
      high

end Exact

section Sample

/-- The configured contract, with a user who holds a hundred thousand tokens. -/
def wealthySample : State ReferenceLedger :=
  { bondSample with
    ledger :=
      { holding := fun _ account => if account = ⟨5⟩ then 100000000000000000000000 else 0
        approved := fun _ _ _ => 100000000000000000000000 } }

/-- The user bonds all the tokens. -/
def wealthyBonding (duration : Nat) : List Label :=
  [⟨.signedBy ⟨5⟩ ⟨0⟩ 0, .call (.createBond ⟨5⟩ 100000000000000000000000 duration false 0)⟩]

def wealthyBond (bondDuration : Nat) : IdentityBond where
  identity := ⟨5⟩
  bondedAmount := 100000000000000000000000
  bondStart := 0
  bondDuration
  slashedAmount := 0
  active := true
  isRolling := false
  withdrawalRequestedAt := 0
  noticePeriodDuration := 0

theorem initial_wealthySample : Initial wealthySample where
  unbonded := rfl
  unlocked := rfl
  counted := by
    intro identity count counted
    cases counted

/-- The state after the tokens were bonded. -/
def wealthyBonded (duration : Nat) : State ReferenceLedger :=
  (wealthyBonding duration).foldl (advance (next Externals.reference ⟨0⟩)) wealthySample

/-- Half of a bond for sixty seconds leaves after twenty, for its exact penalty. -/
theorem early_exit_penalty_exact_sample :
    ∃ trace after, Run (Step Externals.reference ⟨0⟩) wealthySample trace (wealthyBonded 60) ∧
      withdrawEarly Externals.reference (.signedBy ⟨5⟩ ⟨0⟩ 20) (wealthyBonded 60) ⟨5⟩
        50000000000000000000000 = .ok after ∧
      ExactExit Externals.reference (.signedBy ⟨5⟩ ⟨0⟩ 20) (wealthyBonded 60) after
        (wealthyBond 60) ⟨⟨8⟩, 500⟩ 50000000000000000000000 := by
  have run : Run (Step Externals.reference ⟨0⟩) wealthySample
      (record (next Externals.reference ⟨0⟩) wealthySample (wealthyBonding 60))
      (wealthyBonded 60) :=
    run_of_record step_of_next (by decide +kernel)
  have succeeds : (withdrawEarly Externals.reference (.signedBy ⟨5⟩ ⟨0⟩ 20) (wealthyBonded 60)
      ⟨5⟩ 50000000000000000000000).isOk = true := by
    decide +kernel
  obtain ⟨after, done⟩ := Outcome.exists_of_isOk succeeds
  have leaves : LeavesEarly (.signedBy ⟨5⟩ ⟨0⟩ 20) (wealthyBonded 60) (wealthyBond 60)
      ⟨⟨8⟩, 500⟩ 50000000000000000000000 :=
    ⟨by decide +kernel, rfl, by decide, by decide, by decide, by decide⟩
  have exits := early_exit_penalty_exact_iff (guarded_reference ⟨0⟩) initial_wealthySample run
    (by simp [record, wealthyBonding, CountsElsewhere])
    (by simp [record, wealthyBonding, Env.signedBy]) leaves
  exact ⟨_, after, run, done, (exits.1 after done).1.mpr (by decide)⟩

/-- A bond for half of the time that a timestamp can hold leaves at once for nothing,
although its penalty is five thousand tokens. -/
theorem extreme_exit_free :
    ∃ trace after, Run (Step Externals.reference ⟨0⟩) wealthySample trace
        (wealthyBonded (2 ^ 63)) ∧
      LeavesEarly (.signedBy ⟨5⟩ ⟨0⟩ 0) (wealthyBonded (2 ^ 63)) (wealthyBond (2 ^ 63))
        ⟨⟨8⟩, 500⟩ 100000000000000000000000 ∧
      withdrawEarly Externals.reference (.signedBy ⟨5⟩ ⟨0⟩ 0) (wealthyBonded (2 ^ 63)) ⟨5⟩
        100000000000000000000000 = .ok after ∧
      penalties after.storage.events = [0] ∧
      exactExitPenalty (.signedBy ⟨5⟩ ⟨0⟩ 0) (wealthyBond (2 ^ 63)) ⟨⟨8⟩, 500⟩
        100000000000000000000000 = 5000000000000000000000 ∧
      ¬ExactExit Externals.reference (.signedBy ⟨5⟩ ⟨0⟩ 0) (wealthyBonded (2 ^ 63)) after
        (wealthyBond (2 ^ 63)) ⟨⟨8⟩, 500⟩ 100000000000000000000000 := by
  have run : Run (Step Externals.reference ⟨0⟩) wealthySample
      (record (next Externals.reference ⟨0⟩) wealthySample (wealthyBonding (2 ^ 63)))
      (wealthyBonded (2 ^ 63)) :=
    run_of_record step_of_next (by decide +kernel)
  have succeeds : (withdrawEarly Externals.reference (.signedBy ⟨5⟩ ⟨0⟩ 0)
      (wealthyBonded (2 ^ 63)) ⟨5⟩ 100000000000000000000000).isOk = true := by
    decide +kernel
  obtain ⟨after, done⟩ := Outcome.exists_of_isOk succeeds
  have found : (wealthyBonded (2 ^ 63)).storage.bond = some (wealthyBond (2 ^ 63)) := by
    decide +kernel
  have published := withdrawEarly_penalties done found rfl
  refine ⟨_, after, run, ⟨found, rfl, by decide, by decide, by decide, by decide⟩, done,
    published.trans (by decide +kernel), by decide, ?_⟩
  intro exits
  have charged := published.symm.trans exits.charges.published
  revert charged
  decide +kernel

end Sample

end CredenceBond
