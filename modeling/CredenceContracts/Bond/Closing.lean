import CredenceContracts.Bond.Change
import CredenceContracts.Bond.Lock
import CredenceContracts.Bond.SameLedger

/-!
# Closing a bond

The closing call empties the record but keeps its slashed amount, and then checks
that no more is slashed than is bonded.  A bond that was slashed at all, and not
released from it, therefore never passes: only an unslashed bond can be closed.
-/

namespace CredenceBond

open Soroban MachineInt Transition

/-- The owner signs, the bond is active and any notice it needs is over. -/
structure Eligible {Ledger : Type} (env : Env) (state : State Ledger) (bond : IdentityBond) :
    Prop where
  found : state.storage.bond = some bond
  active : bond.active = true
  authorized : env.authorized bond.identity = true
  noticed : bond.isRolling = true → bond.Noticed env.timestamp

/-- The record of a closed bond. -/
def IdentityBond.closed (bond : IdentityBond) : IdentityBond :=
  { bond with bondedAmount := 0, active := false }

/-- The state that the callback contract is notified in. -/
def State.closing {Ledger : Type} (state : State Ledger) (bond : IdentityBond) :
    State Ledger :=
  state.store { state.storage with locked := true, bond := some bond.closed }

section Conditions

variable {Ledger : Type} (ext : Externals Ledger) (env : Env) (state : State Ledger)
variable (bond : IdentityBond)

/-- The call succeeds with the whole stake and leaves an inactive bond that passes
the contract's own check. -/
def ClosesInFull : Prop :=
  ∃ after, withdrawBond ext env state bond.identity =
      .ok (after, bond.bondedAmount - bond.slashedAmount) ∧
    ∃ closed, after.storage.bond = some closed ∧ closed.active = false ∧
      assertSelfConsistent after.storage = .ok ()

/-- The callback contract, where one is registered, takes the notification that the
whole bonded amount leaves. -/
def TakesNotice : Prop :=
  ∀ address, state.storage.callback = some address →
    (ext.callback address "on_withdraw" bond.bondedAmount (state.closing bond)).isSome = true

end Conditions

section Reachable

variable {Ledger : Type} {ext : Externals Ledger} {self : Address}
variable {start final : State Ledger} {trace : List (Event (State Ledger) Label)}

/-- Nothing is bonded, the lock is free and all attestations are counted right. -/
structure Initial (state : State Ledger) : Prop where
  unbonded : state.storage.bond = none
  unlocked : state.storage.locked = false
  counted : ∀ identity, Counted state identity

/-- What happens elsewhere leaves all attestations counted right. -/
def CountsElsewhere (event : Event (State Ledger) Label) : Prop :=
  event.label.act = .elsewhere → ∀ identity, Counted event.after identity

/-- The check after a write passes a bond that is slashed within its amount, where the
attestations of its owner are counted right. -/
theorem consistent_of_counted {state : State Ledger} {storage : Storage} (bond : IdentityBond)
    (counted : Counted state bond.identity) (stored : storage.bond = some bond)
    (attestations : storage.subjectAttestations = state.storage.subjectAttestations)
    (count : storage.subjectAttestationCount = state.storage.subjectAttestationCount)
    (low : 0 ≤ bond.slashedAmount) (within : bond.slashedAmount ≤ bond.bondedAmount) :
    assertSelfConsistent storage = .ok () := by
  refine (assertSelfConsistent_iff stored).mpr ⟨⟨low, within⟩, ?_⟩
  rw [attestations, count]
  exact counted

theorem invoke_unlocked {env : Env} {state after : State Ledger} {call : Call}
    (free : state.storage.locked = false) (done : invoke ext env state call = .ok after) :
    after.storage.locked = false := by
  by_cases guarded : call.guarded = true
  · exact released_of_guarded guarded done
  · rw [locked_of_unguarded (by simpa using guarded) done]
    exact free

theorem step_unlocked {label : Label} {before after : State Ledger}
    (free : before.storage.locked = false) (stepped : Step ext self before label after) :
    after.storage.locked = false := by
  cases stepped with
  | call _ done => exact invoke_unlocked free done
  | elsewhere => exact free

/-- Between the calls of a run the lock is free. -/
theorem unlocked_of_run (unlocked : start.storage.locked = false)
    (run : Run (Step ext self) start trace final) : final.storage.locked = false :=
  run.invariant (fun state => state.storage.locked = false) unlocked fun _ free stepped =>
    step_unlocked free stepped

/-- No call of the bond contract touches an attestation counter. -/
theorem step_counted {label : Label} {before after : State Ledger} (guarded : ext.Guarded self)
    (counted : ∀ identity, Counted before identity)
    (counts : CountsElsewhere ⟨before, label, after⟩)
    (stepped : Step ext self before label after) (identity : Address) :
    Counted after identity := by
  cases stepped with
  | call _ done =>
      obtain ⟨-, attestations, count⟩ := invoke_keepsRest guarded done
      unfold Counted
      rw [attestations, count]
      exact counted identity
  | elsewhere => exact counts rfl identity

theorem counted_of_run (guarded : ext.Guarded self)
    (counted : ∀ identity, Counted start identity)
    (run : Run (Step ext self) start trace final)
    (counting : ∀ event ∈ trace, CountsElsewhere event) (identity : Address) :
    Counted final identity := by
  refine (run.restrict CountsElsewhere (fun state => ∀ identity, Counted state identity)
    counting counted ?_).2 identity
  intro event counts counted stepped
  exact step_counted guarded counted counts stepped

end Reachable

section Closing

variable {Ledger : Type} {ext : Externals Ledger} {self : Address} {env : Env}
variable {state : State Ledger} {bond : IdentityBond}

/-- A notification is accepted where no callback contract is registered or the
registered one takes it. -/
theorem notify_succeeds_iff {function : String} {argument : Int} :
    (∃ after, notify ext state function argument = .ok after) ↔
      ∀ address, state.storage.callback = some address →
        (ext.callback address function argument state).isSome = true := by
  unfold notify
  cases state.storage.callback with
  | none => simp
  | some address => simp [Option.isSome_iff_exists]

/-- What the call comes down to for an eligible bond. -/
theorem withdrawBond_eligible_iff {after : State Ledger} {withdrawn : Int}
    (eligible : Eligible env state bond) (clock : env.timestamp < 2 ^ 64)
    (free : state.storage.locked = false) :
    withdrawBond ext env state bond.identity = .ok (after, withdrawn) ↔
      withdrawn = wrappingI128 bond.stake ∧
        assertSelfConsistent (state.closing bond).storage = .ok () ∧
          ∃ notified, notify ext (state.closing bond) "on_withdraw" withdrawn = .ok notified ∧
            after = notified.store (releaseLock notified.storage) := by
  obtain ⟨found, active, authorized, noticed⟩ := eligible
  have admitted : requireNotice env bond (return ()) = .ok () := by
    rw [requireNotice_eq_ok]
    split
    · rename_i rolling
      obtain ⟨requested, elapsed⟩ := noticed rolling
      exact ⟨elapsed.trans_lt clock, requested, elapsed⟩
    · rfl
  simp only [withdrawBond, Outcome.bind_eq_ok, requireAuth_eq_ok, acquireLock_eq_ok,
    ownedBond_eq_ok, Outcome.rejectIf_eq_ok, Outcome.pure_eq_ok, Prod.mk.injEq]
  constructor
  · rintro ⟨_, -, _, ⟨-, rfl⟩, other, ⟨stored, -⟩, _, -, _, -, _, consistent, notified, told,
      rfl, rfl⟩
    obtain rfl := Option.some.inj (found.symm.trans stored)
    exact ⟨rfl, consistent, notified, told, rfl⟩
  · rintro ⟨rfl, consistent, notified, told, rfl⟩
    exact ⟨(), authorized, _, ⟨free, rfl⟩, bond, ⟨found, rfl⟩, (), by simp [active], (),
      admitted, (), consistent, notified, told, rfl, rfl⟩

/-- The check after the write passes an emptied record only if nothing was slashed. -/
theorem closing_consistent_iff (counted : Counted state bond.identity) :
    assertSelfConsistent (state.closing bond).storage = .ok () ↔ bond.slashedAmount = 0 := by
  have emptied : (state.closing bond).storage.bond = some bond.closed := rfl
  rw [assertSelfConsistent_iff emptied]
  constructor
  · rintro ⟨⟨low, high⟩, -⟩
    exact le_antisymm high low
  · intro unslashed
    exact ⟨⟨unslashed.ge, unslashed.le⟩, counted⟩

theorem closesInFull_iff (guarded : ext.Guarded self) (eligible : Eligible env state bond)
    (clock : env.timestamp < 2 ^ 64) (sound : bond.Sound)
    (free : state.storage.locked = false) (counted : Counted state bond.identity) :
    ClosesInFull ext env state bond ↔
      bond.slashedAmount = 0 ∧ TakesNotice ext state bond := by
  obtain ⟨nonnegative, within, bounded⟩ := sound
  have exact : wrappingI128 bond.stake = bond.bondedAmount - bond.slashedAmount :=
    wrappingI128_of_fits (by unfold FitsI128 IdentityBond.stake; omega)
  have told (unslashed : bond.slashedAmount = 0) : TakesNotice ext state bond ↔
      ∃ notified, notify ext (state.closing bond) "on_withdraw"
        (bond.bondedAmount - bond.slashedAmount) = .ok notified := by
    rw [notify_succeeds_iff, unslashed, sub_zero]
    rfl
  unfold ClosesInFull
  simp only [withdrawBond_eligible_iff eligible clock free, exact, true_and,
    closing_consistent_iff counted]
  constructor
  · rintro ⟨_, ⟨unslashed, notified, accepted, -⟩, -⟩
    exact ⟨unslashed, (told unslashed).mpr ⟨notified, accepted⟩⟩
  · rintro ⟨unslashed, takes⟩
    obtain ⟨notified, accepted⟩ := (told unslashed).mp takes
    have kept := (notify_ok guarded accepted).1
    have consistent : assertSelfConsistent (state.closing bond).storage = .ok () :=
      (closing_consistent_iff counted).mpr unslashed
    refine ⟨_, ⟨unslashed, notified, accepted, rfl⟩, bond.closed, ?_, rfl, ?_⟩
    · exact (congrArg Storage.bond kept).trans rfl
    · simp only [State.store, kept]
      exact consistent

/-- In every reachable state an eligible bond is closed in full, if and only if nothing
of it is slashed and the registered callback contract takes the notification. -/
theorem closes_eligible_bond_iff (guarded : ext.Guarded self) {start : State Ledger}
    (initial : Initial start) {trace : List (Event (State Ledger) Label)}
    (run : Run (Step ext self) start trace state)
    (counting : ∀ event ∈ trace, CountsElsewhere event)
    (eligible : Eligible env state bond) (clock : env.timestamp < 2 ^ 64) :
    ClosesInFull ext env state bond ↔
      bond.slashedAmount = 0 ∧ TakesNotice ext state bond :=
  closesInFull_iff guarded eligible clock
    (Storage.Sound.of_run guarded initial.unbonded run bond eligible.found)
    (unlocked_of_run initial.unlocked run)
    (counted_of_run guarded initial.counted run counting bond.identity)

end Closing

section Sample

theorem initial_bondSample : Initial bondSample where
  unbonded := rfl
  unlocked := rfl
  counted := by
    intro identity count counted
    cases counted

/-- A user bonds two tokens. -/
def bonding : List Label :=
  [⟨.signedBy ⟨5⟩ ⟨0⟩ 0, .call (.createBond ⟨5⟩ 2000000000000000000 60 false 0)⟩]

/-- The admin slashes half a token of the bond. -/
def partlySlashing : List Label :=
  bonding ++ [⟨.signedBy ⟨1⟩ ⟨0⟩ 1, .call (.slashBond ⟨1⟩ 500000000000000000 [])⟩]

/-- The bond after its creation, with what was slashed of it. -/
def bondSlashedBy (slashedAmount : Int) : IdentityBond where
  identity := ⟨5⟩
  bondedAmount := 2000000000000000000
  bondStart := 0
  bondDuration := 60
  slashedAmount
  active := true
  isRolling := false
  withdrawalRequestedAt := 0
  noticePeriodDuration := 0

/-- The unslashed bond is closed in full. -/
theorem closes_eligible_bond_sample :
    ∃ trace state, Run (Step Externals.reference ⟨0⟩) bondSample trace state ∧
      ClosesInFull Externals.reference (.signedBy ⟨5⟩ ⟨0⟩ 2) state (bondSlashedBy 0) := by
  have run : Run (Step Externals.reference ⟨0⟩) bondSample
      (record (next Externals.reference ⟨0⟩) bondSample bonding)
      (bonding.foldl (advance (next Externals.reference ⟨0⟩)) bondSample) :=
    run_of_record step_of_next (by decide +kernel)
  refine ⟨_, _, run, (closes_eligible_bond_iff (guarded_reference ⟨0⟩) initial_bondSample run
    ?_ ⟨by decide +kernel, rfl, rfl, fun rolling => absurd rolling (by decide)⟩
    (by decide)).mpr ⟨rfl, fun _ _ => rfl⟩⟩
  simp [record, bonding, CountsElsewhere]

/-- A bond of which a quarter was slashed is eligible, and cannot be closed. -/
theorem slashed_bond_not_closed :
    ∃ trace state, Run (Step Externals.reference ⟨0⟩) bondSample trace state ∧
      (∀ event ∈ trace, CountsElsewhere event) ∧
        Eligible (.signedBy ⟨5⟩ ⟨0⟩ 2) state (bondSlashedBy 500000000000000000) ∧
          withdrawBond Externals.reference (.signedBy ⟨5⟩ ⟨0⟩ 2) state ⟨5⟩ =
            .error (.contract .invariantViolation) ∧
          ¬ClosesInFull Externals.reference (.signedBy ⟨5⟩ ⟨0⟩ 2) state
            (bondSlashedBy 500000000000000000) := by
  have run : Run (Step Externals.reference ⟨0⟩) bondSample
      (record (next Externals.reference ⟨0⟩) bondSample partlySlashing)
      (partlySlashing.foldl (advance (next Externals.reference ⟨0⟩)) bondSample) :=
    run_of_record step_of_next (by decide +kernel)
  have counting : ∀ event ∈ record (next Externals.reference ⟨0⟩) bondSample partlySlashing,
      CountsElsewhere event := by
    simp [record, partlySlashing, bonding, CountsElsewhere]
  have rejected : withdrawBond Externals.reference (.signedBy ⟨5⟩ ⟨0⟩ 2)
      (partlySlashing.foldl (advance (next Externals.reference ⟨0⟩)) bondSample) ⟨5⟩ =
        .error (.contract .invariantViolation) := rfl
  refine ⟨_, _, run, counting, ⟨by decide +kernel, rfl, rfl,
    fun rolling => absurd rolling (by decide)⟩, rejected, ?_⟩
  rintro ⟨after, closed, -⟩
  cases rejected.symm.trans closed

end Sample

end CredenceBond
