import CredenceContracts.Bond.Change

/-!
# The pool and the keys

What every call does to two entries that few calls write: the fee pool, and the keys of
the salted requests.
-/

namespace CredenceBond

open Soroban MachineInt

variable {Ledger : Type} {ext : Externals Ledger} {self : Address} {env : Env}
variable {before after : State Ledger}

section Requests

/-- The key of a request, where it has a salt. -/
def saltedKey (ext : Externals Ledger) (actor : Address) (operation : String) (salt : Bytes) :
    Option Bytes :=
  if salt = [] then none else some (computeKey ext actor operation salt)

/-- The key of the request that a call makes. -/
def Call.requestKey (ext : Externals Ledger) : Call → Option Bytes
  | .slashBond admin _ idempotencySalt => saltedKey ext admin "slash_bond" idempotencySalt
  | .collectFees admin idempotencySalt => saltedKey ext admin "collect_fees" idempotencySalt
  | _ => none

/-- A new key was recorded, or nothing was. -/
def KeyRecorded (key : Option Bytes) (before after : Bytes → Bool) : Prop :=
  match key with
  | none => after = before
  | some key => before key = false ∧ after = Function.update before key true

theorem checkAndRecord_recorded {storage recorded : Storage} {actor : Address}
    {operation : String} {salt : Bytes}
    (done : checkAndRecord ext storage actor operation salt = .ok recorded) :
    ∃ idempotencyKey, recorded = { storage with idempotencyKey } ∧
      KeyRecorded (saltedKey ext actor operation salt) storage.idempotencyKey
        idempotencyKey := by
  unfold checkAndRecord at done
  unfold saltedKey
  split at done
  · rename_i unsalted
    obtain rfl := Outcome.pure_eq_ok.mp done
    rw [if_pos unsalted]
    exact ⟨recorded.idempotencyKey, rfl, rfl⟩
  · rename_i salted
    simp only [Outcome.bind_eq_ok, Outcome.rejectIf_eq_ok, Outcome.pure_eq_ok,
      Bool.not_eq_true] at done
    obtain ⟨-, fresh, rfl⟩ := done
    rw [if_neg salted]
    exact ⟨_, rfl, fresh, rfl⟩

/-- A request that is recorded has a key that was not in use. -/
theorem recorded_unused {storage recorded : Storage} {actor : Address} {operation : String}
    {salt key : Bytes} (done : checkAndRecord ext storage actor operation salt = .ok recorded)
    (keyed : saltedKey ext actor operation salt = some key)
    (used : storage.idempotencyKey key = true) : False := by
  obtain ⟨_, -, fresh⟩ := checkAndRecord_recorded done
  rw [keyed] at fresh
  exact absurd used (by simp [fresh.1])

variable {admin : Address} {idempotencySalt : Bytes} {amount result : Int}

theorem slashBond_entries (guarded : ext.Guarded self)
    (done : slashBond ext env before admin amount idempotencySalt = .ok (after, result)) :
    after.storage.fees = before.storage.fees ∧
      KeyRecorded (saltedKey ext admin "slash_bond" idempotencySalt)
        before.storage.idempotencyKey after.storage.idempotencyKey := by
  simp only [slashBond, Outcome.bind_eq_ok, acquireLock_eq_ok, Outcome.unwrapOr_eq_ok,
    Outcome.rejectIf_eq_ok, Outcome.pure_eq_ok, Prod.mk.injEq] at done
  obtain ⟨_, -, _, recorded, _, ⟨-, rfl⟩, _, -, bond, -, _, -, _, -, _, -, notified, told,
    rfl, rfl⟩ := done
  obtain ⟨idempotencyKey, rfl, keys⟩ := checkAndRecord_recorded recorded
  rw [notify_released guarded told]
  exact ⟨rfl, keys⟩

theorem collectFees_entries (guarded : ext.Guarded self)
    (done : collectFees ext env before admin idempotencySalt = .ok (after, result)) :
    after.storage.fees = 0 ∧
      KeyRecorded (saltedKey ext admin "collect_fees" idempotencySalt)
        before.storage.idempotencyKey after.storage.idempotencyKey := by
  simp only [collectFees, Outcome.bind_eq_ok, acquireLock_eq_ok, Outcome.pure_eq_ok,
    Prod.mk.injEq] at done
  obtain ⟨_, -, _, recorded, _, ⟨-, rfl⟩, _, -, notified, told, rfl, rfl⟩ := done
  obtain ⟨idempotencyKey, rfl, keys⟩ := checkAndRecord_recorded recorded
  rw [notify_released guarded told]
  exact ⟨rfl, keys⟩

end Requests

section Entries

/-- What a call leaves in the pool. -/
def Call.poolAfter (fees : Int) : Call → Int
  | .depositFees amount => wrappingI128 (fees + amount)
  | .collectFees .. => 0
  | _ => fees

/-- What a call leaves of the pool and of the keys. -/
theorem invoke_entries (guarded : ext.Guarded self) {call : Call}
    (done : invoke ext env before call = .ok after) :
    after.storage.fees = call.poolAfter before.storage.fees ∧
      KeyRecorded (call.requestKey ext) before.storage.idempotencyKey
        after.storage.idempotencyKey := by
  cases call <;> simp only [invoke, storing_eq_ok, Outcome.map_eq_ok] at done
  case initializeBond =>
    obtain ⟨_, done, rfl⟩ := done
    rw [State.store, (initializeBond_eq_ok.mp done).2]
    exact ⟨rfl, rfl⟩
  case setToken =>
    obtain ⟨_, done, rfl⟩ := done
    rw [State.store, (setToken_ok done).2]
    exact ⟨rfl, rfl⟩
  case transferAdmin =>
    obtain ⟨_, done, rfl⟩ := done
    rw [State.store, (transferAdmin_ok done).2]
    exact ⟨rfl, rfl⟩
  case setEarlyExitConfig =>
    obtain ⟨_, done, rfl⟩ := done
    rw [State.store, (setEarlyExitConfig_ok done).2]
    exact ⟨rfl, rfl⟩
  case setLiquidationTreasury =>
    obtain ⟨_, done, rfl⟩ := done
    rw [State.store, (setLiquidationTreasury_ok done).2]
    exact ⟨rfl, rfl⟩
  case setSlashTreasury =>
    obtain ⟨_, done, rfl⟩ := done
    rw [State.store, (setSlashTreasury_ok done).2]
    exact ⟨rfl, rfl⟩
  case setWeightConfig =>
    obtain ⟨_, done, rfl⟩ := done
    rw [State.store, (setWeightConfig_ok done).2]
    exact ⟨rfl, rfl⟩
  case setCallback | depositFees =>
    obtain rfl := Outcome.pure_eq_ok.mp done
    exact ⟨rfl, rfl⟩
  case createBond =>
    obtain ⟨-, -, -, -, stored⟩ := createBond_ok done
    rw [stored]
    exact ⟨rfl, rfl⟩
  case topUp =>
    obtain ⟨_, -, -, -, -, -, -, stored⟩ := topUp_ok done
    rw [stored]
    exact ⟨rfl, rfl⟩
  case withdraw =>
    obtain ⟨_, -, -, -, -, -, -, -, -, stored⟩ := withdraw_ok done
    rw [stored]
    exact ⟨rfl, rfl⟩
  case withdrawEarly =>
    obtain ⟨_, _, _, -, -, -, -, -, -, -, -, stored⟩ := withdrawEarly_ok done
    rw [stored]
    exact ⟨rfl, rfl⟩
  case withdrawBond =>
    obtain ⟨⟨_, _⟩, done, rfl⟩ := done
    obtain ⟨_, _, -, -, -, -, -, -, told, rfl⟩ := withdrawBond_ok done
    rw [notify_released guarded told]
    exact ⟨rfl, rfl⟩
  case requestWithdrawal =>
    obtain ⟨_, done, rfl⟩ := done
    obtain ⟨_, -, -, -, -, stored⟩ := requestWithdrawal_ok done
    rw [State.store, stored]
    exact ⟨rfl, rfl⟩
  case renewIfRolling =>
    obtain ⟨_, done, rfl⟩ := done
    rcases renewIfRolling_ok done with stored | ⟨_, -, -, -, stored⟩
    · rw [State.store, stored]
      exact ⟨rfl, rfl⟩
    · rw [State.store, stored]
      exact ⟨rfl, rfl⟩
  case extendDuration =>
    obtain ⟨_, done, rfl⟩ := done
    obtain ⟨_, -, -, -, stored⟩ := extendDuration_ok done
    rw [State.store, stored]
    exact ⟨rfl, rfl⟩
  case liquidate =>
    obtain ⟨_, done, rfl⟩ := done
    obtain ⟨-, _, -, stored⟩ := liquidate_ok done
    rw [State.store, stored]
    exact ⟨rfl, rfl⟩
  case slash =>
    obtain ⟨_, -, -, -, -, -, -, -, stored⟩ := slash_ok done
    rw [stored]
    exact ⟨rfl, rfl⟩
  case slashBond =>
    obtain ⟨⟨_, _⟩, done, rfl⟩ := done
    exact slashBond_entries guarded done
  case collectFees =>
    obtain ⟨⟨_, _⟩, done, rfl⟩ := done
    exact collectFees_entries guarded done
  case processClaims =>
    obtain ⟨⟨_, _⟩, done, rfl⟩ := done
    obtain ⟨_, -, -, -, stored⟩ := processClaims_ok done
    rw [stored]
    exact ⟨rfl, rfl⟩
  case expireClaims =>
    obtain ⟨_, ⟨⟨_, _⟩, done, rfl⟩, rfl⟩ := done
    obtain ⟨_, _, stored⟩ := expireClaimsBounded_frame done
    rw [State.store, stored]
    exact ⟨rfl, rfl⟩

end Entries

end CredenceBond
