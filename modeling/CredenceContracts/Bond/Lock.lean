import CredenceContracts.Bond.Spec

/-!
# The lock

Five calls hold the lock while they run and find it free when they start.  All the
others neither read nor write it, so that they do the same whether it is held or not,
and none of them asks the callback contract.
-/

namespace CredenceBond

open Soroban MachineInt

/-- The storage with the lock held or free. -/
def Storage.withLock (storage : Storage) (locked : Bool) : Storage :=
  { storage with locked }

/-- The state with the lock held or free. -/
def State.withLock {Ledger : Type} (state : State Ledger) (locked : Bool) : State Ledger :=
  state.store (state.storage.withLock locked)

/-- The call holds the lock while it runs. -/
def Call.guarded : Call → Bool
  | .withdrawEarly .. | .withdrawBond .. | .liquidate .. | .slashBond ..
  | .collectFees .. => true
  | _ => false

variable {Ledger : Type} {ext : Externals Ledger} {env : Env} {state after : State Ledger}
variable {storage : Storage} {call : Call} {locked : Bool}

section State

theorem State.withLock_self (held : state.storage.locked = locked) :
    state.withLock locked = state := by
  subst held
  rfl

end State

section Unguarded

/-- What a call stores with the lock replaced is what it stores, with the lock replaced. -/
theorem storing_withLock {result replaced : Outcome Storage}
    (same : replaced = (Storage.withLock · locked) <$> result)
    (done : state.storing result = .ok after) :
    (state.withLock locked).storing replaced = .ok (after.withLock locked) := by
  obtain ⟨stored, computed, rfl⟩ := Outcome.map_eq_ok.mp done
  exact Outcome.map_eq_ok.mpr ⟨_, Outcome.ok_of_map _ same computed, rfl⟩

theorem slashLogged_withLock (storage : Storage) (bond : IdentityBond) (amount : Int) :
    slashLogged env (storage.withLock locked) bond amount =
      (slashLogged env storage bond amount).withLock locked := by
  simp only [slashLogged, emitTierChangeIfNeeded_events]
  rfl

theorem rewarding_withLock (storage : Storage) (admin : Address) (amount : Int) :
    whenPositive amount (storage.withLock locked)
        (addSlashReward env (storage.withLock locked) admin amount) =
      (Storage.withLock · locked) <$>
        whenPositive amount storage (addSlashReward env storage admin amount) := by
  simp only [whenPositive, addSlashReward, addPendingClaim, apply_ite (Functor.map _),
    map_bind, map_pure]
  rfl

theorem slash_withLock {admin : Address} {amount : Int}
    (done : slash ext env state admin amount = .ok after) :
    slash ext env (state.withLock locked) admin amount = .ok (after.withLock locked) := by
  rw [slash_eq_ok] at done ⊢
  obtain ⟨nonnegative, named, other, bond, found, fits, total, rewarded, rewards, consistent,
    ledger, sent, rfl⟩ := done
  have replaced : whenPositive (slashedPart bond amount)
      (slashLogged env (state.storage.withLock locked) bond amount)
      (addSlashReward env (slashLogged env (state.storage.withLock locked) bond amount) admin
        (slashedPart bond amount)) = .ok (rewarded.withLock locked) := by
    rw [slashLogged_withLock, rewarding_withLock, rewards]
    rfl
  exact ⟨nonnegative, named, other, bond, found, fits, total, _, replaced, consistent, ledger,
    sent, rfl⟩

/-- A call that does not hold the lock does the same whether it is held or free. -/
theorem invoke_withLock (unguarded : call.guarded = false)
    (done : invoke ext env state call = .ok after) :
    invoke ext env (state.withLock locked) call = .ok (after.withLock locked) := by
  cases call with
  | initializeBond admin =>
      apply storing_withLock _ done
      simp only [initializeBond, map_bind, map_pure]
      rfl
  | setToken admin asset =>
      apply storing_withLock _ done
      simp only [setToken, map_bind, map_pure]
      rfl
  | transferAdmin currentAdmin newAdmin =>
      apply storing_withLock _ done
      simp only [transferAdmin, map_bind, map_pure]
      rfl
  | setEarlyExitConfig admin treasury penaltyBps =>
      apply storing_withLock _ done
      simp only [setEarlyExitConfig, map_bind, map_pure]
      rfl
  | setLiquidationTreasury admin treasury =>
      apply storing_withLock _ done
      simp only [setLiquidationTreasury, map_bind, map_pure]
      rfl
  | setSlashTreasury admin treasury =>
      apply storing_withLock _ done
      simp only [setSlashTreasury, map_bind, map_pure]
      rfl
  | setWeightConfig admin multiplierBps maxWeight =>
      apply storing_withLock _ done
      simp only [setWeightConfig, map_bind, map_pure]
      rfl
  | setCallback address | depositFees amount =>
      obtain rfl := Outcome.pure_eq_ok.mp done
      rfl
  | createBond identity amount duration isRolling noticePeriodDuration =>
      refine Outcome.ok_of_map (State.withLock · locked) ?_ done
      simp only [invoke, createBond, emitTierChangeIfNeeded_events, map_bind, map_pure]
      rfl
  | topUp identity amount =>
      refine Outcome.ok_of_map (State.withLock · locked) ?_ done
      simp only [invoke, topUp, emitTierChangeIfNeeded_events, map_bind, map_pure]
      rfl
  | withdraw identity amount =>
      refine Outcome.ok_of_map (State.withLock · locked) ?_ done
      simp only [invoke, withdraw, emitTierChangeIfNeeded_events, map_bind, map_pure]
      rfl
  | requestWithdrawal identity =>
      apply storing_withLock _ done
      simp only [requestWithdrawal, map_bind, map_pure]
      rfl
  | renewIfRolling identity =>
      apply storing_withLock _ done
      simp only [renewIfRolling, map_bind, map_pure, apply_ite (Functor.map _)]
      rfl
  | extendDuration identity additionalDuration =>
      apply storing_withLock _ done
      simp only [extendDuration, map_bind, map_pure]
      rfl
  | slash admin amount => exact slash_withLock done
  | processClaims user claimTypes maxClaims =>
      refine Outcome.ok_of_map (State.withLock · locked) ?_ done
      simp only [invoke, processClaims, map_bind, map_pure]
      rfl
  | expireClaims user maxIter =>
      apply storing_withLock _ done
      simp only [expireClaimsBounded, pruneClaims, map_bind, map_pure,
        apply_ite (Functor.map _)]
      rfl
  | withdrawEarly | withdrawBond | liquidate | slashBond | collectFees => cases unguarded

/-- A call that does not hold the lock leaves it as it was. -/
theorem locked_of_unguarded (unguarded : call.guarded = false)
    (done : invoke ext env state call = .ok after) :
    after.storage.locked = state.storage.locked := by
  have again : invoke ext env (state.withLock state.storage.locked) call =
      .ok (after.withLock state.storage.locked) := invoke_withLock unguarded done
  rw [State.withLock_self rfl, done] at again
  exact congrArg (fun kept => kept.storage.locked) (Except.ok.inj again)

/-- A call that does not hold the lock does not ask the callback contract. -/
theorem invoke_callback
    {callback : Address → String → Int → State Ledger → Option (State Ledger)}
    (unguarded : call.guarded = false) :
    invoke { ext with callback } env state call = invoke ext env state call := by
  cases call with
  | withdrawEarly | withdrawBond | liquidate | slashBond | collectFees => cases unguarded
  | _ => rfl

end Unguarded

section Guarded

/-- A call that holds the lock finds it free. -/
theorem unlocked_of_guarded (guarded : call.guarded = true)
    (done : invoke ext env state call = .ok after) : state.storage.locked = false := by
  cases call with
  | withdrawEarly identity amount =>
      simp only [invoke, withdrawEarly, Outcome.bind_eq_ok, acquireLock_eq_ok] at done
      obtain ⟨_, ⟨free, -⟩, -⟩ := done
      exact free
  | withdrawBond identity =>
      simp only [invoke, withdrawBond, Outcome.map_eq_ok, Outcome.bind_eq_ok,
        acquireLock_eq_ok] at done
      obtain ⟨_, ⟨_, -, _, ⟨free, -⟩, -⟩, -⟩ := done
      exact free
  | liquidate admin =>
      simp only [invoke, State.storing, liquidate, Outcome.map_eq_ok, Outcome.bind_eq_ok,
        acquireLock_eq_ok] at done
      obtain ⟨_, ⟨_, -, _, ⟨free, -⟩, -⟩, -⟩ := done
      exact free
  | slashBond admin slashAmount idempotencySalt =>
      simp only [invoke, slashBond, Outcome.map_eq_ok, Outcome.bind_eq_ok,
        acquireLock_eq_ok] at done
      obtain ⟨_, ⟨_, -, _, recorded, _, ⟨free, -⟩, -⟩, -⟩ := done
      obtain ⟨_, rfl⟩ := checkAndRecord_ok recorded
      exact free
  | collectFees admin idempotencySalt =>
      simp only [invoke, collectFees, Outcome.map_eq_ok, Outcome.bind_eq_ok,
        acquireLock_eq_ok] at done
      obtain ⟨_, ⟨_, -, _, recorded, _, ⟨free, -⟩, -⟩, -⟩ := done
      obtain ⟨_, rfl⟩ := checkAndRecord_ok recorded
      exact free
  | _ => cases guarded

/-- A call that held the lock leaves it free, whatever the callback contract did. -/
theorem released_of_guarded (guarded : call.guarded = true)
    (done : invoke ext env state call = .ok after) : after.storage.locked = false := by
  cases call with
  | withdrawEarly identity amount =>
      obtain ⟨_, _, _, -, -, -, -, -, -, -, -, stored⟩ := withdrawEarly_ok done
      rw [stored]
  | withdrawBond identity =>
      obtain ⟨⟨_, _⟩, withdrawn, rfl⟩ := Outcome.map_eq_ok.mp done
      obtain ⟨_, _, -, -, -, -, -, -, -, rfl⟩ := withdrawBond_ok withdrawn
      rfl
  | liquidate admin =>
      obtain ⟨stored, liquidated, rfl⟩ := Outcome.map_eq_ok.mp done
      obtain ⟨-, _, -, frame⟩ := liquidate_ok liquidated
      rw [State.store, frame]
  | slashBond admin slashAmount idempotencySalt =>
      obtain ⟨⟨_, _⟩, slashed, rfl⟩ := Outcome.map_eq_ok.mp done
      obtain ⟨_, _, _, -, -, -, -, -, -, -, -, rfl⟩ := slashBond_ok slashed
      rfl
  | collectFees admin idempotencySalt =>
      obtain ⟨⟨_, _⟩, collected, rfl⟩ := Outcome.map_eq_ok.mp done
      obtain ⟨-, _, _, -, rfl⟩ := collectFees_ok collected
      rfl
  | _ => cases guarded

end Guarded

end CredenceBond
