import CredenceContracts.Bond.Change

/-!
# What each call publishes

The event log only grows, and every entry point adds events of its own kinds.  The
table below names them; emitters that no entry point calls are in none of its rows.
-/

namespace CredenceBond

open Soroban Transition

/-- The log grew by events of one kind. -/
def Logs (kind : BondEvent → Bool) (before after : List BondEvent) : Prop :=
  ∃ published, after = before ++ published ∧ ∀ event ∈ published, kind event = true

namespace Logs

variable {kind : BondEvent → Bool} {before middle after : List BondEvent}

theorem refl (events : List BondEvent) : Logs kind events events :=
  ⟨[], by simp, by simp⟩

theorem of_eq (same : after = before) : Logs kind before after :=
  same ▸ refl after

theorem publish {storage : Storage} {event : BondEvent} (logged : Logs kind before storage.events)
    (admitted : kind event = true) : Logs kind before (storage.publish event).events := by
  obtain ⟨published, grown, every⟩ := logged
  refine ⟨published ++ [event], ?_, ?_⟩
  · simp [Storage.publish, grown]
  · intro other member
    rcases List.mem_append.mp member with earlier | last
    · exact every other earlier
    · rwa [List.mem_singleton.mp last]

end Logs

/-- The kinds of events that a call publishes. -/
def Call.publishes : Call → BondEvent → Bool
  | .transferAdmin .., .adminTransferred .. => true
  | .setEarlyExitConfig .., .earlyExitConfigSet .. => true
  | .setLiquidationTreasury .., .liquidationTreasurySet .. => true
  | .setSlashTreasury .., .slashTreasurySet .. => true
  | .createBond .., .tierChanged .. | .createBond .., .tierChangedV2 .. => true
  | .topUp .., .tierChanged .. | .topUp .., .tierChangedV2 .. => true
  | .withdraw .., .tierChanged .. | .withdraw .., .tierChangedV2 .. => true
  | .withdrawEarly .., .earlyExitPenalty .. | .withdrawEarly .., .bondFundTransfer ..
  | .withdrawEarly .., .tierChanged .. | .withdrawEarly .., .tierChangedV2 .. => true
  | .requestWithdrawal .., .withdrawalRequested .. => true
  | .renewIfRolling .., .bondRenewed .. => true
  | .liquidate .., .bondLiquidated .. => true
  | .slash .., .tierChanged .. | .slash .., .tierChangedV2 .. | .slash .., .claimAdded ..
  | .slash .., .bondSlashed .. | .slash .., .bondSlashedV2 .. => true
  | .processClaims .., .claimsProcessed .. => true
  | .expireClaims .., .claimsExpired .. => true
  | _, _ => false

section Operations

variable {Ledger : Type} {ext : Externals Ledger} {self : Address} {env : Env}
variable {state after : State Ledger} {storage stored : Storage} {kind : BondEvent → Bool}
variable {identity admin user : Address} {amount : Int}

/-- A change of tiers adds its two events to whatever was added before. -/
theorem Logs.tierChange {before : List BondEvent} {oldTier newTier : BondTier}
    (logged : Logs kind before storage.events)
    (admitted : kind (.tierChanged identity newTier) = true)
    (admittedV2 : kind (.tierChangedV2 identity oldTier newTier env.timestamp) = true) :
    Logs kind before
      (emitTierChangeIfNeeded env storage identity oldTier newTier).events := by
  unfold emitTierChangeIfNeeded
  split
  · exact logged
  · exact (logged.publish admitted).publish admittedV2

theorem createBond_logs {duration noticePeriodDuration : Nat} {isRolling : Bool}
    (done : createBond ext env state identity amount duration isRolling noticePeriodDuration =
      .ok after) :
    Logs (Call.createBond identity amount duration isRolling noticePeriodDuration).publishes
      state.storage.events after.storage.events := by
  simp only [createBond, Outcome.bind_eq_ok, Outcome.pure_eq_ok] at done
  obtain ⟨_, -, _, -, _, -, _, -, _, -, _, -, rfl⟩ := done
  apply Logs.tierChange
  · exact .refl _
  · rfl
  · rfl

theorem topUp_logs (done : topUp ext env state identity amount = .ok after) :
    Logs (Call.topUp identity amount).publishes state.storage.events after.storage.events := by
  simp only [topUp, Outcome.bind_eq_ok, Outcome.pure_eq_ok] at done
  obtain ⟨_, -, _, -, _, -, _, -, _, -, _, -, _, -, rfl⟩ := done
  apply Logs.tierChange
  · exact .refl _
  · rfl
  · rfl

theorem withdraw_logs (done : withdraw env state identity amount = .ok after) :
    Logs (Call.withdraw identity amount).publishes state.storage.events
      after.storage.events := by
  simp only [withdraw, Outcome.bind_eq_ok, Outcome.pure_eq_ok] at done
  obtain ⟨_, -, _, -, _, -, _, -, _, -, _, -, _, -, _, -, _, -, _, -, rfl⟩ := done
  apply Logs.tierChange
  · exact .refl _
  · rfl
  · rfl

theorem withdrawEarly_logs (done : withdrawEarly ext env state identity amount = .ok after) :
    Logs (Call.withdrawEarly identity amount).publishes state.storage.events
      after.storage.events := by
  simp only [withdrawEarly, Outcome.bind_eq_ok, acquireLock_eq_ok, Outcome.pure_eq_ok] at done
  obtain ⟨_, ⟨-, rfl⟩, bond, -, _, -, _, -, _, -, config, -, _, -, _, -, _, -, bondedAmount, -,
    _, -, charged, paid, _, -, _, -, rfl⟩ := done
  have logged (oldTier newTier : BondTier) :
      Logs (Call.withdrawEarly identity amount).publishes state.storage.events
        (emitTierChangeIfNeeded env (({ state.storage with locked := true }).publish
          (.earlyExitPenalty bond.identity amount (earlyExitPenalty env bond config amount)
            config.treasury)) bond.identity oldTier newTier).events := by
    apply Logs.tierChange
    · exact Logs.publish (.refl _) rfl
    · rfl
    · rfl
  rcases whenPositive_eq_ok.mp paid with ⟨positive, sent⟩ | ⟨-, rfl⟩
  · simp only [transferFromContractWithSource, positive, if_true, Outcome.bind_eq_ok,
      Outcome.pure_eq_ok] at sent
    obtain ⟨_, -, rfl⟩ := sent
    exact (logged _ _).publish rfl
  · exact logged _ _

theorem requestWithdrawal_logs
    (done : requestWithdrawal env storage identity = .ok stored) :
    Logs (Call.requestWithdrawal identity).publishes storage.events stored.events := by
  simp only [requestWithdrawal, Outcome.bind_eq_ok, Outcome.pure_eq_ok] at done
  obtain ⟨_, -, _, -, _, -, _, -, _, -, rfl⟩ := done
  exact Logs.publish (.refl _) rfl

theorem renewIfRolling_logs (done : renewIfRolling env storage identity = .ok stored) :
    Logs (Call.renewIfRolling identity).publishes storage.events stored.events := by
  simp only [renewIfRolling, Outcome.bind_eq_ok] at done
  obtain ⟨_, -, _, -, done⟩ := done
  split at done
  · obtain rfl := Outcome.pure_eq_ok.mp done
    exact .refl _
  · obtain ⟨_, -, done⟩ := Outcome.bind_eq_ok.mp done
    split at done
    · obtain rfl := Outcome.pure_eq_ok.mp done
      exact .refl _
    · obtain ⟨_, -, done⟩ := Outcome.bind_eq_ok.mp done
      obtain rfl := Outcome.pure_eq_ok.mp done
      exact Logs.publish (.refl _) rfl

/-- A liquidation publishes one event. -/
theorem liquidate_events (done : liquidate env storage admin = .ok stored) :
    ∃ identity residual reason, stored.events = storage.events ++
      [.bondLiquidated identity residual reason env.timestamp admin] := by
  simp only [liquidate, Outcome.bind_eq_ok, acquireLock_eq_ok, Outcome.pure_eq_ok] at done
  obtain ⟨_, -, _, ⟨-, rfl⟩, bond, -, _, -, _, -, _, -, _, -, rfl⟩ := done
  exact ⟨_, _, _, rfl⟩

theorem slashLogged_logs (bond : IdentityBond) :
    Logs (Call.slash admin amount).publishes storage.events
      (slashLogged env storage bond amount).events := by
  apply Logs.tierChange
  · exact .refl _
  · rfl
  · rfl

theorem slash_logs (done : slash ext env state admin amount = .ok after) :
    Logs (Call.slash admin amount).publishes state.storage.events after.storage.events := by
  obtain ⟨-, -, -, bond, -, -, -, rewarded, rewards, -, _, -, rfl⟩ := slash_eq_ok.mp done
  have claimed : Logs (Call.slash admin amount).publishes state.storage.events
      rewarded.events := by
    rcases rewarding_events rewards with same | ⟨_, _, _, added⟩
    · rw [same]
      exact slashLogged_logs bond
    · rw [added]
      exact (slashLogged_logs bond).publish rfl
  apply Logs.publish
  · apply Logs.publish
    · exact claimed
    · rfl
  · rfl

theorem processClaims_logs {claimTypes : List ClaimType} {maxClaims : Nat}
    {result : ClaimResult}
    (done : processClaims env ext.token state user claimTypes maxClaims = .ok (after, result)) :
    Logs (Call.processClaims user claimTypes maxClaims).publishes state.storage.events
      after.storage.events := by
  obtain ⟨_, -, -, -, stored⟩ := processClaims_ok done
  rw [stored]
  exact Logs.publish (.refl _) rfl

theorem expireClaims_logs {maxIter count : Nat}
    (done : expireClaimsBounded env storage user maxIter = .ok (stored, count)) :
    Logs (Call.expireClaims user maxIter).publishes storage.events stored.events := by
  simp only [expireClaimsBounded] at done
  split at done
  · obtain ⟨rfl, -⟩ := Prod.mk.inj (Except.ok.inj done)
    exact .refl _
  · rcases pruneClaims_ok done with ⟨-, rfl⟩ | rfl
    · exact .refl _
    · exact Logs.publish (.refl _) rfl

/-- A notification adds nothing. -/
theorem Logs.notified (guarded : ext.Guarded self) {notifying : Storage}
    {before : List BondEvent} {function : String} {argument : Int}
    (told : notify ext (state.store notifying) function argument = .ok after)
    (same : notifying.events = before) :
    Logs kind before (after.store (releaseLock after.storage)).storage.events := by
  have kept : after.storage.events = notifying.events :=
    congrArg Storage.events (notify_ok guarded told).1
  exact .of_eq (kept.trans same)

/-- Every call adds events of its own kinds only. -/
theorem invoke_logs (guarded : ext.Guarded self) {call : Call}
    (done : invoke ext env state call = .ok after) :
    Logs call.publishes state.storage.events after.storage.events := by
  cases call <;> simp only [invoke, storing_eq_ok, Outcome.map_eq_ok] at done
  case initializeBond =>
    obtain ⟨_, done, rfl⟩ := done
    obtain ⟨-, rfl⟩ := initializeBond_eq_ok.mp done
    exact .refl _
  case setToken =>
    obtain ⟨_, done, rfl⟩ := done
    obtain ⟨-, rfl⟩ := setToken_ok done
    exact .refl _
  case transferAdmin =>
    obtain ⟨_, done, rfl⟩ := done
    obtain ⟨-, rfl⟩ := transferAdmin_ok done
    exact Logs.publish (.refl _) rfl
  case setEarlyExitConfig =>
    obtain ⟨_, done, rfl⟩ := done
    obtain ⟨-, rfl⟩ := setEarlyExitConfig_ok done
    exact Logs.publish (.refl _) rfl
  case setLiquidationTreasury =>
    obtain ⟨_, done, rfl⟩ := done
    obtain ⟨-, rfl⟩ := setLiquidationTreasury_ok done
    exact Logs.publish (.refl _) rfl
  case setSlashTreasury =>
    obtain ⟨_, done, rfl⟩ := done
    obtain ⟨-, rfl⟩ := setSlashTreasury_ok done
    exact Logs.publish (.refl _) rfl
  case setWeightConfig =>
    obtain ⟨_, done, rfl⟩ := done
    obtain ⟨-, rfl⟩ := setWeightConfig_ok done
    exact .refl _
  case setCallback | depositFees =>
    obtain rfl := Outcome.pure_eq_ok.mp done
    exact .refl _
  case createBond => exact createBond_logs done
  case topUp => exact topUp_logs done
  case withdraw => exact withdraw_logs done
  case withdrawEarly => exact withdrawEarly_logs done
  case withdrawBond =>
    obtain ⟨⟨_, _⟩, done, rfl⟩ := done
    obtain ⟨_, _, -, -, -, -, -, -, told, rfl⟩ := withdrawBond_ok done
    exact Logs.notified guarded told rfl
  case requestWithdrawal =>
    obtain ⟨_, done, rfl⟩ := done
    exact requestWithdrawal_logs done
  case renewIfRolling =>
    obtain ⟨_, done, rfl⟩ := done
    exact renewIfRolling_logs done
  case extendDuration =>
    obtain ⟨_, done, rfl⟩ := done
    obtain ⟨_, -, -, -, rfl⟩ := extendDuration_ok done
    exact .refl _
  case liquidate =>
    obtain ⟨_, done, rfl⟩ := done
    obtain ⟨_, _, _, logged⟩ := liquidate_events done
    exact ⟨_, logged, by simp [Call.publishes]⟩
  case slash => exact slash_logs done
  case slashBond =>
    obtain ⟨⟨_, _⟩, done, rfl⟩ := done
    obtain ⟨_, _, _, -, -, -, -, -, -, -, told, rfl⟩ := slashBond_ok done
    exact Logs.notified guarded told rfl
  case collectFees =>
    obtain ⟨⟨_, _⟩, done, rfl⟩ := done
    obtain ⟨-, _, _, told, rfl⟩ := collectFees_ok done
    exact Logs.notified guarded told rfl
  case processClaims =>
    obtain ⟨⟨_, _⟩, done, rfl⟩ := done
    exact processClaims_logs done
  case expireClaims =>
    obtain ⟨_, ⟨⟨_, _⟩, done, rfl⟩, rfl⟩ := done
    exact expireClaims_logs done

end Operations

end CredenceBond
