import CredenceContracts.Bond.Spec

/-!
# What a call does to the bond

One relation says what any successful call does to the stored bond and the stored
admin, on whose authority and under which guards.  The amounts of the bond stay
sound along every run.
-/

namespace CredenceBond

open Soroban MachineInt Transition

/-- The calls of the admin that leave the bond alone. -/
def Call.administers : Call → Bool
  | .setToken .. | .setEarlyExitConfig .. | .setLiquidationTreasury .. | .setSlashTreasury ..
  | .setWeightConfig .. | .collectFees .. => true
  | _ => false

/-- The calls open to anyone that leave the bond alone. -/
def Call.bystands : Call → Bool
  | .setCallback .. | .depositFees .. | .processClaims .. | .expireClaims .. => true
  | _ => false

/-- The call leaves the bond alone. -/
def Call.Spares (call : Call) : Prop :=
  call.administers = true ∨ call.bystands = true

/-- Neither the bond nor the admin changes. -/
structure Storage.SameBond (storage stored : Storage) : Prop where
  bond : stored.bond = storage.bond
  admin : stored.admin = storage.admin

/-- The bond is written and the admin stays. -/
structure Storage.Writes (storage stored : Storage) (bond : IdentityBond) : Prop where
  bond : stored.bond = some bond
  admin : stored.admin = storage.admin

theorem Storage.Writes.unique {storage stored : Storage} {bond other : IdentityBond}
    (written : storage.Writes stored bond) (stands : stored.bond = some other) : bond = other :=
  Option.some.inj (written.bond.symm.trans stands)

theorem Storage.Writes.of_eq {storage stored frame : Storage} {bond : IdentityBond}
    (same : stored = frame) (written : frame.bond = some bond)
    (kept : frame.admin = storage.admin) : storage.Writes stored bond :=
  ⟨same ▸ written, same ▸ kept⟩

theorem Storage.stake_of_bond {storage : Storage} {bond : IdentityBond}
    (found : storage.bond = some bond) : storage.stake = bond.stake := by
  simp [Storage.stake, found]

section Change

variable {Ledger : Type}

/-- What a successful call does to the stored bond and the stored admin. -/
inductive Change (ext : Externals Ledger) (env : Env) (before after : State Ledger) :
    Call → Prop where
  | initialized {admin : Address} : env.authorized admin = true →
      after.storage.admin = some admin → after.storage.bond = before.storage.bond →
      Change ext env before after (.initializeBond admin)
  | transferred {currentAdmin newAdmin : Address} : AdminAuthorized env before.storage →
      after.storage.admin = some newAdmin → after.storage.bond = before.storage.bond →
      Change ext env before after (.transferAdmin currentAdmin newAdmin)
  | administered {call : Call} : call.administers = true →
      AdminAuthorized env before.storage → before.storage.SameBond after.storage →
      Change ext env before after call
  | unrelated {call : Call} : call.bystands = true →
      before.storage.SameBond after.storage → Change ext env before after call
  | created {identity : Address} {amount : Int} {duration noticePeriodDuration : Nat}
      {isRolling : Bool} : env.authorized identity = true →
      minBondAmount ≤ amount → amount ≤ maxBondAmount →
      receiveDeposit ext.token env before.storage before.ledger identity amount =
        .ok after.ledger →
      before.storage.Writes after.storage
        { identity
          bondedAmount := amount
          bondStart := env.timestamp
          bondDuration := duration
          slashedAmount := 0
          active := true
          isRolling
          withdrawalRequestedAt := 0
          noticePeriodDuration } →
      Change ext env before after
        (.createBond identity amount duration isRolling noticePeriodDuration)
  | toppedUp {bond : IdentityBond} {amount : Int} : before.storage.bond = some bond →
      env.authorized bond.identity = true → bond.slashedAmount ≤ bond.bondedAmount + amount →
      bond.bondedAmount + amount ≤ maxBondAmount →
      receiveDeposit ext.token env before.storage before.ledger bond.identity amount =
        .ok after.ledger →
      before.storage.Writes after.storage
        { bond with bondedAmount := bond.bondedAmount + amount } →
      Change ext env before after (.topUp bond.identity amount)
  | withdrawn {bond : IdentityBond} {amount : Int} : before.storage.bond = some bond →
      env.authorized bond.identity = true → bond.Matured env.timestamp →
      (bond.isRolling = true → bond.Noticed env.timestamp) → amount ≤ bond.stake →
      FitsI128 (bond.bondedAmount - amount) →
      before.storage.Writes after.storage
        { bond with bondedAmount := bond.bondedAmount - amount } →
      Change ext env before after (.withdraw bond.identity amount)
  | leftEarly {bond : IdentityBond} {amount : Int} : before.storage.bond = some bond →
      0 ≤ amount → amount ≤ bond.stake →
      before.storage.Writes after.storage
        { bond with bondedAmount := bond.bondedAmount - amount } →
      Change ext env before after (.withdrawEarly bond.identity amount)
  | closed {bond : IdentityBond} : before.storage.bond = some bond →
      env.authorized bond.identity = true →
      (bond.isRolling = true → bond.Noticed env.timestamp) → bond.slashedAmount = 0 →
      before.storage.Writes after.storage { bond with bondedAmount := 0, active := false } →
      Change ext env before after (.withdrawBond bond.identity)
  | requested {bond : IdentityBond} : before.storage.bond = some bond →
      env.authorized bond.identity = true →
      before.storage.Writes after.storage
        { bond with withdrawalRequestedAt := env.timestamp } →
      Change ext env before after (.requestWithdrawal bond.identity)
  | renewed {bond : IdentityBond} : before.storage.bond = some bond →
      env.authorized bond.identity = true →
      before.storage.Writes after.storage
        { bond with bondStart := env.timestamp, withdrawalRequestedAt := 0 } →
      Change ext env before after (.renewIfRolling bond.identity)
  | notRenewed {identity : Address} : before.storage.SameBond after.storage →
      Change ext env before after (.renewIfRolling identity)
  | extended {bond : IdentityBond} {additionalDuration : Nat} :
      before.storage.bond = some bond → env.authorized bond.identity = true →
      before.storage.Writes after.storage
        { bond with bondDuration := bond.bondDuration + additionalDuration } →
      Change ext env before after (.extendDuration bond.identity additionalDuration)
  | liquidated {bond : IdentityBond} {admin : Address} : before.storage.bond = some bond →
      AdminAuthorized env before.storage →
      before.storage.Writes after.storage { bond with active := false } →
      Change ext env before after (.liquidate admin)
  | slashed {bond : IdentityBond} {admin : Address} {amount : Int} :
      before.storage.bond = some bond → 0 ≤ amount → before.storage.admin = some admin →
      0 ≤ bond.slashedAmount + slashedPart bond amount + slashedDust bond amount →
      bond.slashedAmount + slashedPart bond amount + slashedDust bond amount ≤
        bond.bondedAmount →
      before.storage.Writes after.storage
        { bond with slashedAmount :=
            bond.slashedAmount + slashedPart bond amount + slashedDust bond amount } →
      Change ext env before after (.slash admin amount)
  | slashBonded {bond : IdentityBond} {admin : Address} {slashAmount : Int}
      {idempotencySalt : Bytes} : before.storage.bond = some bond →
      AdminAuthorized env before.storage →
      0 ≤ wrappingI128 (bond.slashedAmount + slashAmount) →
      wrappingI128 (bond.slashedAmount + slashAmount) ≤ bond.bondedAmount →
      before.storage.Writes after.storage
        { bond with slashedAmount := wrappingI128 (bond.slashedAmount + slashAmount) } →
      Change ext env before after (.slashBond admin slashAmount idempotencySalt)

variable {ext : Externals Ledger} {self : Address} {env : Env} {state before after : State Ledger}

theorem storing_eq_ok {result : Outcome Storage} :
    state.storing result = .ok after ↔ ∃ storage, result = .ok storage ∧
      after = state.store storage := by
  simp [State.storing]

/-- Every successful call is one of the changes. -/
theorem invoke_change (guarded : ext.Guarded self) {call : Call}
    (done : invoke ext env before call = .ok after) : Change ext env before after call := by
  cases call <;> simp only [invoke, storing_eq_ok, Outcome.map_eq_ok] at done
  case initializeBond =>
    obtain ⟨_, done, rfl⟩ := done
    obtain ⟨authorized, rfl⟩ := initializeBond_eq_ok.mp done
    exact .initialized authorized rfl rfl
  case setToken =>
    obtain ⟨_, done, rfl⟩ := done
    obtain ⟨authorized, rfl⟩ := setToken_ok done
    exact .administered rfl authorized ⟨rfl, rfl⟩
  case transferAdmin =>
    obtain ⟨_, done, rfl⟩ := done
    obtain ⟨authorized, rfl⟩ := transferAdmin_ok done
    exact .transferred authorized rfl rfl
  case setEarlyExitConfig =>
    obtain ⟨_, done, rfl⟩ := done
    obtain ⟨authorized, rfl⟩ := setEarlyExitConfig_ok done
    exact .administered rfl authorized ⟨rfl, rfl⟩
  case setLiquidationTreasury =>
    obtain ⟨_, done, rfl⟩ := done
    obtain ⟨authorized, rfl⟩ := setLiquidationTreasury_ok done
    exact .administered rfl authorized ⟨rfl, rfl⟩
  case setSlashTreasury =>
    obtain ⟨_, done, rfl⟩ := done
    obtain ⟨authorized, rfl⟩ := setSlashTreasury_ok done
    exact .administered rfl authorized ⟨rfl, rfl⟩
  case setWeightConfig =>
    obtain ⟨_, done, rfl⟩ := done
    obtain ⟨authorized, rfl⟩ := setWeightConfig_ok done
    exact .administered rfl authorized ⟨rfl, rfl⟩
  case setCallback =>
    obtain rfl : after = _ := Outcome.pure_eq_ok.mp done
    exact .unrelated rfl ⟨rfl, rfl⟩
  case depositFees =>
    obtain rfl : after = _ := Outcome.pure_eq_ok.mp done
    exact .unrelated rfl ⟨rfl, rfl⟩
  case createBond =>
    obtain ⟨authorized, low, high, received, stored⟩ := createBond_ok done
    exact .created authorized low high received (.of_eq stored rfl rfl)
  case topUp =>
    obtain ⟨bond, found, rfl, authorized, within, high, received, stored⟩ := topUp_ok done
    exact .toppedUp found authorized within high received (.of_eq stored rfl rfl)
  case withdraw =>
    obtain ⟨bond, found, rfl, authorized, matured, noticed, within, fits, -, stored⟩ :=
      withdraw_ok done
    exact .withdrawn found authorized matured noticed within fits (.of_eq stored rfl rfl)
  case withdrawEarly =>
    obtain ⟨bond, _, _, found, rfl, -, within, low, high, -, -, stored⟩ := withdrawEarly_ok done
    exact .leftEarly found (low.trans high) within (.of_eq stored rfl rfl)
  case withdrawBond =>
    obtain ⟨⟨_, withdrawn⟩, done, rfl⟩ := done
    obtain ⟨bond, notified, found, rfl, authorized, noticed, unslashed, -, told, rfl⟩ :=
      withdrawBond_ok done
    have kept := notify_released guarded told
    exact .closed found authorized noticed unslashed (.of_eq kept rfl rfl)
  case requestWithdrawal =>
    obtain ⟨_, done, rfl⟩ := done
    obtain ⟨bond, found, rfl, authorized, -, stored⟩ := requestWithdrawal_ok done
    exact .requested found authorized (.of_eq stored rfl rfl)
  case renewIfRolling =>
    obtain ⟨_, done, rfl⟩ := done
    rcases renewIfRolling_ok done with rfl | ⟨bond, found, rfl, authorized, stored⟩
    · exact .notRenewed ⟨rfl, rfl⟩
    · exact .renewed found authorized (.of_eq stored rfl rfl)
  case extendDuration =>
    obtain ⟨_, done, rfl⟩ := done
    obtain ⟨bond, found, rfl, authorized, rfl⟩ := extendDuration_ok done
    exact .extended found authorized ⟨rfl, rfl⟩
  case liquidate =>
    obtain ⟨_, done, rfl⟩ := done
    obtain ⟨authorized, bond, found, stored⟩ := liquidate_ok done
    exact .liquidated found authorized (.of_eq stored rfl rfl)
  case slash =>
    obtain ⟨bond, found, nonnegative, named, -, -, high, low, stored⟩ := slash_ok done
    exact .slashed found nonnegative named low high (.of_eq stored rfl rfl)
  case slashBond =>
    obtain ⟨⟨_, total⟩, done, rfl⟩ := done
    obtain ⟨bond, notified, _, found, -, authorized, named, rfl, low, high, told, rfl⟩ :=
      slashBond_ok done
    have kept := notify_released guarded told
    exact .slashBonded found ⟨_, named, authorized⟩ low high (.of_eq kept rfl rfl)
  case collectFees =>
    obtain ⟨⟨_, fees⟩, done, rfl⟩ := done
    obtain ⟨authorized, _, notified, told, rfl⟩ := collectFees_ok done
    have kept := notify_released guarded told
    exact .administered rfl authorized ⟨by rw [kept]; rfl, by rw [kept]; rfl⟩
  case processClaims =>
    obtain ⟨⟨_, result⟩, done, rfl⟩ := done
    obtain ⟨_, -, -, -, stored⟩ := processClaims_ok done
    exact .unrelated rfl ⟨by rw [stored]; rfl, by rw [stored]; rfl⟩
  case expireClaims =>
    obtain ⟨_, ⟨⟨_, count⟩, done, rfl⟩, rfl⟩ := done
    obtain ⟨claims, events, rfl⟩ := expireClaimsBounded_frame done
    exact .unrelated rfl ⟨rfl, rfl⟩

end Change

section Rest

/-- The entries that no modelled call writes keep their values. -/
structure Storage.KeepsRest (storage stored : Storage) : Prop where
  lastCollateralIncreaseLedger :
    stored.lastCollateralIncreaseLedger = storage.lastCollateralIncreaseLedger
  subjectAttestations : stored.subjectAttestations = storage.subjectAttestations
  subjectAttestationCount : stored.subjectAttestationCount = storage.subjectAttestationCount

theorem Storage.KeepsRest.of_eq {storage stored frame : Storage} (same : stored = frame)
    (ledger : frame.lastCollateralIncreaseLedger = storage.lastCollateralIncreaseLedger)
    (attestations : frame.subjectAttestations = storage.subjectAttestations)
    (count : frame.subjectAttestationCount = storage.subjectAttestationCount) :
    storage.KeepsRest stored :=
  ⟨same ▸ ledger, same ▸ attestations, same ▸ count⟩

variable {Ledger : Type} {ext : Externals Ledger} {self : Address} {env : Env}
variable {before after : State Ledger}

theorem invoke_keepsRest (guarded : ext.Guarded self) {call : Call}
    (done : invoke ext env before call = .ok after) :
    before.storage.KeepsRest after.storage := by
  cases call <;> simp only [invoke, storing_eq_ok, Outcome.map_eq_ok] at done
  case initializeBond =>
    obtain ⟨_, done, rfl⟩ := done
    exact .of_eq (initializeBond_eq_ok.mp done).2 rfl rfl rfl
  case setToken =>
    obtain ⟨_, done, rfl⟩ := done
    exact .of_eq (setToken_ok done).2 rfl rfl rfl
  case transferAdmin =>
    obtain ⟨_, done, rfl⟩ := done
    exact .of_eq (transferAdmin_ok done).2 rfl rfl rfl
  case setEarlyExitConfig =>
    obtain ⟨_, done, rfl⟩ := done
    exact .of_eq (setEarlyExitConfig_ok done).2 rfl rfl rfl
  case setLiquidationTreasury =>
    obtain ⟨_, done, rfl⟩ := done
    exact .of_eq (setLiquidationTreasury_ok done).2 rfl rfl rfl
  case setSlashTreasury =>
    obtain ⟨_, done, rfl⟩ := done
    exact .of_eq (setSlashTreasury_ok done).2 rfl rfl rfl
  case setWeightConfig =>
    obtain ⟨_, done, rfl⟩ := done
    exact .of_eq (setWeightConfig_ok done).2 rfl rfl rfl
  case setCallback | depositFees =>
    obtain rfl := Outcome.pure_eq_ok.mp done
    exact .of_eq rfl rfl rfl rfl
  case createBond =>
    obtain ⟨-, -, -, -, stored⟩ := createBond_ok done
    exact .of_eq stored rfl rfl rfl
  case topUp =>
    obtain ⟨_, -, -, -, -, -, -, stored⟩ := topUp_ok done
    exact .of_eq stored rfl rfl rfl
  case withdraw =>
    obtain ⟨_, -, -, -, -, -, -, -, -, stored⟩ := withdraw_ok done
    exact .of_eq stored rfl rfl rfl
  case withdrawEarly =>
    obtain ⟨_, _, _, -, -, -, -, -, -, -, -, stored⟩ := withdrawEarly_ok done
    exact .of_eq stored rfl rfl rfl
  case withdrawBond =>
    obtain ⟨⟨_, _⟩, done, rfl⟩ := done
    obtain ⟨_, _, -, -, -, -, -, -, told, rfl⟩ := withdrawBond_ok done
    exact .of_eq (notify_released guarded told) rfl rfl rfl
  case requestWithdrawal =>
    obtain ⟨_, done, rfl⟩ := done
    obtain ⟨_, -, -, -, -, stored⟩ := requestWithdrawal_ok done
    exact .of_eq stored rfl rfl rfl
  case renewIfRolling =>
    obtain ⟨_, done, rfl⟩ := done
    rcases renewIfRolling_ok done with stored | ⟨_, -, -, -, stored⟩
    · exact .of_eq stored rfl rfl rfl
    · exact .of_eq stored rfl rfl rfl
  case extendDuration =>
    obtain ⟨_, done, rfl⟩ := done
    obtain ⟨_, -, -, -, stored⟩ := extendDuration_ok done
    exact .of_eq stored rfl rfl rfl
  case liquidate =>
    obtain ⟨_, done, rfl⟩ := done
    obtain ⟨-, _, -, stored⟩ := liquidate_ok done
    exact .of_eq stored rfl rfl rfl
  case slash =>
    obtain ⟨_, -, -, -, -, -, -, -, stored⟩ := slash_ok done
    exact .of_eq stored rfl rfl rfl
  case slashBond =>
    obtain ⟨⟨_, _⟩, done, rfl⟩ := done
    obtain ⟨_, _, _, -, -, -, -, -, -, -, told, rfl⟩ := slashBond_ok done
    exact .of_eq (notify_released guarded told) rfl rfl rfl
  case collectFees =>
    obtain ⟨⟨_, _⟩, done, rfl⟩ := done
    obtain ⟨-, _, _, told, rfl⟩ := collectFees_ok done
    exact .of_eq (notify_released guarded told) rfl rfl rfl
  case processClaims =>
    obtain ⟨⟨_, _⟩, done, rfl⟩ := done
    obtain ⟨_, -, -, -, stored⟩ := processClaims_ok done
    exact .of_eq stored rfl rfl rfl
  case expireClaims =>
    obtain ⟨_, ⟨⟨_, _⟩, done, rfl⟩, rfl⟩ := done
    obtain ⟨_, _, stored⟩ := expireClaimsBounded_frame done
    exact .of_eq stored rfl rfl rfl

end Rest

section Holding

/-- The owner and the two amounts of a bond. -/
def IdentityBond.holding (bond : IdentityBond) : Address × Int × Int :=
  (bond.identity, bond.bondedAmount, bond.slashedAmount)

/-- The call deposits, withdraws or slashes. -/
def Call.movesStake : Call → Bool
  | .createBond .. | .topUp .. | .withdraw .. | .withdrawEarly .. | .withdrawBond ..
  | .slash .. | .slashBond .. => true
  | _ => false

variable {Ledger : Type} {ext : Externals Ledger} {self : Address} {env : Env}
variable {state after : State Ledger}

/-- A call that neither deposits nor withdraws nor slashes keeps the owner and the
amounts of the bond. -/
theorem invoke_holding (guarded : ext.Guarded self) {call : Call}
    (still : call.movesStake = false) (done : invoke ext env state call = .ok after) :
    after.storage.bond.map IdentityBond.holding =
      state.storage.bond.map IdentityBond.holding := by
  cases invoke_change guarded done with
  | initialized _ _ same | transferred _ _ same => rw [same]
  | administered _ _ same | unrelated _ same | notRenewed same => rw [same.bond]
  | requested found _ written | renewed found _ written | extended found _ written
  | liquidated found _ written => rw [found, written.bond]; rfl
  | _ => cases still

end Holding

section Soundness

/-- No more is slashed than is bonded, and the bonded amount is a signed word. -/
structure IdentityBond.Sound (bond : IdentityBond) : Prop where
  nonnegative : 0 ≤ bond.slashedAmount
  within : bond.slashedAmount ≤ bond.bondedAmount
  bounded : bond.bondedAmount < 2 ^ 127

theorem IdentityBond.Sound.stake_nonneg {bond : IdentityBond} (sound : bond.Sound) :
    0 ≤ bond.stake :=
  sub_nonneg.mpr sound.within

def Storage.Sound (storage : Storage) : Prop :=
  ∀ bond, storage.bond = some bond → bond.Sound

variable {storage stored : Storage} {bond : IdentityBond}

theorem Storage.Sound.same (sound : storage.Sound) (same : stored.bond = storage.bond) :
    stored.Sound :=
  fun bond kept => sound bond (same ▸ kept)

theorem Storage.Writes.sound (written : storage.Writes stored bond) (sound : bond.Sound) :
    stored.Sound := by
  rintro _ found
  obtain rfl := written.unique found
  exact sound

variable {Ledger : Type} {ext : Externals Ledger} {self : Address} {env : Env}
variable {before after start final : State Ledger}

theorem Change.sound {call : Call} (change : Change ext env before after call)
    (sound : before.storage.Sound) : after.storage.Sound := by
  cases change with
  | initialized _ _ same | transferred _ _ same => exact sound.same same
  | administered _ _ same | unrelated _ same | notRenewed same => exact sound.same same.bond
  | created _ low high _ written =>
      have positive : 0 ≤ minBondAmount := by decide
      exact written.sound ⟨le_rfl, positive.trans low, high.trans_lt (by decide)⟩
  | toppedUp found _ within high _ written =>
      exact written.sound ⟨(sound _ found).nonnegative, within, high.trans_lt (by decide)⟩
  | withdrawn found _ _ _ within fits written =>
      exact written.sound ⟨(sound _ found).nonnegative, le_sub_comm.mp within, fits.2⟩
  | leftEarly found positive within written =>
      have bounded := (sound _ found).bounded
      exact written.sound ⟨(sound _ found).nonnegative, le_sub_comm.mp within,
        (sub_le_self _ positive).trans_lt bounded⟩
  | closed found _ _ unslashed written =>
      have none : (0 : Int) < 2 ^ 127 := by decide
      exact written.sound ⟨unslashed.ge, unslashed.le, none⟩
  | requested found _ written | renewed found _ written | extended found _ written
  | liquidated found _ written =>
      obtain ⟨nonnegative, within, bounded⟩ := sound _ found
      exact written.sound ⟨nonnegative, within, bounded⟩
  | slashed found _ _ low high written | slashBonded found _ low high written =>
      exact written.sound ⟨low, high, (sound _ found).bounded⟩

/-- What happens next is a change by a call, or leaves the bond alone. -/
theorem step_change {label : Label} (guarded : ext.Guarded self)
    (stepped : Step ext self before label after) :
    (∃ call, label.act = .call call ∧ label.env.currentContractAddress = self ∧
        Change ext label.env before after call) ∨
      label.act = .elsewhere ∧ before.storage.SameBond after.storage := by
  cases stepped with
  | @call _ _ _ call addressed done =>
      exact .inl ⟨call, rfl, addressed, invoke_change guarded done⟩
  | elsewhere => exact .inr ⟨rfl, rfl, rfl⟩

/-- The amounts of the bond are sound in every state of a run that begins without
a bond. -/
theorem Storage.Sound.of_run {trace : List (Event (State Ledger) Label)}
    (guarded : ext.Guarded self) (unbonded : start.storage.bond = none)
    (run : Run (Step ext self) start trace final) : final.storage.Sound := by
  apply run.invariant (fun state => state.storage.Sound)
  · intro bond found
    simp [unbonded] at found
  · intro event sound stepped
    rcases step_change guarded stepped with ⟨call, -, -, change⟩ | ⟨-, same⟩
    · exact change.sound sound
    · exact sound.same same.bond

/-- Every step of a run that begins without a bond finds sound amounts, and is a
change by a call or leaves the bond alone. -/
theorem change_of_mem {trace : List (Event (State Ledger) Label)} (guarded : ext.Guarded self)
    (unbonded : start.storage.bond = none) (run : Run (Step ext self) start trace final)
    {event : Event (State Ledger) Label} (member : event ∈ trace) :
    event.before.storage.Sound ∧
      ((∃ call, event.label.act = .call call ∧
          event.label.env.currentContractAddress = self ∧
            Change ext event.label.env event.before event.after call) ∨
        event.label.act = .elsewhere ∧ event.before.storage.SameBond event.after.storage) := by
  obtain ⟨earlier, reached, stepped⟩ := run.reached_of_mem member
  exact ⟨.of_run guarded unbonded reached, step_change guarded stepped⟩

end Soundness

end CredenceBond
