import CredenceContracts.Bond.Change

/-!
# Custody of the bond token

A call that lowers the withdrawable stake should pay what it takes off.  Leaving
early does; withdrawing after the lock-up and closing the bond lower the record
and pay nothing.  Where nothing is left for these two to pay, a user who was never
slashed gets every deposit back, less the penalties.
-/

namespace CredenceBond

open Soroban MachineInt Transition

/-- The user whose bond an act takes stake off. -/
def Act.exits : Act → Option Address
  | .call (.withdraw identity _) | .call (.withdrawEarly identity _)
  | .call (.withdrawBond identity) => some identity
  | _ => none

/-- What an act charges for leaving early. -/
def Label.penalty (label : Label) (before : Storage) : Int :=
  match label.act, before.bond, before.earlyExitConfig with
  | .call (.withdrawEarly _ amount), some bond, some config =>
      earlyExitPenalty label.env bond config amount
  | _, _, _ => 0

def Storage.earlyExitTreasury (storage : Storage) : Option Address :=
  storage.earlyExitConfig.map EarlyExitConfig.treasury

section Custody

variable {Ledger : Type} (ext : Externals Ledger) (self asset : Address)

/-- An exit that takes something off the stake pays just that: the penalty to the
treasury for early exits and the rest to the owner, out of the contract. -/
def Custody (event : Event (State Ledger) Label) : Prop :=
  ∀ owner, event.label.act.exits = some owner →
    event.after.storage.stake < event.before.storage.stake →
      let withdrawn := event.before.storage.stake - event.after.storage.stake
      let penalty := event.label.penalty event.before.storage
      ext.token.balance event.after.ledger asset self =
          ext.token.balance event.before.ledger asset self - withdrawn ∧
        ∀ account, account ≠ self →
          ext.token.balance event.after.ledger asset account =
            ext.token.balance event.before.ledger asset account +
              (if account = owner then withdrawn - penalty else 0) +
              (if event.before.storage.earlyExitTreasury = some account then penalty else 0)

/-- The act is no exit, pays what it takes off the stake or has nothing to pay. -/
def Label.Pays (label : Label) (before : Storage) : Prop :=
  match label.act with
  | .call (.withdraw _ amount) => amount ≤ 0
  | .call (.withdrawBond _) => before.stake ≤ 0
  | _ => True

end Custody

section Exits

variable {Ledger : Type} {ext : Externals Ledger} {self asset : Address} {env : Env}
variable {before after : State Ledger} {identity : Address} {amount : Int}

theorem withdraw_stake (done : withdraw env before identity amount = .ok after) :
    after.storage.stake = before.storage.stake - amount := by
  obtain ⟨bond, found, -, -, -, -, -, -, -, stored⟩ := withdraw_ok done
  rw [stored]
  simp only [Storage.stake, IdentityBond.stake, found]
  omega

theorem withdrawBond_stake {withdrawn : Int} (guarded : ext.Guarded self)
    (done : withdrawBond ext env before identity = .ok (after, withdrawn)) :
    after.storage.stake = 0 ∧ ∀ asset, ext.token.balance before.ledger asset self ≤
      ext.token.balance after.ledger asset self := by
  obtain ⟨bond, notified, -, -, -, -, unslashed, -, told, rfl⟩ := withdrawBond_ok done
  obtain ⟨kept, held⟩ := notify_ok guarded told
  refine ⟨?_, held⟩
  simp [State.store, releaseLock, kept, Storage.stake, IdentityBond.stake, unslashed]

theorem withdrawEarly_stake (done : withdrawEarly ext env before identity amount = .ok after) :
    after.storage.stake = before.storage.stake - amount := by
  obtain ⟨bond, config, middle, found, -, -, -, -, -, -, -, stored⟩ := withdrawEarly_ok done
  rw [stored]
  simp only [Storage.stake, IdentityBond.stake, found]
  omega

theorem withdrawEarly_custody (exact : ext.token.Exact)
    (configured : before.storage.bondToken = some asset)
    (addressed : env.currentContractAddress = self)
    (done : withdrawEarly ext env before identity amount = .ok after) :
    Custody ext self asset ⟨before, ⟨env, .call (.withdrawEarly identity amount)⟩, after⟩ := by
  rintro _ ⟨⟩ -
  have lowered := withdrawEarly_stake done
  obtain ⟨bond, config, middle, found, -, charged, -, -, -, first, second, -⟩ :=
    withdrawEarly_ok done
  obtain ⟨penalised, heldFirst⟩ := transferFromContract_ok exact configured first
  obtain ⟨paid, heldSecond⟩ := transferFromContract_ok exact configured second
  have penalty : Label.penalty ⟨env, .call (.withdrawEarly identity amount)⟩ before.storage =
      earlyExitPenalty env bond config amount := by
    simp [Label.penalty, found, charged]
  rw [addressed] at heldFirst heldSecond penalised paid
  simp only [lowered, penalty, sub_sub_cancel]
  refine ⟨by omega, fun account other => ?_⟩
  have one := penalised account
  have two := paid account
  rw [if_neg other] at one two
  simp only [Storage.earlyExitTreasury, charged, Option.map_some, Option.some.injEq,
    eq_comm (a := config.treasury)]
  omega

/-- An exit that leaves the contract's own tokens in place has custody only where it
takes nothing off the stake. -/
theorem custody_iff_of_unpaid {event : Event (State Ledger) Label}
    (leaves : event.label.act.exits = some identity)
    (held : ext.token.balance event.before.ledger asset self ≤
      ext.token.balance event.after.ledger asset self) :
    Custody ext self asset event ↔ event.before.storage.stake ≤ event.after.storage.stake := by
  constructor
  · intro custody
    by_contra! lowered
    have paid := (custody identity leaves lowered).1
    omega
  · intro kept owner _ lowered
    exact absurd lowered kept.not_gt

/-- Leaving early has custody; withdrawing and closing have it exactly where they
have nothing to pay. -/
theorem step_custody_iff {label : Label} (exact : ext.token.Exact) (guarded : ext.Guarded self)
    (configured : before.storage.bondToken = some asset)
    (stepped : Step ext self before label after) :
    Custody ext self asset ⟨before, label, after⟩ ↔ label.Pays before.storage := by
  cases stepped with
  | elsewhere => exact iff_of_true (fun _ leaves => by cases leaves) trivial
  | @call _ _ _ call addressed done =>
      cases call <;> simp only [invoke, Outcome.map_eq_ok] at done
      case withdraw identity amount =>
        obtain ⟨_, _, _, _, _, _, _, _, same, _⟩ := withdraw_ok done
        refine (custody_iff_of_unpaid rfl (by rw [same])).trans ?_
        simp only [withdraw_stake done, Label.Pays]
        omega
      case withdrawBond identity =>
        obtain ⟨⟨_, withdrawn⟩, done, rfl⟩ := done
        obtain ⟨closed, held⟩ := withdrawBond_stake guarded done
        refine (custody_iff_of_unpaid rfl (held asset)).trans ?_
        simp only [closed, Label.Pays]
      case withdrawEarly identity amount =>
        exact iff_of_true (withdrawEarly_custody exact configured addressed done) trivial
      all_goals exact iff_of_true (fun _ leaves => by cases leaves) trivial

end Exits

section Accounts

variable {Ledger : Type} (ext : Externals Ledger) (self asset user : Address)

/-- The withdrawable stake of a user, none where the bond is not the user's. -/
def Storage.stakeOf (storage : Storage) : Int :=
  match storage.bond with
  | some bond => if bond.identity = user then bond.stake else 0
  | none => 0

/-- What a call deposits for a user. -/
def Label.deposited (label : Label) : Int :=
  match label.act with
  | .call (.createBond identity amount ..) | .call (.topUp identity amount) =>
      if identity = user then amount else 0
  | _ => 0

/-- What a user's balance gains in an exit of the user that lowers the stake. -/
def received (event : Event (State Ledger) Label) : Int :=
  if event.label.act.exits = some user ∧
      event.after.storage.stake < event.before.storage.stake then
    ext.token.balance event.after.ledger asset user -
      ext.token.balance event.before.ledger asset user
  else 0

/-- What a user is charged for leaving early, nothing where the user is the treasury. -/
def charged (event : Event (State Ledger) Label) : Int :=
  if event.label.act.exits = some user ∧
      event.before.storage.earlyExitTreasury ≠ some user then
    event.label.penalty event.before.storage
  else 0

/-- The act does not change a stake without paying it in or out. -/
def Label.Settled (label : Label) (before : Storage) : Prop :=
  match label.act with
  | .call (.createBond ..) | .call (.withdrawBond _) => before.stake = 0
  | .call (.withdraw _ amount) => amount = 0
  | _ => True

/-- Nothing of the bond is slashed where it is the user's. -/
def Storage.Unslashed (storage : Storage) : Prop :=
  ∀ bond ∈ storage.bond, bond.identity = user → bond.slashedAmount = 0

instance (storage : Storage) : Decidable (storage.Unslashed user) :=
  inferInstanceAs (Decidable (∀ bond ∈ storage.bond,
    bond.identity = user → bond.slashedAmount = 0))

/-- The bond is not the contract's own. -/
def Storage.OwnedElsewhere (storage : Storage) : Prop :=
  ∀ bond, storage.bond = some bond → bond.identity ≠ self

end Accounts

section Steps

variable {Ledger : Type} {ext : Externals Ledger} {self asset user : Address} {env : Env}
variable {before after : State Ledger} {identity : Address} {amount : Int}

/-- What a step means for a user: the stake moves by what was deposited less what
was received and charged. -/
def Accounted (ext : Externals Ledger) (asset user : Address)
    (event : Event (State Ledger) Label) : Prop :=
  event.after.storage.stakeOf user = event.before.storage.stakeOf user +
    event.label.deposited user - received ext asset user event - charged user event

/-- A bond that keeps its owner and amounts keeps every stake. -/
theorem stakeOf_of_holding {storage stored : Storage}
    (same : stored.bond.map IdentityBond.holding = storage.bond.map IdentityBond.holding) :
    stored.stakeOf user = storage.stakeOf user := by
  unfold Storage.stakeOf
  cases found : storage.bond <;> cases kept : stored.bond <;>
    simp_all [IdentityBond.holding, IdentityBond.stake]

theorem ownedElsewhere_of_holding {storage stored : Storage}
    (same : stored.bond.map IdentityBond.holding = storage.bond.map IdentityBond.holding)
    (owned : storage.OwnedElsewhere self) : stored.OwnedElsewhere self := by
  intro bond kept
  rw [kept] at same
  obtain ⟨held, found, equal⟩ := Option.map_eq_some_iff.mp same.symm
  have owner : held.identity = bond.identity := congrArg Prod.fst equal
  exact owner ▸ owned held found

theorem stakeOf_eq_zero {storage : Storage} (nothing : storage.stake = 0) :
    storage.stakeOf user = 0 := by
  unfold Storage.stakeOf
  split
  · rename_i bond found
    have none : bond.stake = 0 := by simpa [Storage.stake, found] using nothing
    simp [none]
  · rfl

theorem ownedElsewhere_of_owner {storage stored : Storage} {bond updated : IdentityBond}
    (found : storage.bond = some bond) (kept : stored.bond = some updated)
    (owner : updated.identity = bond.identity) (owned : storage.OwnedElsewhere self) :
    stored.OwnedElsewhere self := by
  rintro _ same
  obtain rfl := Option.some.inj (kept.symm.trans same)
  exact owner ▸ owned bond found

/-- An act that deposits nothing and is no exit is accounted for when it keeps the
stake of the user. -/
theorem accounted_of_kept {event : Event (State Ledger) Label}
    (stays : event.label.act.exits = none) (nothing : event.label.deposited user = 0)
    (kept : event.after.storage.stakeOf user = event.before.storage.stakeOf user) :
    Accounted ext asset user event := by
  simp [Accounted, received, charged, stays, nothing, kept]

theorem createBond_accounted {duration noticePeriodDuration : Nat} {isRolling : Bool}
    (exact : ext.token.Exact) (configured : before.storage.bondToken = some asset)
    (addressed : env.currentContractAddress = self) (empty : before.storage.stake = 0)
    (done : createBond ext env before identity amount duration isRolling noticePeriodDuration =
      .ok after) :
    Accounted ext asset user ⟨before, ⟨env, .call (.createBond identity amount duration
        isRolling noticePeriodDuration)⟩, after⟩ ∧ after.storage.OwnedElsewhere self := by
  obtain ⟨-, low, -, received, stored⟩ := createBond_ok done
  have positive : 0 < amount := lt_of_lt_of_le (by decide) low
  have other := (receiveDeposit_ok exact configured received).2.2 positive
  rw [addressed] at other
  constructor
  · rw [Accounted, stored, stakeOf_eq_zero empty]
    simp [Storage.stakeOf, IdentityBond.stake, Label.deposited, CredenceBond.received, charged,
      Act.exits]
  · rw [stored]
    rintro _ ⟨⟩
    exact other

theorem topUp_accounted (owned : before.storage.OwnedElsewhere self)
    (done : topUp ext env before identity amount = .ok after) :
    Accounted ext asset user ⟨before, ⟨env, .call (.topUp identity amount)⟩, after⟩ ∧
      after.storage.OwnedElsewhere self := by
  obtain ⟨bond, found, rfl, -, -, -, -, stored⟩ := topUp_ok done
  refine ⟨?_, ownedElsewhere_of_owner found (congrArg Storage.bond stored) rfl owned⟩
  rw [Accounted, stored]
  simp only [Storage.stakeOf, found, IdentityBond.stake, Label.deposited, received, charged,
    Act.exits]
  split <;> simp
  omega

theorem withdraw_accounted (owned : before.storage.OwnedElsewhere self)
    (done : withdraw env before identity 0 = .ok after) :
    Accounted ext asset user ⟨before, ⟨env, .call (.withdraw identity 0)⟩, after⟩ ∧
      after.storage.OwnedElsewhere self := by
  have kept := withdraw_stake done
  obtain ⟨bond, found, -, -, -, -, -, -, -, stored⟩ := withdraw_ok done
  have same : after.storage.bond = before.storage.bond := by
    rw [stored, found]
    simp
  refine ⟨?_, ownedElsewhere_of_holding (by rw [same]) owned⟩
  have stakes : after.storage.stakeOf user = before.storage.stakeOf user :=
    stakeOf_of_holding (by rw [same])
  simp [Accounted, received, charged, kept, stakes, Label.penalty, Label.deposited]

theorem withdrawBond_accounted {withdrawn : Int} (guarded : ext.Guarded self)
    (owned : before.storage.OwnedElsewhere self) (empty : before.storage.stake = 0)
    (done : withdrawBond ext env before identity = .ok (after, withdrawn)) :
    Accounted ext asset user ⟨before, ⟨env, .call (.withdrawBond identity)⟩, after⟩ ∧
      after.storage.OwnedElsewhere self := by
  have closed := (withdrawBond_stake guarded done).1
  constructor
  · simp [Accounted, received, charged, stakeOf_eq_zero empty, stakeOf_eq_zero closed, empty,
      closed, Label.penalty, Label.deposited]
  · obtain ⟨bond, notified, found, -, -, -, -, -, told, rfl⟩ := withdrawBond_ok done
    exact ownedElsewhere_of_owner found (congrArg Storage.bond (notify_ok guarded told).1) rfl
      owned

theorem withdrawEarly_accounted (exact : ext.token.Exact)
    (configured : before.storage.bondToken = some asset)
    (addressed : env.currentContractAddress = self)
    (owned : before.storage.OwnedElsewhere self)
    (done : withdrawEarly ext env before identity amount = .ok after) :
    Accounted ext asset user ⟨before, ⟨env, .call (.withdrawEarly identity amount)⟩, after⟩ ∧
      after.storage.OwnedElsewhere self := by
  have custody := withdrawEarly_custody exact configured addressed done
  have lowered := withdrawEarly_stake done
  obtain ⟨bond, config, _, found, rfl, charging, -, low, high, -, -, stored⟩ :=
    withdrawEarly_ok done
  refine ⟨?_, ownedElsewhere_of_owner found (congrArg Storage.bond stored) rfl owned⟩
  have penalty : Label.penalty ⟨env, .call (.withdrawEarly bond.identity amount)⟩
      before.storage = earlyExitPenalty env bond config amount := by
    simp [Label.penalty, found, charging]
  have stakes : after.storage.stakeOf user = before.storage.stakeOf user -
      (if bond.identity = user then amount else 0) := by
    rw [stored]
    simp only [Storage.stakeOf, found, IdentityBond.stake]
    split <;> omega
  by_cases owner : bond.identity = user
  · subst owner
    have other := owned bond found
    have leaves : Act.exits (.call (.withdrawEarly bond.identity amount)) =
        some bond.identity := rfl
    simp only [Accounted, received, charged, stakes, leaves, lowered, penalty, true_and, if_true,
      Label.deposited]
    rcases (low.trans high).lt_or_eq with positive | nothing
    · have falls : after.storage.stake < before.storage.stake := by omega
      obtain ⟨-, gains⟩ := custody bond.identity leaves falls
      have gained : ext.token.balance after.ledger asset bond.identity =
          ext.token.balance before.ledger asset bond.identity +
            (amount - earlyExitPenalty env bond config amount) +
            (if before.storage.earlyExitTreasury = some bond.identity then
              earlyExitPenalty env bond config amount else 0) := by
        simpa [lowered, penalty] using gains bond.identity other
      rw [if_pos (lowered ▸ falls), gained]
      by_cases treasurer : before.storage.earlyExitTreasury = some bond.identity <;>
        simp only [treasurer, ne_eq, not_true_eq_false, not_false_eq_true, if_true, if_false] <;>
          omega
    · subst nothing
      have none : earlyExitPenalty env bond config 0 = 0 := le_antisymm high low
      simp [none]
  · simp [Accounted, received, charged, stakes, owner, Act.exits, Label.deposited]

/-- A bond whose slashed amount alone changes keeps the stake of a user who is not
slashed before or after. -/
theorem stakeOf_of_reslashed {storage stored : Storage} {bond : IdentityBond} {total : Int}
    (found : storage.bond = some bond)
    (kept : stored.bond = some { bond with slashedAmount := total })
    (unslashed : storage.Unslashed user) (still : stored.Unslashed user) :
    stored.stakeOf user = storage.stakeOf user := by
  simp only [Storage.stakeOf, found, kept, IdentityBond.stake]
  split
  · rename_i owner
    have before := unslashed bond found owner
    have after : total = 0 := still _ kept owner
    rw [before, after]
  · rfl

/-- Every settled step is accounted for by a user who is not slashed in it. -/
theorem step_accounted {label : Label} (exact : ext.token.Exact) (guarded : ext.Guarded self)
    (configured : before.storage.bondToken = some asset)
    (settled : label.Settled before.storage) (owned : before.storage.OwnedElsewhere self)
    (unslashed : before.storage.Unslashed user) (still : after.storage.Unslashed user)
    (stepped : Step ext self before label after) :
    Accounted ext asset user ⟨before, label, after⟩ ∧ after.storage.OwnedElsewhere self := by
  cases stepped with
  | elsewhere => exact ⟨accounted_of_kept rfl rfl rfl, owned⟩
  | @call _ _ _ call addressed done =>
      by_cases moves : call.movesStake = true
      · cases call <;> simp only [invoke, Outcome.map_eq_ok] at done
        case createBond => exact createBond_accounted exact configured addressed settled done
        case topUp => exact topUp_accounted owned done
        case withdraw identity amount =>
          obtain rfl : amount = 0 := settled
          exact withdraw_accounted owned done
        case withdrawEarly =>
          exact withdrawEarly_accounted exact configured addressed owned done
        case withdrawBond =>
          obtain ⟨⟨_, withdrawn⟩, done, rfl⟩ := done
          exact withdrawBond_accounted guarded owned settled done
        case slash =>
          obtain ⟨bond, found, -, -, -, -, -, -, stored⟩ := slash_ok done
          have kept := congrArg Storage.bond stored
          exact ⟨accounted_of_kept rfl rfl (stakeOf_of_reslashed found kept unslashed still),
            ownedElsewhere_of_owner found kept rfl owned⟩
        case slashBond =>
          obtain ⟨⟨_, total⟩, done, rfl⟩ := done
          obtain ⟨bond, notified, _, found, -, -, -, -, -, -, told, rfl⟩ := slashBond_ok done
          have kept := congrArg Storage.bond (notify_ok guarded told).1
          exact ⟨accounted_of_kept rfl rfl (stakeOf_of_reslashed found kept unslashed still),
            ownedElsewhere_of_owner found kept rfl owned⟩
        all_goals cases moves
      · have kept := invoke_holding guarded (by simpa using moves) done
        refine ⟨accounted_of_kept ?_ ?_ (stakeOf_of_holding kept),
          ownedElsewhere_of_holding kept owned⟩
        · cases call <;> simp_all [Call.movesStake, Act.exits]
        · cases call <;> simp_all [Call.movesStake, Label.deposited]

end Steps

section Runs

variable {Ledger : Type} {ext : Externals Ledger} {self asset user : Address}
variable {start final : State Ledger} {trace : List (Event (State Ledger) Label)}

/-- Along a run of settled steps a user who is never slashed has in the bond what
was deposited, less what was received and charged. -/
theorem run_accounted (exact : ext.token.Exact) (guarded : ext.Guarded self)
    (run : Run (Step ext self) start trace final) (unbonded : start.storage.bond = none)
    (configured : ∀ event ∈ trace, event.before.storage.bondToken = some asset)
    (settled : ∀ event ∈ trace, event.label.Settled event.before.storage)
    (unslashed : ∀ event ∈ trace, event.after.storage.Unslashed user) :
    final.storage.stakeOf user = (trace.map (·.label.deposited user)).sum -
        (trace.map (received ext asset user)).sum - (trace.map (charged user)).sum ∧
      final.storage.Unslashed user ∧ final.storage.OwnedElsewhere self := by
  have fresh : start.storage.Unslashed user ∧ start.storage.OwnedElsewhere self := by
    simp [Storage.Unslashed, Storage.OwnedElsewhere, unbonded]
  have nothing : start.storage.stakeOf user = 0 := by
    simp [Storage.stakeOf, unbonded]
  -- the stake is accounted for in each step, as long as the user is not slashed
  obtain ⟨narrowed, kept⟩ := run.restrict
    (fun event => event.before.storage.bondToken = some asset ∧
      event.label.Settled event.before.storage ∧ event.after.storage.Unslashed user)
    (fun state => state.storage.Unslashed user ∧ state.storage.OwnedElsewhere self)
    (fun event member =>
      ⟨configured event member, settled event member, unslashed event member⟩) fresh
    fun event ⟨configured, settled, still⟩ ⟨unslashed, owned⟩ stepped =>
      ⟨still, (step_accounted exact guarded configured settled owned unslashed still stepped).2⟩
  refine ⟨?_, kept⟩
  rw [narrowed.sum_eq (fun state => state.storage.stakeOf user) (·.label.deposited user)
    (fun event => received ext asset user event + charged user event), nothing, List.sum_map_add]
  · omega
  · rintro event ⟨stepped, ⟨configured, settled, still⟩, unslashed, owned⟩
    have accounted : Accounted ext asset user event :=
      (step_accounted exact guarded configured settled owned unslashed still stepped).1
    unfold Accounted at accounted
    omega

/-- An exit has custody exactly where it leaves early or has nothing to pay.  Along a
run in which no other exit takes anything off the stake and no bond with a stake is
replaced, a user who was never slashed and has nothing left in the bond received the
deposits less the penalties. -/
theorem exits_pay_what_they_take (exact : ext.token.Exact) (guarded : ext.Guarded self)
    (run : Run (Step ext self) start trace final) (unbonded : start.storage.bond = none)
    (configured : ∀ event ∈ trace, event.before.storage.bondToken = some asset) :
    (∀ event ∈ trace,
      Custody ext self asset event ↔ event.label.Pays event.before.storage) ∧
    ((∀ event ∈ trace, event.label.Settled event.before.storage) →
      ∀ user, (∀ event ∈ trace, event.after.storage.Unslashed user) →
        final.storage.stakeOf user = 0 →
          (trace.map (received ext asset user)).sum =
            (trace.map (·.label.deposited user)).sum - (trace.map (charged user)).sum) := by
  refine ⟨fun event member => ?_, fun settled user unslashed closed => ?_⟩
  · exact step_custody_iff exact guarded (configured event member) (run.stepped_of_mem member)
  · obtain ⟨accounted, -, -⟩ :=
      run_accounted exact guarded run unbonded configured settled unslashed
    omega

end Runs

section Sample

/-- A user deposits twice and leaves with everything half-way through the lock-up. -/
theorem exits_pay_what_they_take_sample :
    ∃ trace final, Run (Step Externals.reference ⟨0⟩) bondSample trace final ∧
      (trace.map (·.label.deposited ⟨5⟩)).sum = 3000000000000000000 ∧
        (trace.map (charged ⟨5⟩)).sum = 75000000000000000 ∧
          (trace.map (received Externals.reference ⟨9⟩ ⟨5⟩)).sum =
            3000000000000000000 - 75000000000000000 := by
  obtain ⟨trace, final, run, configured, settled, unslashed, closed, deposits, penalties⟩ :
      ∃ trace final, Run (Step Externals.reference ⟨0⟩) bondSample trace final ∧
        (∀ event ∈ trace, event.before.storage.bondToken = some ⟨9⟩) ∧
        (∀ event ∈ trace, event.label.Settled event.before.storage) ∧
        (∀ event ∈ trace, event.after.storage.Unslashed ⟨5⟩) ∧
        final.storage.stakeOf ⟨5⟩ = 0 ∧
        (trace.map (·.label.deposited ⟨5⟩)).sum = 3000000000000000000 ∧
        (trace.map (charged ⟨5⟩)).sum = 75000000000000000 := by
    refine ⟨_, _, .snoc (.snoc (.snoc .nil
      (.follow (.signedByAll ⟨0⟩ 0) (.createBond ⟨5⟩ 2000000000000000000 60 false 0) rfl
        (by decide +kernel)))
      (.follow (.signedByAll ⟨0⟩ 10) (.topUp ⟨5⟩ 1000000000000000000) rfl (by decide +kernel)))
      (.follow (.signedByAll ⟨0⟩ 30) (.withdrawEarly ⟨5⟩ 3000000000000000000) rfl
        (by decide +kernel)), ?_, ?_, ?_, by decide +kernel, by decide +kernel,
        by decide +kernel⟩
    · simp only [List.forall_mem_append, List.forall_mem_singleton]
      exact ⟨⟨⟨by simp, by decide +kernel⟩, by decide +kernel⟩, by decide +kernel⟩
    · simp only [List.forall_mem_append, List.forall_mem_singleton]
      exact ⟨⟨⟨by simp, rfl⟩, trivial⟩, trivial⟩
    · simp only [List.forall_mem_append, List.forall_mem_singleton]
      exact ⟨⟨⟨by simp, by decide +kernel⟩, by decide +kernel⟩, by decide +kernel⟩
  refine ⟨trace, final, run, deposits, penalties, ?_⟩
  rw [← deposits, ← penalties]
  exact (exits_pay_what_they_take ReferenceLedger.exact (guarded_reference ⟨0⟩) run rfl
    configured).2 settled ⟨5⟩ unslashed closed

/-- A withdrawal of the whole bond after the lock-up lowers the stake to nothing and
leaves all tokens in the contract. -/
theorem withdrawal_moves_no_tokens :
    ∃ trace final, Run (Step Externals.reference ⟨0⟩) bondSample trace final ∧
      trace.map (·.label.act) = [.call (.createBond ⟨5⟩ 1000000000000000000 60 false 0),
        .call (.withdraw ⟨5⟩ 1000000000000000000)] ∧
      final.storage.stakeOf ⟨5⟩ = 0 ∧
        (∀ event ∈ trace, event.after.storage.Unslashed ⟨5⟩) ∧
          (trace.map (received Externals.reference ⟨9⟩ ⟨5⟩)).sum = 0 ∧
            Externals.reference.token.balance final.ledger ⟨9⟩ ⟨0⟩ = 1000000000000000000 ∧
              ¬∀ event ∈ trace, Custody Externals.reference ⟨0⟩ ⟨9⟩ event := by
  refine ⟨_, _, .snoc (.snoc .nil
    (.follow (.signedByAll ⟨0⟩ 0) (.createBond ⟨5⟩ 1000000000000000000 60 false 0) rfl
      (by decide +kernel)))
    (.follow (.signedByAll ⟨0⟩ 60) (.withdraw ⟨5⟩ 1000000000000000000) rfl
      (by decide +kernel)), rfl, by decide +kernel, ?_, by decide +kernel, by decide +kernel, ?_⟩
  · simp only [List.forall_mem_append, List.forall_mem_singleton]
    exact ⟨⟨by simp, by decide +kernel⟩, by decide +kernel⟩
  · intro every
    have custody := every _ (List.mem_append_right _ List.mem_cons_self)
    have paid := (custody ⟨5⟩ rfl (by decide +kernel)).1
    exact absurd paid (by decide +kernel)

end Sample

end CredenceBond
