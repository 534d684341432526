import CredenceContracts.Bond.Views

/-!
# Events of tier changes

A top-up, a withdrawal, an early exit and a slash publish a tier change where two tiers
that they compute themselves differ.  The tier that can be read is that of the available
amount; a withdrawal compares the tier of the bonded amount with it, and an early exit
compares the tiers of the bonded amounts.
-/

namespace CredenceBond

open Soroban MachineInt Transition

section Reading

/-- Whose tier became which, in a published tier change. -/
def BondEvent.tierChange : BondEvent → Option (Address × BondTier)
  | .tierChanged identity newTier => some (identity, newTier)
  | _ => none

/-- The tier changes in a log. -/
def tierChanges (events : List BondEvent) : List (Address × BondTier) :=
  events.filterMap BondEvent.tierChange

/-- The change of a tier of an identity, where it changed. -/
def tierStep (identity : Address) (oldTier newTier : BondTier) : List (Address × BondTier) :=
  if oldTier = newTier then [] else [(identity, newTier)]

theorem tierChanges_append (events later : List BondEvent) :
    tierChanges (events ++ later) = tierChanges events ++ tierChanges later :=
  List.filterMap_append

theorem tierChanges_tierEvents (env : Env) (identity : Address) (oldTier newTier : BondTier) :
    tierChanges (tierEvents env identity oldTier newTier) =
      tierStep identity oldTier newTier := by
  unfold tierChanges tierEvents tierStep
  split <;> rfl

/-- Two pairs of tiers make the same change if and only if both differ or neither does, and
where they differ the new tiers are the same. -/
theorem tierStep_eq_iff {identity : Address} {oldTier newTier before after : BondTier} :
    tierStep identity oldTier newTier = tierStep identity before after ↔
      (oldTier = newTier ↔ before = after) ∧ (oldTier ≠ newTier → newTier = after) := by
  unfold tierStep
  by_cases same : oldTier = newTier <;> by_cases kept : before = after <;> simp [same, kept]

end Reading

section Calls

variable {Ledger : Type}

/-- The calls that move an amount of the stored bond and compare its tiers. -/
def Call.comparesTiers : Call → Bool
  | .topUp .. | .withdraw .. | .withdrawEarly .. | .slash .. => true
  | _ => false

/-- The bond that such a call leaves. -/
def Call.moved (call : Call) (bond : IdentityBond) : IdentityBond :=
  match call with
  | .topUp _ amount => { bond with bondedAmount := bond.bondedAmount + amount }
  | .withdraw _ amount | .withdrawEarly _ amount =>
      { bond with bondedAmount := bond.bondedAmount - amount }
  | .slash _ amount => bond.slashedBy amount
  | _ => bond

/-- The amounts whose tiers such a call compares. -/
def Call.compared (call : Call) (bond : IdentityBond) : Int × Int :=
  match call with
  | .withdraw .. => (bond.bondedAmount, (call.moved bond).stake)
  | .withdrawEarly .. => (bond.bondedAmount, (call.moved bond).bondedAmount)
  | _ => (bond.stake, (call.moved bond).stake)

/-- The call left the moved bond and the thresholds, and published the change between the
tiers that it compared. -/
structure ComparesTiers (before after : State Ledger) (call : Call) (bond : IdentityBond) :
    Prop where
  moved : after.storage.bond = some (call.moved bond)
  thresholds : after.storage.tierThresholds = before.storage.tierThresholds
  published : tierChanges after.storage.events = tierChanges before.storage.events ++
    tierStep bond.identity (getTierForAmount before.storage (call.compared bond).1)
      (getTierForAmount before.storage (call.compared bond).2)

variable {ext : Externals Ledger} {env : Env} {before after : State Ledger}
variable {bond : IdentityBond} {identity admin : Address} {amount : Int}

theorem topUp_compares (sound : bond.Sound) (later : after.storage.Sound)
    (done : topUp ext env before identity amount = .ok after)
    (found : before.storage.bond = some bond) :
    ComparesTiers before after (.topUp identity amount) bond := by
  obtain ⟨other, stored, -, -, -, -, -, frame⟩ := topUp_ok done
  obtain rfl := Option.some.inj (found.symm.trans stored)
  have moved : after.storage.bond =
      some { bond with bondedAmount := bond.bondedAmount + amount } := by
    rw [frame]
  refine ⟨moved, by rw [frame], ?_⟩
  simp only [topUp, Outcome.bind_eq_ok, ownedBond_eq_ok, checkedI128_eq_ok,
    Outcome.pure_eq_ok] at done
  obtain ⟨_, -, owned, ⟨held, -⟩, _, -, _, ⟨-, rfl⟩, _, -, _, -, _, -, rfl⟩ := done
  obtain rfl := Option.some.inj (found.symm.trans held)
  rw [emitTierChangeIfNeeded_events, sound.available.1, (later _ moved).available.1,
    tierChanges_append, tierChanges_tierEvents]
  rfl

theorem withdraw_compares (later : after.storage.Sound)
    (done : withdraw env before identity amount = .ok after)
    (found : before.storage.bond = some bond) :
    ComparesTiers before after (.withdraw identity amount) bond := by
  obtain ⟨other, stored, -, -, -, -, -, -, -, frame⟩ := withdraw_ok done
  obtain rfl := Option.some.inj (found.symm.trans stored)
  have moved : after.storage.bond =
      some { bond with bondedAmount := bond.bondedAmount - amount } := by
    rw [frame]
  refine ⟨moved, by rw [frame], ?_⟩
  simp only [withdraw, Outcome.bind_eq_ok, ownedBond_eq_ok, checkedI128_eq_ok,
    Outcome.pure_eq_ok] at done
  obtain ⟨_, -, owned, ⟨held, -⟩, _, -, _, -, _, -, _, -, _, -, _, ⟨-, rfl⟩, _, -, _, -, rfl⟩ :=
    done
  obtain rfl := Option.some.inj (found.symm.trans held)
  rw [emitTierChangeIfNeeded_events, (later _ moved).available.1]
  exact (tierChanges_append _ _).trans (congrArg _ (tierChanges_tierEvents ..))

theorem withdrawEarly_compares
    (done : withdrawEarly ext env before identity amount = .ok after)
    (found : before.storage.bond = some bond) :
    ComparesTiers before after (.withdrawEarly identity amount) bond := by
  obtain ⟨other, -, -, stored, -, -, -, -, -, -, -, frame⟩ := withdrawEarly_ok done
  obtain rfl := Option.some.inj (found.symm.trans stored)
  refine ⟨by rw [frame]; rfl, by rw [frame], ?_⟩
  simp only [withdrawEarly, Outcome.bind_eq_ok, acquireLock_eq_ok, ownedBond_eq_ok,
    checkedI128_eq_ok, Outcome.pure_eq_ok] at done
  obtain ⟨_, ⟨-, rfl⟩, owned, ⟨held, -⟩, _, -, _, -, _, -, config, -, _, ⟨-, rfl⟩, _, -, _, -,
    _, ⟨-, rfl⟩, _, -, charged, paid, _, -, _, -, rfl⟩ := done
  obtain rfl := Option.some.inj (found.symm.trans held)
  have logged (oldTier newTier : BondTier) (penalty : BondEvent)
      (silent : penalty.tierChange = none) :
      tierChanges (emitTierChangeIfNeeded env (({ before.storage with locked := true }).publish
        penalty) bond.identity oldTier newTier).events =
          tierChanges before.storage.events ++ tierStep bond.identity oldTier newTier := by
    rw [emitTierChangeIfNeeded_events, tierChanges_append, tierChanges_tierEvents]
    simp [Storage.publish, tierChanges, silent]
  rcases whenPositive_eq_ok.mp paid with ⟨positive, sent⟩ | ⟨-, rfl⟩
  · simp only [transferFromContractWithSource, positive, if_true, Outcome.bind_eq_ok,
      Outcome.pure_eq_ok] at sent
    obtain ⟨_, -, rfl⟩ := sent
    refine (tierChanges_append _ _).trans ?_
    exact (congrArg (· ++ []) (logged _ _ _ rfl)).trans (List.append_nil _)
  · exact logged _ _ _ rfl

/-- A reward publishes no tier change. -/
theorem rewarding_tierChanges {storage rewarded : Storage} {part : Int}
    (done : whenPositive part storage (addSlashReward env storage admin part) = .ok rewarded) :
    tierChanges rewarded.events = tierChanges storage.events := by
  rcases rewarding_events done with same | ⟨_, _, _, added⟩
  · rw [same]
  · rw [added]
    simp [Storage.publish, tierChanges, BondEvent.tierChange]

theorem slash_compares (sound : bond.Sound) (later : after.storage.Sound)
    (done : slash ext env before admin amount = .ok after)
    (found : before.storage.bond = some bond) :
    ComparesTiers before after (.slash admin amount) bond := by
  obtain ⟨other, stored, -, -, -, -, -, -, frame⟩ := slash_ok done
  obtain rfl := Option.some.inj (found.symm.trans stored)
  have moved : after.storage.bond = some (bond.slashedBy amount) := by
    rw [frame]
    rfl
  refine ⟨moved, by rw [frame], ?_⟩
  obtain ⟨-, -, -, owned, held, -, -, rewarded, rewards, -, _, -, rfl⟩ := slash_eq_ok.mp done
  obtain rfl := Option.some.inj (found.symm.trans held)
  have kept := rewarding_tierChanges rewards
  rw [slashLogged, emitTierChangeIfNeeded_events, sound.available.1,
    (later _ moved).available.1] at kept
  have logged : tierChanges (appendSlashHistory env { before.storage with
      events := before.storage.events ++ tierEvents env bond.identity
        (getTierForAmount before.storage bond.stake)
        (getTierForAmount before.storage (bond.slashedBy amount).stake) } bond.identity
      (slashedPart bond amount) "admin_slash" (bond.slashedBy amount).slashedAmount).events =
        tierChanges before.storage.events ++ tierStep bond.identity
          (getTierForAmount before.storage bond.stake)
          (getTierForAmount before.storage (bond.slashedBy amount).stake) :=
    (tierChanges_append _ _).trans (congrArg _ (tierChanges_tierEvents ..))
  rw [logged] at kept
  simp only [Storage.publish, tierChanges_append, kept]
  simp [tierChanges, BondEvent.tierChange, Call.compared, Call.moved]

end Calls

section Marking

variable {Ledger : Type}

/-- The step publishes a tier change exactly where the tier that is read differs before and
after it, and publishes the one that is read after it. -/
def MarksTierChange (event : Event (State Ledger) Label) : Prop :=
  ∀ bond, event.before.storage.bond = some bond →
    ∃ oldTier newTier, getTier event.before.storage = .ok oldTier ∧
      getTier event.after.storage = .ok newTier ∧
        tierChanges event.after.storage.events =
          tierChanges event.before.storage.events ++ tierStep bond.identity oldTier newTier

/-- The tiers that the call compares change as the tiers of the available amounts do. -/
def Call.ComparesAvailable (call : Call) (storage : Storage) (bond : IdentityBond) : Prop :=
  match call with
  | .withdraw _ amount =>
      TierBetween storage (bond.stake - amount) bond.bondedAmount ↔
        TierBetween storage (bond.stake - amount) bond.stake
  | .withdrawEarly _ amount =>
      (TierBetween storage (bond.bondedAmount - amount) bond.bondedAmount ↔
        TierBetween storage (bond.stake - amount) bond.stake) ∧
      (TierBetween storage (bond.bondedAmount - amount) bond.bondedAmount →
        ¬TierBetween storage (bond.stake - amount) (bond.bondedAmount - amount))
  | _ => True

theorem stake_withdrawn (bond : IdentityBond) (amount : Int) :
    IdentityBond.stake { bond with bondedAmount := bond.bondedAmount - amount } =
      bond.stake - amount := by
  simp only [IdentityBond.stake]
  omega

theorem tierBetween_iff {storage : Storage} {first second : Int} :
    TierBetween storage first second ↔
      getTierForAmount storage first ≠ getTierForAmount storage second := by
  rw [ne_eq, getTierForAmount_eq_iff, not_not]

theorem getTierForAmount_congr {storage stored : Storage} {amount : Int}
    (same : stored.tierThresholds = storage.tierThresholds) :
    getTierForAmount stored amount = getTierForAmount storage amount := by
  unfold getTierForAmount
  rw [same]

/-- What a call compares makes the change of the available tiers if and only if it compares
as they do. -/
theorem compared_iff {storage : Storage} {call : Call} {bond : IdentityBond}
    (compares : call.comparesTiers = true) :
    tierStep bond.identity (getTierForAmount storage (call.compared bond).1)
        (getTierForAmount storage (call.compared bond).2) =
      tierStep bond.identity (getTierForAmount storage bond.stake)
        (getTierForAmount storage (call.moved bond).stake) ↔
      call.ComparesAvailable storage bond := by
  cases call with
  | topUp identity amount => exact iff_of_true rfl trivial
  | slash admin amount => exact iff_of_true rfl trivial
  | withdraw identity amount =>
      rw [tierStep_eq_iff, Call.ComparesAvailable, tierBetween_iff, tierBetween_iff]
      simp only [Call.compared, Call.moved, stake_withdrawn]
      grind
  | withdrawEarly identity amount =>
      rw [tierStep_eq_iff, Call.ComparesAvailable, tierBetween_iff, tierBetween_iff,
        tierBetween_iff]
      simp only [Call.compared, Call.moved, stake_withdrawn]
      grind
  | _ => cases compares

variable {ext : Externals Ledger} {self : Address} {start final : State Ledger}
variable {trace : List (Event (State Ledger) Label)} {event : Event (State Ledger) Label}

/-- Such a call compares tiers of a bond that was stored. -/
theorem comparesTiers_of_step {env : Env} {before after : State Ledger} {call : Call}
    {bond : IdentityBond} (sound : bond.Sound) (later : after.storage.Sound)
    (done : invoke ext env before call = .ok after) (compares : call.comparesTiers = true)
    (found : before.storage.bond = some bond) : ComparesTiers before after call bond := by
  cases call with
  | topUp identity amount => exact topUp_compares sound later done found
  | withdraw identity amount => exact withdraw_compares later done found
  | withdrawEarly identity amount => exact withdrawEarly_compares done found
  | slash admin amount => exact slash_compares sound later done found
  | _ => cases compares

/-- In every run and for every top-up, withdrawal, early exit and slash there: a tier change
is published exactly where the tier that is read changes, with the tier that is read
afterwards, if and only if the call compares tiers that change as those of the available
amounts do. -/
theorem tier_events_iff (guarded : ext.Guarded self) (unbonded : start.storage.bond = none)
    (run : Run (Step ext self) start trace final) (member : event ∈ trace) {call : Call}
    (called : event.label.act = .call call) (compares : call.comparesTiers = true) :
    MarksTierChange event ↔ ∀ bond, event.before.storage.bond = some bond →
      call.ComparesAvailable event.before.storage bond := by
  obtain ⟨earlier, reached, stepped⟩ := run.reached_of_mem member
  have sound := Storage.Sound.of_run guarded unbonded reached
  have later := Storage.Sound.of_run guarded unbonded (.snoc reached stepped)
  refine forall_congr' fun bond => forall_congr' fun found => ?_
  have step := comparesTiers_of_step (sound bond found) later (stepped.called called).2 compares
    found
  have oldTier := getTier_of_bond (sound bond found) found
  have newTier := getTier_of_bond (later _ step.moved) step.moved
  rw [getTierForAmount_congr step.thresholds] at newTier
  rw [← compared_iff compares, step.published]
  constructor
  · rintro ⟨_, _, old, new, published⟩
    obtain rfl := Except.ok.inj (oldTier.symm.trans old)
    obtain rfl := Except.ok.inj (newTier.symm.trans new)
    exact List.append_cancel_left published
  · intro same
    exact ⟨_, _, oldTier, newTier, by rw [same]⟩

end Marking

section Sample

/-- The state after the bond of the second tier lost one unit. -/
def slashedSample : State ReferenceLedger :=
  slashedOnce.foldl (advance (next Externals.reference ⟨0⟩)) silverSample

theorem run_slashedSample :
    Run (Step Externals.reference ⟨0⟩) silverSample
      (record (next Externals.reference ⟨0⟩) silverSample slashedOnce) slashedSample :=
  run_of_record step_of_next (by decide +kernel)

/-- The withdrawal of one more unit after the lock-up. -/
def withdrawing : Label where
  env := .signedBy ⟨5⟩ ⟨0⟩ 60
  act := .call (.withdraw ⟨5⟩ 1)

/-- The slash publishes the fall to the first tier. -/
theorem tier_events_sample :
    ∃ trace final, Run (Step Externals.reference ⟨0⟩) silverSample trace final ∧
      ∃ event ∈ trace, event.label.act = .call (.slash ⟨1⟩ 1) ∧ MarksTierChange event ∧
        tierChanges event.after.storage.events = [(⟨5⟩, .silver), (⟨5⟩, .bronze)] := by
  refine ⟨_, _, run_slashedSample, _, List.mem_cons_of_mem _ List.mem_cons_self, rfl, ?_, ?_⟩
  · exact (tier_events_iff (guarded_reference ⟨0⟩) rfl run_slashedSample
      (List.mem_cons_of_mem _ List.mem_cons_self) rfl rfl).mpr fun _ _ => trivial
  · decide +kernel

/-- The bond stays in the first tier, and its withdrawal publishes a change to it. -/
theorem withdrawal_repeats_tier :
    ∃ trace after, Run (Step Externals.reference ⟨0⟩) silverSample trace slashedSample ∧
      Step Externals.reference ⟨0⟩ slashedSample withdrawing after ∧
        getTier slashedSample.storage = .ok .bronze ∧ getTier after.storage = .ok .bronze ∧
          tierChanges after.storage.events =
              tierChanges slashedSample.storage.events ++ [(⟨5⟩, .bronze)] ∧
            ¬MarksTierChange ⟨slashedSample, withdrawing, after⟩ := by
  have stepped : Step Externals.reference ⟨0⟩ slashedSample withdrawing
      (advance (next Externals.reference ⟨0⟩) slashedSample withdrawing) :=
    step_of_next (next_eq_advance (by decide +kernel))
  have before : getTier slashedSample.storage = .ok .bronze := by decide +kernel
  have after : getTier (advance (next Externals.reference ⟨0⟩) slashedSample
      withdrawing).storage = .ok .bronze := by
    decide +kernel
  refine ⟨_, _, run_slashedSample, stepped, before, after, by decide +kernel, ?_⟩
  intro marks
  obtain ⟨oldTier, newTier, old, new, published⟩ := marks _ rfl
  obtain rfl := Except.ok.inj (before.symm.trans old)
  obtain rfl := Except.ok.inj (after.symm.trans new)
  revert published
  decide +kernel

end Sample

end CredenceBond
