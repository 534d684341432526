import CredenceContracts.Bond.Change

/-!
# Isolation of the bond from strangers

What a bond is worth and how long it is locked should be up to its owner and to
the admin.  Three operations let anyone else in: creating a bond replaces the one
that is stored, leaving early asks for no authorization, and slashing is content
with the name of the admin.
-/

namespace CredenceBond

open Soroban Transition

/-- Neither the owner of the bond nor the admin authorised the call. -/
structure Outsider (env : Env) (storage : Storage) (bond : IdentityBond) : Prop where
  owner : env.authorized bond.identity = false
  admin : ¬AdminAuthorized env storage

/-- Owner, amounts, lock-up and activity of two bonds agree. -/
structure IdentityBond.SameTerms (bond later : IdentityBond) : Prop where
  identity : later.identity = bond.identity
  bondedAmount : later.bondedAmount = bond.bondedAmount
  slashedAmount : later.slashedAmount = bond.slashedAmount
  bondStart : later.bondStart = bond.bondStart
  bondDuration : later.bondDuration = bond.bondDuration
  active : later.active = bond.active

/-- A bond with these terms is stored. -/
def Isolated (bond : IdentityBond) (storage : Storage) : Prop :=
  ∃ later, storage.bond = some later ∧ bond.SameTerms later

/-- The label creates no bond, leaves early with nothing and slashes nothing. -/
def Label.Harmless (label : Label) (bond : IdentityBond) : Prop :=
  match label.act with
  | .call (.createBond ..) => False
  | .call (.withdrawEarly _ amount) => amount = 0
  | .call (.slash _ amount) => bond.stake = 0 ∨ amount = 0 ∧ bond.stake ≠ 1
  | _ => True

section Steps

variable {Ledger : Type} {ext : Externals Ledger} {self : Address} {env : Env}
variable {before after : State Ledger} {storage stored : Storage} {bond updated : IdentityBond}

theorem isolated_of_same (found : storage.bond = some bond)
    (same : stored.bond = storage.bond) : Isolated bond stored :=
  ⟨bond, same.trans found, rfl, rfl, rfl, rfl, rfl, rfl⟩

theorem Storage.Writes.sameTerms_iff (written : storage.Writes stored updated) :
    Isolated bond stored ↔ bond.SameTerms updated := by
  constructor
  · rintro ⟨later, kept, same⟩
    obtain rfl := written.unique kept
    exact same
  · exact fun same => ⟨updated, written.bond, same⟩

/-- What a slash takes, dust included, is nothing only where nothing is left, or
nothing is asked for and what is left is no dust. -/
theorem slashed_nothing_iff {amount : Int} (sound : bond.Sound) (nonnegative : 0 ≤ amount) :
    slashedPart bond amount + slashedDust bond amount = 0 ↔
      bond.stake = 0 ∨ amount = 0 ∧ bond.stake ≠ 1 := by
  have positive := sound.stake_nonneg
  unfold slashedDust slashedPart dustThreshold
  split <;> omega

theorem harmless_of_bystands {call : Call} (bystands : call.bystands = true) :
    Label.Harmless ⟨env, .call call⟩ bond := by
  cases call <;> trivial

/-- An outsider's call leaves the bond as it is exactly when it is harmless. -/
theorem change_isolated_iff {call : Call} (change : Change ext env before after call)
    (sound : before.storage.Sound) (found : before.storage.bond = some bond)
    (outside : Outsider env before.storage bond) :
    Isolated bond after.storage ↔ Label.Harmless ⟨env, .call call⟩ bond := by
  have foreign {other : IdentityBond} (stored : before.storage.bond = some other)
      (authorized : env.authorized other.identity = true) : False := by
    obtain rfl := Option.some.inj (stored.symm.trans found)
    simp [outside.owner] at authorized
  cases change with
  | initialized _ _ same => exact iff_of_true (isolated_of_same found same) trivial
  | unrelated bystands same =>
      exact iff_of_true (isolated_of_same found same.bond) (harmless_of_bystands bystands)
  | notRenewed same => exact iff_of_true (isolated_of_same found same.bond) trivial
  | transferred authorized _ _ | administered _ authorized _ | liquidated _ authorized _
  | slashBonded _ authorized _ _ _ => exact absurd authorized outside.admin
  | toppedUp stored authorized _ _ _ _ | withdrawn stored authorized _ _ _ _ _
  | closed stored authorized _ _ _ | requested stored authorized _ | renewed stored authorized _
  | extended stored authorized _ => exact (foreign stored authorized).elim
  | created authorized _ _ _ written =>
      apply iff_of_false
      · intro isolated
        have owner := (written.sameTerms_iff.mp isolated).identity
        simp only at owner
        simp [owner, outside.owner] at authorized
      · exact id
  | @leftEarly _ amount stored _ _ written =>
      obtain rfl := Option.some.inj (stored.symm.trans found)
      rw [written.sameTerms_iff]
      constructor
      · intro same
        exact sub_eq_self.mp same.bondedAmount
      · rintro (rfl : amount = 0)
        exact ⟨rfl, sub_zero _, rfl, rfl, rfl, rfl⟩
  | @slashed _ _ amount stored nonnegative _ _ _ written =>
      obtain rfl := Option.some.inj (stored.symm.trans found)
      apply written.sameTerms_iff.trans
      apply Iff.trans _ (slashed_nothing_iff (sound _ found) nonnegative)
      constructor
      · intro same
        have kept := same.slashedAmount
        simp only at kept
        omega
      · intro nothing
        exact ⟨rfl, rfl, by simp only; omega, rfl, rfl, rfl⟩

end Steps

section Runs

variable {Ledger : Type} {ext : Externals Ledger} {self : Address}
variable {start final : State Ledger} {trace : List (Event (State Ledger) Label)}

/-- In every run, a call that neither the owner of the stored bond nor the admin
authorised leaves that bond as it is, if and only if it creates no bond, does not
leave early with something and slashes nothing. -/
theorem isolated_iff (guarded : ext.Guarded self) (unbonded : start.storage.bond = none)
    (run : Run (Step ext self) start trace final) {event : Event (State Ledger) Label}
    (member : event ∈ trace) {bond : IdentityBond}
    (found : event.before.storage.bond = some bond)
    (outside : Outsider event.label.env event.before.storage bond) :
    Isolated bond event.after.storage ↔ event.label.Harmless bond := by
  obtain ⟨sound, effect⟩ := change_of_mem guarded unbonded run member
  obtain ⟨before, ⟨env, act⟩, after⟩ := event
  rcases effect with ⟨call, rfl, -, change⟩ | ⟨rfl, same⟩
  · exact change_isolated_iff change sound found outside
  · exact iff_of_true (isolated_of_same found same.bond) trivial

end Runs

section Sample

/-- The configured contract, where everyone can pay a deposit. -/
def isolationSample : State ReferenceLedger :=
  { bondSample with
    ledger :=
      { holding := fun _ _ => 3000000000000000000
        approved := fun _ _ _ => 3000000000000000000 } }

/-- The first user's bond. -/
def ownBond : IdentityBond where
  identity := ⟨5⟩
  bondedAmount := 2000000000000000000
  bondStart := 0
  bondDuration := 60
  slashedAmount := 0
  active := true
  isRolling := false
  withdrawalRequestedAt := 0
  noticePeriodDuration := 0

def ownBondStored : State ReferenceLedger :=
  isolationSample.follow Externals.reference (.signedBy ⟨5⟩ ⟨0⟩ 0)
    (.createBond ⟨5⟩ 2000000000000000000 60 false 0)

theorem ownBondStored_run :
    ∃ trace, Run (Step Externals.reference ⟨0⟩) isolationSample trace ownBondStored :=
  ⟨_, .single (.follow (.signedBy ⟨5⟩ ⟨0⟩ 0) (.createBond ⟨5⟩ 2000000000000000000 60 false 0)
    rfl (by decide +kernel))⟩

theorem ownBondStored_bond : ownBondStored.storage.bond = some ownBond := by
  decide +kernel

/-- A stranger signs alone. -/
theorem stranger_outside : Outsider (.signedBy ⟨6⟩ ⟨0⟩ 30) ownBondStored.storage ownBond := by
  have stored : ownBondStored.storage.admin = some ⟨1⟩ := by decide +kernel
  exact ⟨by decide, AdminAuthorized.not_signedBy stored (by decide)⟩

/-- In some run a stranger makes this call and changes the user's active bond. -/
def StrangerChanges (call : Call) : Prop :=
  ∃ trace final, Run (Step Externals.reference ⟨0⟩) isolationSample trace final ∧
    ∃ event ∈ trace, event.label = ⟨.signedBy ⟨6⟩ ⟨0⟩ 30, .call call⟩ ∧
      event.before.storage.bond = some ownBond ∧ ownBond.active = true ∧
        Outsider event.label.env event.before.storage ownBond ∧
          ¬Isolated ownBond event.after.storage

/-- A harmful call of the stranger that succeeds changes the bond. -/
theorem strangerChanges_of_harmful {call : Call}
    (done : (invoke Externals.reference (.signedBy ⟨6⟩ ⟨0⟩ 30) ownBondStored call).isOk = true)
    (harmful : ¬Label.Harmless ⟨.signedBy ⟨6⟩ ⟨0⟩ 30, .call call⟩ ownBond) :
    StrangerChanges call := by
  obtain ⟨trace, run⟩ := ownBondStored_run
  have sound := Storage.Sound.of_run (guarded_reference ⟨0⟩) rfl run
  have stepped : Step Externals.reference ⟨0⟩ ownBondStored
      ⟨.signedBy ⟨6⟩ ⟨0⟩ 30, .call call⟩ _ := .follow _ call rfl done
  refine ⟨_, _, run.snoc stepped, _, List.mem_append_right _ List.mem_cons_self, rfl,
    ownBondStored_bond, rfl, stranger_outside, fun isolated => harmful ?_⟩
  rcases step_change (guarded_reference ⟨0⟩) stepped with ⟨_, ⟨⟩, -, change⟩ | ⟨⟨⟩, -⟩
  exact (change_isolated_iff change sound ownBondStored_bond stranger_outside).mp isolated

/-- A stranger replaces another's active bond, makes it leave early and slashes it. -/
theorem strangers_change_bond :
    StrangerChanges (.createBond ⟨6⟩ 1000000000000000000 60 false 0) ∧
      StrangerChanges (.withdrawEarly ⟨5⟩ 1000000000000000000) ∧
        StrangerChanges (.slash ⟨1⟩ 1000000000000000000) := by
  refine ⟨strangerChanges_of_harmful (by decide +kernel) id,
    strangerChanges_of_harmful (by decide +kernel) ?_,
    strangerChanges_of_harmful (by decide +kernel) ?_⟩
  · simp [Label.Harmless]
  · simp [Label.Harmless, ownBond, IdentityBond.stake]

/-- A stranger who makes another's bond leave early with nothing changes nothing. -/
theorem isolated_sample :
    ∃ trace final event, Run (Step Externals.reference ⟨0⟩) isolationSample trace final ∧
      event ∈ trace ∧ event.label = ⟨.signedBy ⟨6⟩ ⟨0⟩ 30, .call (.withdrawEarly ⟨5⟩ 0)⟩ ∧
        Isolated ownBond event.after.storage := by
  obtain ⟨trace, run⟩ := ownBondStored_run
  have stepped : Step Externals.reference ⟨0⟩ ownBondStored
      ⟨.signedBy ⟨6⟩ ⟨0⟩ 30, .call (.withdrawEarly ⟨5⟩ 0)⟩ _ :=
    .follow _ (.withdrawEarly ⟨5⟩ 0) rfl (by decide +kernel)
  refine ⟨_, _, _, run.snoc stepped, List.mem_append_right _ List.mem_cons_self, rfl, ?_⟩
  exact (isolated_iff (guarded_reference ⟨0⟩) rfl (run.snoc stepped)
    (List.mem_append_right _ List.mem_cons_self) ownBondStored_bond stranger_outside).mpr rfl

end Sample

end CredenceBond
