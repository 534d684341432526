import CredenceContracts.Bond.Deposits

/-!
# Slashing in the ledger of a deposit

A slash is to be refused in a ledger in which the bond grew.  The slash compares the
ledger with a recorded one; no operation that raises the bond records it, so the
comparison never refuses anything and every other check decides alone.
-/

namespace CredenceBond

open Soroban MachineInt Transition
open Outcome (rejectIf unwrapOr)

section Acceptance

variable {Ledger : Type} (ext : Externals Ledger) (env : Env) (state : State Ledger)

/-- What is slashed can be sent to the slash treasury, if it is anything. -/
def TreasuryPayable (amount : Int) : Prop :=
  0 < amount → ∃ treasury asset ledger, state.storage.slashTreasury = some treasury ∧
    state.storage.bondToken = some asset ∧
      ext.token.transfer state.ledger asset env.currentContractAddress treasury amount =
        some ledger

/-- A reward can be claimed by whoever is named as admin, if it is anything. -/
def RewardClaimable (admin : Address) (reward : Int) : Prop :=
  0 < reward → state.storage.claims.claimCounter + 1 < 2 ^ 64 ∧
    FitsI128 (state.storage.claims.claimableAmount admin + reward)

/-- The attestation counter of an identity, where there is one, is the number of its
attestations. -/
def Counted (identity : Address) : Prop :=
  ∀ count, state.storage.subjectAttestationCount identity = some count →
    (state.storage.subjectAttestations identity).length = count

/-- The checks of a slash other than that of the ledger accept it. -/
def Slashable (admin : Address) (amount : Int) : Prop :=
  0 ≤ amount ∧ state.storage.admin = some admin ∧ ∃ bond, state.storage.bond = some bond ∧
    TreasuryPayable ext env state (slashedPart bond amount) ∧
      RewardClaimable state admin (slashReward bond amount) ∧ Counted state bond.identity

end Acceptance

section Checks

variable {Ledger : Type} {ext : Externals Ledger} {env : Env} {state : State Ledger}
variable {storage : Storage} {admin : Address} {amount : Int}

/-- The claim of a reward is recorded exactly when it can be. -/
theorem addSlashReward_succeeds_iff :
    (∃ rewarded, addSlashReward env storage admin amount = .ok rewarded) ↔
      (0 < amount.tdiv 10 → storage.claims.claimCounter + 1 < 2 ^ 64 ∧
        FitsI128 (storage.claims.claimableAmount admin + amount.tdiv 10)) := by
  simp only [addSlashReward, whenPositive_eq_ok, Outcome.map_eq_ok]
  constructor
  · rintro ⟨_, ⟨-, ⟨_, claimId⟩, added, -⟩ | ⟨none, -⟩⟩ positive
    · obtain ⟨-, counted, fits, -⟩ := addPendingClaim_eq_ok.mp added
      exact ⟨counted, fits⟩
    · exact absurd positive none.not_gt
  · intro claimable
    by_cases positive : 0 < amount.tdiv 10
    · obtain ⟨counted, fits⟩ := claimable positive
      exact ⟨_, .inl ⟨positive, _, addPendingClaim_eq_ok.mpr
        ⟨positive, counted, fits, rfl, rfl⟩, rfl⟩⟩
    · exact ⟨_, .inr ⟨not_lt.mp positive, rfl⟩⟩

theorem rewarding_succeeds_iff {part : Int} :
    (∃ rewarded, whenPositive part storage (addSlashReward env storage admin part) =
      .ok rewarded) ↔
      (0 < part.tdiv 10 → storage.claims.claimCounter + 1 < 2 ^ 64 ∧
        FitsI128 (storage.claims.claimableAmount admin + part.tdiv 10)) := by
  by_cases positive : 0 < part
  · simp only [whenPositive, positive, if_true]
    exact addSlashReward_succeeds_iff
  · have nothing : ¬0 < part.tdiv 10 := (tenth_nonpos (not_lt.mp positive)).not_gt
    simp [whenPositive, positive, nothing]

theorem transferSlashedFundsToTreasury_succeeds_iff {part : Int}
    (configured : storage.slashTreasury = state.storage.slashTreasury)
    (token : storage.bondToken = state.storage.bondToken) :
    (∃ ledger, whenPositive part state.ledger
        (transferSlashedFundsToTreasury ext env (state.store storage) part) = .ok ledger) ↔
      TreasuryPayable ext env state part := by
  unfold TreasuryPayable
  by_cases positive : 0 < part
  · simp only [whenPositive, positive, if_true, transferSlashedFundsToTreasury,
      Outcome.bind_eq_ok, Outcome.unwrapOr_eq_ok, calling_eq_ok, State.store, configured, token,
      forall_const]
    tauto
  · simp [whenPositive, positive]

/-- A slash of a sound bond leaves it sound. -/
theorem IdentityBond.Sound.slashed {bond : IdentityBond} (sound : bond.Sound)
    (nonnegative : 0 ≤ amount) :
    FitsI128 bond.stake ∧ FitsI128 (bond.slashedAmount + slashedPart bond amount) ∧
      0 ≤ bond.slashedAmount + slashedPart bond amount + slashedDust bond amount ∧
      bond.slashedAmount + slashedPart bond amount + slashedDust bond amount ≤
        bond.bondedAmount := by
  obtain ⟨low, within, high⟩ := sound
  have part : 0 ≤ slashedPart bond amount ∧ slashedPart bond amount ≤ bond.stake :=
    ⟨le_min (sub_nonneg.mpr within) nonnegative, min_le_left _ _⟩
  have dust : 0 ≤ slashedDust bond amount ∧
      slashedDust bond amount ≤ bond.stake - slashedPart bond amount := by
    unfold slashedDust
    split <;> omega
  unfold FitsI128
  unfold IdentityBond.stake at *
  omega

/-- A slash whose ledger check is void succeeds exactly when its other checks do. -/
theorem slash_succeeds_iff (sound : state.storage.Sound)
    (unrecorded : state.storage.lastCollateralIncreaseLedger = none) :
    (∃ after, slash ext env state admin amount = .ok after) ↔
      Slashable ext env state admin amount := by
  simp only [slash_eq_ok]
  constructor
  · rintro ⟨_, nonnegative, named, -, bond, found, -, -, rewarded, rewards, consistent, ledger,
      sent, -⟩
    obtain ⟨_, _, _, logged⟩ := slashLogged_eq env state.storage bond amount
    rw [logged] at rewards
    have claimable := rewarding_succeeds_iff.mp ⟨rewarded, rewards⟩
    obtain ⟨⟨_, _, _, rfl⟩, -⟩ := rewarding_ok rewards
    have counted := ((assertSelfConsistent_iff rfl).mp consistent).2
    have payable := (transferSlashedFundsToTreasury_succeeds_iff rfl rfl).mp ⟨ledger, sent⟩
    exact ⟨nonnegative, named, bond, found, payable, claimable, counted⟩
  · rintro ⟨nonnegative, named, bond, found, payable, claimable, counted⟩
    obtain ⟨stake, total, low, high⟩ := (sound bond found).slashed nonnegative
    obtain ⟨_, _, _, logged⟩ := slashLogged_eq env state.storage bond amount
    have recorded : ∃ rewarded, whenPositive (slashedPart bond amount)
        (slashLogged env state.storage bond amount)
        (addSlashReward env (slashLogged env state.storage bond amount) admin
          (slashedPart bond amount)) = .ok rewarded := by
      rw [logged]
      exact rewarding_succeeds_iff.mpr claimable
    obtain ⟨rewarded, rewards⟩ := recorded
    obtain ⟨⟨_, _, _, frame⟩, -⟩ := rewarding_ok (logged ▸ rewards)
    have consistent : assertSelfConsistent { rewarded with
        bond := some (bond.slashedBy amount) } = .ok () :=
      (assertSelfConsistent_iff rfl).mpr ⟨⟨low, high⟩, frame ▸ counted⟩
    have treasury : rewarded.slashTreasury = state.storage.slashTreasury := by rw [frame]
    have token : rewarded.bondToken = state.storage.bondToken := by rw [frame]
    have payment : ∃ ledger, whenPositive (slashedPart bond amount) state.ledger
        (transferSlashedFundsToTreasury ext env
          (state.store { rewarded with bond := some (bond.slashedBy amount) })
          (slashedPart bond amount)) = .ok ledger :=
      (transferSlashedFundsToTreasury_succeeds_iff treasury token).mpr payable
    obtain ⟨ledger, sent⟩ := payment
    exact ⟨_, nonnegative, named, by simp [unrecorded], bond, found, stake, total, _, rewards,
      consistent, ledger, sent, rfl⟩

end Checks

section Attempts

variable {Ledger : Type}

/-- What is asked of the contract deployed at `self`, whether or not it succeeds. -/
inductive Attempted (ext : Externals Ledger) (self : Address) :
    State Ledger → Label → State Ledger → Prop where
  | call {env : Env} {state : State Ledger} {call : Call} :
      env.currentContractAddress = self →
      Attempted ext self state ⟨env, .call call⟩ (state.follow ext env call)
  | elsewhere {env : Env} {state after : State Ledger} :
      Step ext self state ⟨env, .elsewhere⟩ after →
      Attempted ext self state ⟨env, .elsewhere⟩ after

variable {ext : Externals Ledger} {self : Address} {label : Label}
variable {before after start final : State Ledger}

/-- An attempt is a step or changes nothing. -/
theorem Attempted.step_or_same (attempted : Attempted ext self before label after) :
    Step ext self before label after ∨ after = before := by
  cases attempted with
  | @call env _ call addressed =>
      cases outcome : invoke ext env before call with
      | error failure => simp [State.follow, outcome, Except.toOption]
      | ok reached =>
          have same : before.follow ext env call = reached := by
            simp [State.follow, outcome, Except.toOption]
          rw [same]
          exact .inl (.call addressed outcome)
  | elsewhere stepped => exact .inl stepped

/-- What every step keeps holds wherever attempts lead. -/
theorem Attempted.invariant {trace : List (Event (State Ledger) Label)}
    (property : State Ledger → Prop) (run : Run (Attempted ext self) start trace final)
    (initial : property start)
    (preserved : ∀ event : Event (State Ledger) Label, property event.before →
      Step ext self event.before event.label event.after → property event.after) :
    property final := by
  apply run.invariant property initial
  intro event held attempted
  rcases attempted.step_or_same with stepped | same
  · exact preserved event held stepped
  · rwa [same]

end Attempts

section Guard

variable {Ledger : Type}

/-- The collateral of the stored bond, if there is one. -/
def Storage.collateral (storage : Storage) : Int :=
  (storage.bond.map IdentityBond.bondedAmount).getD 0

/-- A deposit raised the collateral of the stored bond in this ledger. -/
def IncreasedIn (earlier : List (Event (State Ledger) Label)) (sequence : Nat) : Prop :=
  ∃ deposit ∈ earlier, deposit.label.act.deposits = true ∧
    deposit.label.env.sequence = sequence ∧
      deposit.before.storage.collateral < deposit.after.storage.collateral

/-- A slash in a ledger in which a deposit raised the collateral does not succeed. -/
def SlashGuarded (ext : Externals Ledger) (earlier : List (Event (State Ledger) Label))
    (event : Event (State Ledger) Label) : Prop :=
  ∀ admin amount, event.label.act = .call (.slash admin amount) →
    IncreasedIn earlier event.label.env.sequence →
      ¬∃ after, slash ext event.label.env event.before admin amount = .ok after

/-- No slash that its other checks accept is asked for in a ledger in which a deposit
raised the collateral. -/
def RefusedOtherwise (ext : Externals Ledger) (earlier : List (Event (State Ledger) Label))
    (event : Event (State Ledger) Label) : Prop :=
  ∀ admin amount, event.label.act = .call (.slash admin amount) →
    IncreasedIn earlier event.label.env.sequence →
      ¬Slashable ext event.label.env event.before admin amount

variable {ext : Externals Ledger} {self : Address} {start final : State Ledger}
variable {trace earlier later : List (Event (State Ledger) Label)}
variable {event : Event (State Ledger) Label}

/-- No step records a ledger. -/
theorem step_records_no_ledger {before after : State Ledger} {label : Label}
    (guarded : ext.Guarded self) (stepped : Step ext self before label after) :
    after.storage.lastCollateralIncreaseLedger =
      before.storage.lastCollateralIncreaseLedger := by
  cases stepped with
  | call _ done => exact (invoke_keepsRest guarded done).lastCollateralIncreaseLedger
  | elsewhere => rfl

/-- The bond is sound and no ledger is recorded wherever attempts lead. -/
theorem unrecorded_of_attempts (guarded : ext.Guarded self)
    (unbonded : start.storage.bond = none)
    (unrecorded : start.storage.lastCollateralIncreaseLedger = none)
    (run : Run (Attempted ext self) start trace final) :
    final.storage.Sound ∧ final.storage.lastCollateralIncreaseLedger = none := by
  apply Attempted.invariant
    (fun state => state.storage.Sound ∧ state.storage.lastCollateralIncreaseLedger = none) run
  · constructor
    · intro bond found
      simp [unbonded] at found
    · exact unrecorded
  · rintro event ⟨sound, none⟩ stepped
    constructor
    · rcases step_change guarded stepped with ⟨call, -, -, change⟩ | ⟨-, same⟩
      · exact change.sound sound
      · exact sound.same same.bond
    · exact (step_records_no_ledger guarded stepped).trans none

/-- In every run of attempts, a slash in a ledger in which a deposit raised the
collateral is refused if and only if a check other than that of the ledger refuses it. -/
theorem same_ledger_slash_iff (guarded : ext.Guarded self)
    (unbonded : start.storage.bond = none)
    (unrecorded : start.storage.lastCollateralIncreaseLedger = none)
    (run : Run (Attempted ext self) start trace final)
    (position : trace = earlier ++ event :: later) :
    SlashGuarded ext earlier event ↔ RefusedOtherwise ext earlier event := by
  obtain ⟨reached, -, -⟩ := run.split position
  obtain ⟨sound, none⟩ := unrecorded_of_attempts guarded unbonded unrecorded reached
  unfold SlashGuarded RefusedOtherwise
  simp only [slash_succeeds_iff sound none]

end Guard

section Sample

/-- A user creates a bond. -/
def hastyDeposit : Event (State ReferenceLedger) Label :=
  let deposit : Call := .createBond ⟨5⟩ 1000000000000000000 60 false 0
  { before := bondSample
    label := ⟨.signedBy ⟨5⟩ ⟨0⟩ 0, .call deposit⟩
    after := bondSample.follow Externals.reference (.signedBy ⟨5⟩ ⟨0⟩ 0) deposit }

/-- A slash is asked for in the same ledger. -/
def hastySlash (admin : Address) (amount : Int) : Event (State ReferenceLedger) Label where
  before := hastyDeposit.after
  label := ⟨.signedBy ⟨5⟩ ⟨0⟩ 0, .call (.slash admin amount)⟩
  after := hastyDeposit.after.follow Externals.reference (.signedBy ⟨5⟩ ⟨0⟩ 0)
    (.slash admin amount)

theorem hastySlash_run (admin : Address) (amount : Int) :
    Run (Attempted Externals.reference ⟨0⟩) bondSample [hastyDeposit, hastySlash admin amount]
      (hastySlash admin amount).after :=
  .cons (.call rfl) (.cons (.call rfl) .nil)

theorem hastyDeposit_increases : IncreasedIn [hastyDeposit] 0 :=
  ⟨_, List.mem_singleton_self _, rfl, rfl, by decide +kernel⟩

/-- A bond is slashed in the ledger in which it was created. -/
theorem slashed_in_ledger_of_creation :
    ∃ final, Run (Attempted Externals.reference ⟨0⟩) bondSample
        ([hastyDeposit] ++ [hastySlash ⟨1⟩ 1000]) final ∧
      IncreasedIn [hastyDeposit] (hastySlash ⟨1⟩ 1000).label.env.sequence ∧
        ¬SlashGuarded Externals.reference [hastyDeposit] (hastySlash ⟨1⟩ 1000) := by
  have succeeds : (slash Externals.reference (hastySlash ⟨1⟩ 1000).label.env
      hastyDeposit.after ⟨1⟩ 1000).isOk = true := by
    decide +kernel
  refine ⟨_, hastySlash_run _ _, hastyDeposit_increases, ?_⟩
  intro guarded
  apply guarded ⟨1⟩ 1000 rfl hastyDeposit_increases
  cases outcome : slash Externals.reference (hastySlash ⟨1⟩ 1000).label.env
      hastyDeposit.after ⟨1⟩ 1000 with
  | error failure => simp [outcome, Except.isOk, Except.toBool] at succeeds
  | ok after => exact ⟨after, outcome⟩

/-- The owner, who is not the admin, cannot slash then. -/
theorem same_ledger_slash_sample :
    SlashGuarded Externals.reference [hastyDeposit] (hastySlash ⟨5⟩ 1000) := by
  have guarded : Externals.reference.Guarded ⟨0⟩ := guarded_reference ⟨0⟩
  apply (same_ledger_slash_iff guarded rfl rfl (hastySlash_run ⟨5⟩ 1000)
    (List.append_nil _).symm).mpr
  rintro admin amount same -
  obtain ⟨rfl, rfl⟩ := Call.slash.inj (Act.call.inj same)
  rintro ⟨-, named, -⟩
  have admin : (hastySlash ⟨5⟩ 1000).before.storage.admin = some ⟨1⟩ := by decide +kernel
  exact absurd (admin.symm.trans named) (by decide)

end Sample

end CredenceBond
