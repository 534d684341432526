import CredenceContracts.Bond.Change

/-!
# What raises the bonded amount

The bonded amount of an owner is to rise by deposits alone, each by just what was
transferred.  Topping up does that.  A bond created over one of the same owner
forgets what was bonded before, and a withdrawal checks its amount from above only,
so that a negative one is a deposit without a transfer.
-/

namespace CredenceBond

open Soroban MachineInt Transition

def Act.deposits : Act → Bool
  | .call (.createBond ..) | .call (.topUp ..) => true
  | _ => false

section Raise

variable {Ledger : Type}

/-- The contract pulled exactly this amount of a token from an account. -/
structure Pulled (token : TokenInterface Ledger) (contract asset payer : Address) (amount : Int)
    (before after : Ledger) : Prop where
  transferred :
    token.transferFrom before asset contract payer contract amount = some after
  measured : token.balance after asset contract = token.balance before asset contract + amount

/-- Where the bonded amount of an owner rises, a deposit pulled the rise from the
owner, if there is a token. -/
def RaisedByDeposit (ext : Externals Ledger) (self : Address)
    (event : Event (State Ledger) Label) : Prop :=
  ∀ bond later, event.before.storage.bond = some bond →
    event.after.storage.bond = some later → later.identity = bond.identity →
      bond.bondedAmount < later.bondedAmount →
        event.label.act.deposits = true ∧
          ∀ asset, event.before.storage.bondToken = some asset →
            Pulled ext.token self asset bond.identity (later.bondedAmount - bond.bondedAmount)
              event.before.ledger event.after.ledger

/-- A withdrawal is not negative, and no bond with something bonded is replaced by a
larger one of the same owner, where there is a token. -/
def Label.AddsUp (label : Label) (storage : Storage) : Prop :=
  match label.act with
  | .call (.withdraw _ amount) => 0 ≤ amount
  | .call (.createBond identity amount ..) => ∀ bond, storage.bond = some bond →
      bond.identity = identity → bond.bondedAmount < amount → storage.bondToken.isSome →
        bond.bondedAmount = 0
  | _ => True

variable {ext : Externals Ledger} {self : Address} {env : Env} {call : Call}
variable {before after : State Ledger}

theorem receiveDeposit_pulled {owner asset : Address} {amount : Int}
    (addressed : env.currentContractAddress = self) (positive : 0 < amount)
    (configured : before.storage.bondToken = some asset)
    (received : receiveDeposit ext.token env before.storage before.ledger owner amount =
      .ok after.ledger) :
    Pulled ext.token self asset owner amount before.ledger after.ledger := by
  obtain ⟨raised, -, transferred⟩ := receiveDeposit_transfer configured received
  subst addressed
  exact ⟨transferred positive, raised⟩

/-- A step that does not raise the bonded amount needs no deposit. -/
theorem raisedByDeposit_of_le {event : Event (State Ledger) Label}
    (kept : ∀ bond later, event.before.storage.bond = some bond →
      event.after.storage.bond = some later → later.bondedAmount ≤ bond.bondedAmount) :
    RaisedByDeposit ext self event :=
  fun bond later found stands _ raised => absurd (kept bond later found stands) raised.not_ge

/-- A written bond with at most the amount of the stored one needs no deposit. -/
theorem Storage.Writes.raisedByDeposit {bond updated : IdentityBond} {label : Label}
    (written : before.storage.Writes after.storage updated)
    (found : before.storage.bond = some bond)
    (lower : updated.bondedAmount ≤ bond.bondedAmount) :
    RaisedByDeposit ext self ⟨before, label, after⟩ := by
  apply raisedByDeposit_of_le
  intro other later stored stands
  obtain rfl := Option.some.inj (found.symm.trans stored)
  obtain rfl := written.unique stands
  exact lower

theorem raisedByDeposit_of_same {label : Label}
    (same : after.storage.bond = before.storage.bond) :
    RaisedByDeposit ext self ⟨before, label, after⟩ := by
  apply raisedByDeposit_of_le
  intro other later stored stands
  obtain rfl := Option.some.inj (stored.symm.trans (same.symm.trans stands))
  exact le_rfl

theorem addsUp_of_spares {storage : Storage} (spares : call.Spares) :
    Label.AddsUp ⟨env, .call call⟩ storage := by
  rcases spares with admitted | admitted <;> cases call <;> trivial

/-- Only a deposit raises the bonded amount exactly where the call adds up. -/
theorem change_raised_iff (change : Change ext env before after call)
    (addressed : env.currentContractAddress = self) (sound : before.storage.Sound) :
    RaisedByDeposit ext self ⟨before, ⟨env, .call call⟩, after⟩ ↔
      Label.AddsUp ⟨env, .call call⟩ before.storage := by
  cases change with
  | initialized _ _ same | transferred _ _ same =>
      exact iff_of_true (raisedByDeposit_of_same same) trivial
  | administered administers _ same =>
      exact iff_of_true (raisedByDeposit_of_same same.bond) (addsUp_of_spares (.inl administers))
  | unrelated bystands same =>
      exact iff_of_true (raisedByDeposit_of_same same.bond) (addsUp_of_spares (.inr bystands))
  | notRenewed same => exact iff_of_true (raisedByDeposit_of_same same.bond) trivial
  | requested found _ written | renewed found _ written | extended found _ written
  | liquidated found _ written | slashed found _ _ _ _ written
  | slashBonded found _ _ _ written =>
      exact iff_of_true (written.raisedByDeposit found le_rfl) trivial
  | leftEarly found positive _ written =>
      exact iff_of_true (written.raisedByDeposit found (sub_le_self _ positive)) trivial
  | closed found _ _ unslashed written =>
      have nonnegative := (sound _ found).within
      rw [unslashed] at nonnegative
      exact iff_of_true (written.raisedByDeposit found nonnegative) trivial
  | @toppedUp bond amount found _ _ _ received written =>
      apply iff_of_true
      · intro other later stored stands _ raised
        constructor
        · rfl
        · intro asset configured
          obtain rfl := Option.some.inj (found.symm.trans stored)
          obtain rfl := written.unique stands
          have positive : 0 < amount := by simpa using raised
          have pulled := receiveDeposit_pulled addressed positive configured received
          simpa using pulled
      · trivial
  | @withdrawn bond amount found _ _ _ _ _ written =>
      constructor
      · intro raised
        by_contra negative
        have below : amount < 0 := not_le.mp negative
        have grown : bond.bondedAmount < bond.bondedAmount - amount := by omega
        cases (raised _ _ found written.bond rfl grown).1
      · intro positive
        exact written.raisedByDeposit found (sub_le_self _ positive)
  | @created identity amount _ _ _ _ _ _ received written =>
      constructor
      · rintro raised bond found rfl grown configured
        obtain ⟨asset, token⟩ := Option.isSome_iff_exists.mp configured
        have pulled := (raised _ _ found written.bond rfl grown).2 asset token
        -- the whole new amount was pulled, not the rise
        obtain ⟨gained, -, -⟩ := receiveDeposit_transfer token received
        have measured := pulled.measured
        simp only at measured
        rw [addressed] at gained
        omega
      · intro addsUp bond later found stands owner grown
        obtain rfl := written.unique stands
        constructor
        · rfl
        · intro asset token
          have configured := Option.isSome_iff_exists.mpr ⟨asset, token⟩
          have empty := addsUp bond found owner.symm grown configured
          simp only [empty] at grown ⊢
          have payer : identity = bond.identity := owner
          have pulled := receiveDeposit_pulled addressed grown token received
          simpa [← payer] using pulled

end Raise

section Runs

variable {Ledger : Type} {ext : Externals Ledger} {self : Address}
variable {start final : State Ledger} {trace : List (Event (State Ledger) Label)}

/-- In every run, a step that raises the bonded amount of an owner is a deposit that
pulled the rise from the owner, if and only if the step is no negative withdrawal and
does not replace a bond with something bonded by a larger one of the same owner. -/
theorem raised_by_deposit_iff (guarded : ext.Guarded self)
    (unbonded : start.storage.bond = none) (run : Run (Step ext self) start trace final)
    {event : Event (State Ledger) Label} (member : event ∈ trace) :
    RaisedByDeposit ext self event ↔ event.label.AddsUp event.before.storage := by
  obtain ⟨sound, effect⟩ := change_of_mem guarded unbonded run member
  obtain ⟨before, ⟨env, act⟩, after⟩ := event
  rcases effect with ⟨call, rfl, addressed, change⟩ | ⟨rfl, same⟩
  · exact change_raised_iff change addressed sound
  · exact iff_of_true (raisedByDeposit_of_same same.bond) trivial

end Runs

section Sample

/-- A user deposits twice, withdraws a negative amount after the lock-up and creates
a larger bond. -/
def inflation : List Label :=
  [ ⟨.signedBy ⟨5⟩ ⟨0⟩ 0, .call (.createBond ⟨5⟩ 1000000000000000000 60 false 0)⟩,
    ⟨.signedBy ⟨5⟩ ⟨0⟩ 10, .call (.topUp ⟨5⟩ 250000000000000000)⟩,
    ⟨.signedBy ⟨5⟩ ⟨0⟩ 60, .call (.withdraw ⟨5⟩ (-250000000000000000))⟩,
    ⟨.signedBy ⟨5⟩ ⟨0⟩ 61, .call (.createBond ⟨5⟩ 1750000000000000000 60 false 0)⟩ ]

def inflationTrace : List (Event (State ReferenceLedger) Label) :=
  record (next Externals.reference ⟨0⟩) bondSample inflation

theorem inflationTrace_run :
    Run (Step Externals.reference ⟨0⟩) bondSample inflationTrace
      (inflation.foldl (advance (next Externals.reference ⟨0⟩)) bondSample) :=
  run_of_record step_of_next (by decide +kernel)

/-- A bond of the user with its amount and start. -/
def inflatedBond (bondedAmount : Int) (bondStart : Nat) : IdentityBond where
  identity := ⟨5⟩
  bondedAmount
  bondStart
  bondDuration := 60
  slashedAmount := 0
  active := true
  isRolling := false
  withdrawalRequestedAt := 0
  noticePeriodDuration := 0

/-- Neither rise is what a deposit pulled: the withdrawal pulls nothing, and the new
bond pulls all of its amount for a part of it. -/
theorem bonded_without_deposit :
    ∃ trace final withdrawal replacement,
      Run (Step Externals.reference ⟨0⟩) bondSample trace final ∧
        withdrawal ∈ trace ∧
          withdrawal.label.act = .call (.withdraw ⟨5⟩ (-250000000000000000)) ∧
            ¬RaisedByDeposit Externals.reference ⟨0⟩ withdrawal ∧
              replacement ∈ trace ∧
                replacement.label.act = .call (.createBond ⟨5⟩ 1750000000000000000 60 false 0) ∧
                  ¬RaisedByDeposit Externals.reference ⟨0⟩ replacement := by
  refine ⟨_, _, inflationTrace.get ⟨2, by decide⟩, inflationTrace.get ⟨3, by decide⟩,
    inflationTrace_run, List.get_mem _ _, rfl, fun raised => ?_, List.get_mem _ _, rfl,
    fun raised => ?_⟩
  · have deposits := (raised (inflatedBond 1250000000000000000 0)
      (inflatedBond 1500000000000000000 0) (by decide +kernel) (by decide +kernel) rfl
      (by decide)).1
    cases deposits
  · have pulled := (raised (inflatedBond 1500000000000000000 0)
      (inflatedBond 1750000000000000000 61) (by decide +kernel) (by decide +kernel) rfl
      (by decide)).2 ⟨9⟩ (by decide +kernel)
    exact absurd pulled.measured (by decide +kernel)

/-- What the second deposit added was pulled from the user. -/
theorem raised_by_deposit_sample :
    ∃ trace final event, Run (Step Externals.reference ⟨0⟩) bondSample trace final ∧
      event ∈ trace ∧ event.label.act = .call (.topUp ⟨5⟩ 250000000000000000) ∧
        RaisedByDeposit Externals.reference ⟨0⟩ event := by
  have member : inflationTrace.get ⟨1, by decide⟩ ∈ inflationTrace := List.get_mem _ _
  exact ⟨_, _, _, inflationTrace_run, member, rfl,
    (raised_by_deposit_iff (guarded_reference ⟨0⟩) rfl inflationTrace_run member).mpr trivial⟩

end Sample

end CredenceBond
