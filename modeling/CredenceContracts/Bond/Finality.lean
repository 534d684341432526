import CredenceContracts.Bond.Isolation
import CredenceContracts.Bond.Lockup
import CredenceContracts.Bond.Published

/-!
# A closed bond

Closing a bond, by its owner or by liquidation, clears its active flag.  The two
closings and one of the two slashes ask for the flag; the other operations on a
bond do not, so that a closed bond can still be paid into, drawn from, slashed and
renewed.  Closing itself happens once for each created bond.
-/

namespace CredenceBond

open Soroban MachineInt Transition

section Publishing

def BondEvent.isLiquidation : BondEvent → Bool
  | .bondLiquidated .. => true
  | _ => false

/-- How many of the events are liquidations. -/
def liquidations (events : List BondEvent) : Nat :=
  events.countP BondEvent.isLiquidation

variable {kind : BondEvent → Bool} {before after : List BondEvent}

/-- A log that grew by other events has as many liquidations as before. -/
theorem Logs.liquidations_eq (logged : Logs kind before after)
    (others : ∀ event, kind event = true → event.isLiquidation = false) :
    liquidations after = liquidations before := by
  obtain ⟨published, rfl, every⟩ := logged
  have none : published.countP BondEvent.isLiquidation = 0 := by
    apply List.countP_eq_zero.mpr
    intro event member
    simp [others event (every event member)]
  simp [liquidations, none]

end Publishing

section Standing

/-- What closing a bond is to fix. -/
structure IdentityBond.SameStanding (bond later : IdentityBond) : Prop where
  bondedAmount : later.bondedAmount = bond.bondedAmount
  slashedAmount : later.slashedAmount = bond.slashedAmount
  bondStart : later.bondStart = bond.bondStart
  bondDuration : later.bondDuration = bond.bondDuration
  withdrawalRequestedAt : later.withdrawalRequestedAt = bond.withdrawalRequestedAt
  active : later.active = bond.active

/-- The operations on the stored bond. -/
def Call.operates : Call → Bool
  | .topUp .. | .withdraw .. | .withdrawEarly .. | .withdrawBond .. | .requestWithdrawal ..
  | .renewIfRolling .. | .extendDuration .. | .liquidate .. | .slash .. | .slashBond .. => true
  | _ => false

def Act.operates : Act → Bool
  | .call made => made.operates
  | .elsewhere => false

/-- The two calls that close a bond. -/
def Act.closes : Act → Bool
  | .call (.withdrawBond ..) | .call (.liquidate ..) => true
  | _ => false

/-- A renewal would start a new period of the bond. -/
def IdentityBond.Renews (bond : IdentityBond) (now : Nat) : Prop :=
  bond.isRolling = true ∧ bond.withdrawalRequestedAt = 0 ∧
    bond.bondStart + bond.bondDuration ≤ now

variable {Ledger : Type}

/-- The step keeps a closed bond as it is, and an operation on it moves no tokens. -/
def KeepsClosed (event : Event (State Ledger) Label) : Prop :=
  ∀ bond, event.before.storage.bond = some bond → bond.active = false →
    event.label.act.creates = false →
      (∃ later, event.after.storage.bond = some later ∧ bond.SameStanding later) ∧
        (event.label.act.operates = true → event.after.ledger = event.before.ledger)

/-- The operation asks for no change of a closed bond: amounts and durations are
zero, a slash finds nothing to take, and a request or a renewal would store the
time that is stored. -/
def Label.Idles (label : Label) (storage : Storage) : Prop :=
  ∀ bond, storage.bond = some bond → bond.active = false →
    match label.act with
    | .call (.topUp _ amount) | .call (.withdraw _ amount) | .call (.withdrawEarly _ amount) =>
        amount = 0
    | .call (.requestWithdrawal _) => label.env.timestamp = bond.withdrawalRequestedAt
    | .call (.renewIfRolling _) =>
        bond.Renews label.env.timestamp → label.env.timestamp = bond.bondStart
    | .call (.extendDuration _ additionalDuration) => additionalDuration = 0
    | .call (.slash _ amount) => bond.stake = 0 ∨ amount = 0 ∧ bond.stake ≠ 1
    | _ => True

variable {ext : Externals Ledger} {self : Address} {env : Env} {call : Call}
variable {before after : State Ledger} {bond later : IdentityBond}

theorem IdentityBond.SameStanding.refl (bond : IdentityBond) : bond.SameStanding bond :=
  ⟨rfl, rfl, rfl, rfl, rfl, rfl⟩

theorem creates_of_operates (operates : call.operates = true) :
    (Act.call call).creates = false := by
  cases call <;> first | rfl | cases operates

/-- A call that neither operates on the bond nor creates one leaves it alone. -/
theorem Change.bond_of_spares (change : Change ext env before after call)
    (still : call.operates = false) (kept : (Act.call call).creates = false) :
    after.storage.bond = before.storage.bond := by
  cases change with
  | initialized _ _ same | transferred _ _ same => exact same
  | administered _ _ same | unrelated _ same => exact same.bond
  | created => cases kept
  | _ => cases still

theorem keepsClosed_of_same {label : Label}
    (same : after.storage.bond = before.storage.bond) (still : label.act.operates = false) :
    KeepsClosed ⟨before, label, after⟩ := by
  intro bond found _ _
  constructor
  · exact ⟨bond, same.trans found, .refl bond⟩
  · intro operates
    simp [still] at operates

/-- An operation that wrote the bond keeps a closed one exactly when it wrote the
same standing and left the ledger. -/
theorem keepsClosed_iff (operates : call.operates = true)
    (found : before.storage.bond = some bond) (written : after.storage.bond = some later) :
    KeepsClosed ⟨before, ⟨env, .call call⟩, after⟩ ↔
      (bond.active = false → bond.SameStanding later ∧ after.ledger = before.ledger) := by
  constructor
  · intro keeps closed
    obtain ⟨⟨other, stored, same⟩, still⟩ :=
      keeps bond found closed (creates_of_operates operates)
    obtain rfl := Option.some.inj (written.symm.trans stored)
    exact ⟨same, still operates⟩
  · intro keeps other stored closed _
    obtain rfl := Option.some.inj (found.symm.trans stored)
    obtain ⟨same, still⟩ := keeps closed
    exact ⟨⟨later, written, same⟩, fun _ => still⟩

theorem receiveDeposit_zero {storage : Storage} {ledger moved : Ledger} {identity : Address}
    (received : receiveDeposit ext.token env storage ledger identity 0 = .ok moved) :
    moved = ledger := by
  unfold receiveDeposit at received
  split at received
  · simpa [transferIntoContract, Outcome.rejectIf, eq_comm] using received
  · exact Outcome.pure_eq_ok.mp received

theorem forall_stored_iff {property : IdentityBond → Prop}
    (found : before.storage.bond = some bond) :
    (∀ other, before.storage.bond = some other → property other) ↔ property bond := by
  simp [found]

/-- An operation on a bond keeps it closed exactly when it idles, where for a closed
bond the one condition is the other. -/
theorem keepsClosed_iff_idles {idle : Prop} (operates : call.operates = true)
    (found : before.storage.bond = some bond) (written : after.storage.bond = some later)
    (idles : Label.Idles ⟨env, .call call⟩ before.storage ↔ (bond.active = false → idle))
    (same : bond.active = false →
      (bond.SameStanding later ∧ after.ledger = before.ledger ↔ idle)) :
    KeepsClosed ⟨before, ⟨env, .call call⟩, after⟩ ↔
      Label.Idles ⟨env, .call call⟩ before.storage := by
  apply (keepsClosed_iff operates found written).trans
  apply Iff.trans _ idles.symm
  exact forall_congr' same

section Operations

variable {identity admin : Address} {amount : Int}

theorem topUp_keepsClosed_iff (done : topUp ext env before identity amount = .ok after) :
    KeepsClosed ⟨before, ⟨env, .call (.topUp identity amount)⟩, after⟩ ↔
      Label.Idles ⟨env, .call (.topUp identity amount)⟩ before.storage := by
  obtain ⟨bond, found, -, -, -, -, received, stored⟩ := topUp_ok done
  apply keepsClosed_iff_idles rfl found (by rw [stored]) (forall_stored_iff found)
  intro closed
  constructor
  · rintro ⟨same, -⟩
    simpa using same.bondedAmount
  · rintro rfl
    exact ⟨⟨add_zero _, rfl, rfl, rfl, rfl, rfl⟩, receiveDeposit_zero received⟩

theorem withdraw_keepsClosed_iff (done : withdraw env before identity amount = .ok after) :
    KeepsClosed ⟨before, ⟨env, .call (.withdraw identity amount)⟩, after⟩ ↔
      Label.Idles ⟨env, .call (.withdraw identity amount)⟩ before.storage := by
  obtain ⟨bond, found, -, -, -, -, -, -, still, stored⟩ := withdraw_ok done
  apply keepsClosed_iff_idles rfl found (by rw [stored]) (forall_stored_iff found)
  intro closed
  constructor
  · rintro ⟨same, -⟩
    simpa using same.bondedAmount
  · rintro rfl
    exact ⟨⟨sub_zero _, rfl, rfl, rfl, rfl, rfl⟩, still⟩

theorem withdrawEarly_keepsClosed_iff
    (done : withdrawEarly ext env before identity amount = .ok after) :
    KeepsClosed ⟨before, ⟨env, .call (.withdrawEarly identity amount)⟩, after⟩ ↔
      Label.Idles ⟨env, .call (.withdrawEarly identity amount)⟩ before.storage := by
  obtain ⟨bond, config, middle, found, -, -, -, low, high, charged, paid, stored⟩ :=
    withdrawEarly_ok done
  apply keepsClosed_iff_idles rfl found (by rw [stored]) (forall_stored_iff found)
  intro closed
  constructor
  · rintro ⟨same, -⟩
    simpa using same.bondedAmount
  · rintro rfl
    have free : earlyExitPenalty env bond config 0 = 0 := le_antisymm high low
    rw [free] at charged paid
    obtain rfl : before.ledger = middle := by simpa using charged
    exact ⟨⟨sub_zero _, rfl, rfl, rfl, rfl, rfl⟩, by simpa [eq_comm] using paid⟩

theorem requestWithdrawal_keepsClosed_iff {stored : Storage}
    (done : requestWithdrawal env before.storage identity = .ok stored) :
    KeepsClosed ⟨before, ⟨env, .call (.requestWithdrawal identity)⟩, before.store stored⟩ ↔
      Label.Idles ⟨env, .call (.requestWithdrawal identity)⟩ before.storage := by
  obtain ⟨bond, found, -, -, -, kept⟩ := requestWithdrawal_ok done
  apply keepsClosed_iff_idles rfl found (congrArg Storage.bond kept) (forall_stored_iff found)
  intro closed
  constructor
  · rintro ⟨same, -⟩
    exact same.withdrawalRequestedAt
  · intro requested
    exact ⟨⟨rfl, rfl, rfl, rfl, requested, rfl⟩, rfl⟩

theorem extendDuration_keepsClosed_iff {stored : Storage} {additionalDuration : Nat}
    (done : extendDuration env before.storage identity additionalDuration = .ok stored) :
    KeepsClosed ⟨before, ⟨env, .call (.extendDuration identity additionalDuration)⟩,
        before.store stored⟩ ↔
      Label.Idles ⟨env, .call (.extendDuration identity additionalDuration)⟩ before.storage := by
  obtain ⟨bond, found, -, -, kept⟩ := extendDuration_ok done
  apply keepsClosed_iff_idles rfl found (congrArg Storage.bond kept) (forall_stored_iff found)
  intro closed
  constructor
  · rintro ⟨same, -⟩
    simpa using same.bondDuration
  · rintro rfl
    exact ⟨⟨rfl, rfl, rfl, rfl, rfl, rfl⟩, rfl⟩

theorem slash_keepsClosed_iff (sound : before.storage.Sound)
    (done : slash ext env before admin amount = .ok after) :
    KeepsClosed ⟨before, ⟨env, .call (.slash admin amount)⟩, after⟩ ↔
      Label.Idles ⟨env, .call (.slash admin amount)⟩ before.storage := by
  obtain ⟨bond, found, nonnegative, -, moved, -, -, -, stored⟩ := slash_ok done
  apply keepsClosed_iff_idles rfl found (by rw [stored]) (forall_stored_iff found)
  intro closed
  apply Iff.trans _ (slashed_nothing_iff (sound bond found) nonnegative)
  constructor
  · rintro ⟨same, -⟩
    have kept := same.slashedAmount
    simp only at kept
    omega
  · intro nothing
    refine ⟨⟨rfl, by simp only; omega, rfl, rfl, rfl, rfl⟩, ?_⟩
    rcases moved with ⟨positive, -⟩ | ⟨-, still⟩
    · have rest : 0 ≤ slashedDust bond amount := by
        unfold slashedDust slashedPart
        split <;> omega
      omega
    · exact still

/-- A renewal starts a new period where one is due, and does nothing else. -/
theorem renewIfRolling_cases {storage stored : Storage}
    (done : renewIfRolling env storage identity = .ok stored) :
    ∃ bond, storage.bond = some bond ∧
      (¬bond.Renews env.timestamp ∧ stored = storage ∨
        bond.Renews env.timestamp ∧ stored.bond = some
          { bond with bondStart := env.timestamp, withdrawalRequestedAt := 0 }) := by
  simp only [renewIfRolling, Outcome.bind_eq_ok, ownedBond_eq_ok] at done
  obtain ⟨_, -, bond, ⟨found, -⟩, done⟩ := done
  refine ⟨bond, found, ?_⟩
  split at done
  · rename_i refused
    obtain rfl := Outcome.pure_eq_ok.mp done
    left
    constructor
    · rintro ⟨rolling, unrequested, -⟩
      simp [rolling, unrequested] at refused
    · rfl
  · rename_i admitted
    have rolling : bond.isRolling = true ∧ bond.withdrawalRequestedAt = 0 := by
      simpa using admitted
    simp only [Outcome.bind_eq_ok, checkedU64_eq_ok] at done
    obtain ⟨_, ⟨-, rfl⟩, done⟩ := done
    split at done
    · rename_i early
      obtain rfl := Outcome.pure_eq_ok.mp done
      left
      constructor
      · rintro ⟨-, -, ended⟩
        exact absurd early ended.not_gt
      · rfl
    · rename_i late
      simp only [Outcome.bind_eq_ok, Outcome.pure_eq_ok] at done
      obtain ⟨_, -, rfl⟩ := done
      right
      exact ⟨⟨rolling.1, rolling.2, not_lt.mp late⟩, rfl⟩

theorem renewIfRolling_keepsClosed_iff {stored : Storage}
    (done : renewIfRolling env before.storage identity = .ok stored) :
    KeepsClosed ⟨before, ⟨env, .call (.renewIfRolling identity)⟩, before.store stored⟩ ↔
      Label.Idles ⟨env, .call (.renewIfRolling identity)⟩ before.storage := by
  obtain ⟨bond, found, ⟨early, rfl⟩ | ⟨renews, written⟩⟩ := renewIfRolling_cases done
  · apply keepsClosed_iff_idles rfl found found (forall_stored_iff found)
    intro closed
    exact iff_of_true ⟨.refl bond, rfl⟩ fun renews => absurd renews early
  · apply keepsClosed_iff_idles rfl found written (forall_stored_iff found)
    intro closed
    constructor
    · rintro ⟨same, -⟩ -
      exact same.bondStart
    · intro started
      exact ⟨⟨rfl, rfl, started renews, rfl, renews.2.1.symm, rfl⟩, rfl⟩

/-- The closings and the guarded slash need an active bond. -/
theorem keepsClosed_iff_of_active (found : before.storage.bond = some bond)
    (active : bond.active = true) {label : Label} :
    KeepsClosed ⟨before, label, after⟩ ↔ label.Idles before.storage := by
  have refuted (other : IdentityBond) (stored : before.storage.bond = some other)
      (closed : other.active = false) : False := by
    obtain rfl := Option.some.inj (found.symm.trans stored)
    simp [active] at closed
  constructor
  · intro _ other stored closed
    exact (refuted other stored closed).elim
  · intro _ other stored closed
    exact (refuted other stored closed).elim

theorem withdrawBond_active {withdrawn : Int}
    (done : withdrawBond ext env before identity = .ok (after, withdrawn)) :
    ∃ bond, before.storage.bond = some bond ∧ bond.active = true := by
  simp only [withdrawBond, Outcome.bind_eq_ok, acquireLock_eq_ok, ownedBond_eq_ok,
    Outcome.rejectIf_eq_ok, Bool.not_eq_false] at done
  obtain ⟨_, -, _, ⟨-, rfl⟩, bond, ⟨found, -⟩, _, active, -⟩ := done
  exact ⟨bond, found, active⟩

theorem liquidate_active {storage stored : Storage}
    (done : liquidate env storage admin = .ok stored) :
    ∃ bond, storage.bond = some bond ∧ bond.active = true := by
  simp only [liquidate, Outcome.bind_eq_ok, acquireLock_eq_ok, Outcome.unwrapOr_eq_ok,
    Outcome.rejectIf_eq_ok, Bool.not_eq_false] at done
  obtain ⟨_, -, _, ⟨-, rfl⟩, bond, found, _, -, _, active, -⟩ := done
  exact ⟨bond, found, active⟩

/-- A call keeps a closed bond exactly when it idles. -/
theorem invoke_keepsClosed_iff (guarded : ext.Guarded self) (sound : before.storage.Sound)
    (done : invoke ext env before call = .ok after) :
    KeepsClosed ⟨before, ⟨env, .call call⟩, after⟩ ↔
      Label.Idles ⟨env, .call call⟩ before.storage := by
  have change := invoke_change guarded done
  cases call with
  | topUp identity amount => exact topUp_keepsClosed_iff done
  | withdraw identity amount => exact withdraw_keepsClosed_iff done
  | withdrawEarly identity amount => exact withdrawEarly_keepsClosed_iff done
  | slash admin amount => exact slash_keepsClosed_iff sound done
  | requestWithdrawal identity =>
      obtain ⟨stored, accepted, rfl⟩ := storing_eq_ok.mp done
      exact requestWithdrawal_keepsClosed_iff accepted
  | extendDuration identity additionalDuration =>
      obtain ⟨stored, accepted, rfl⟩ := storing_eq_ok.mp done
      exact extendDuration_keepsClosed_iff accepted
  | renewIfRolling identity =>
      obtain ⟨stored, accepted, rfl⟩ := storing_eq_ok.mp done
      exact renewIfRolling_keepsClosed_iff accepted
  | withdrawBond identity =>
      obtain ⟨⟨_, withdrawn⟩, accepted, rfl⟩ := Outcome.map_eq_ok.mp done
      obtain ⟨bond, found, active⟩ := withdrawBond_active accepted
      exact keepsClosed_iff_of_active found active
  | liquidate admin =>
      obtain ⟨stored, accepted, rfl⟩ := storing_eq_ok.mp done
      obtain ⟨bond, found, active⟩ := liquidate_active accepted
      exact keepsClosed_iff_of_active found active
  | slashBond admin slashAmount idempotencySalt =>
      obtain ⟨⟨_, total⟩, accepted, rfl⟩ := Outcome.map_eq_ok.mp done
      obtain ⟨bond, _, _, found, active, -⟩ := slashBond_ok accepted
      exact keepsClosed_iff_of_active found active
  | createBond identity amount duration isRolling noticePeriodDuration =>
      apply iff_of_true
      · intro _ _ _ still
        cases still
      · intro _ _ _
        trivial
  | _ =>
      apply iff_of_true
      · exact keepsClosed_of_same (change.bond_of_spares rfl rfl) rfl
      · intro _ _ _
        trivial

end Operations

/-- A step keeps a closed bond exactly when it idles. -/
theorem step_keepsClosed_iff {label : Label} (guarded : ext.Guarded self)
    (sound : before.storage.Sound) (stepped : Step ext self before label after) :
    KeepsClosed ⟨before, label, after⟩ ↔ label.Idles before.storage := by
  cases stepped with
  | call addressed done => exact invoke_keepsClosed_iff guarded sound done
  | elsewhere =>
      apply iff_of_true
      · exact keepsClosed_of_same rfl rfl
      · intro _ _ _
        trivial

end Standing

section Closing

variable {Ledger : Type} {ext : Externals Ledger} {self : Address}
variable {before after start final : State Ledger} {label : Label}
variable {trace : List (Event (State Ledger) Label)}

/-- No active bond is stored. -/
def Storage.Closed (storage : Storage) : Prop :=
  ∀ bond, storage.bond = some bond → bond.active = false

theorem closes_of_spares {call : Call} (spares : call.Spares) :
    (Act.call call).closes = false := by
  rcases spares with admitted | admitted <;> cases call <;> first | rfl | contradiction

/-- A closing finds an active bond and leaves none. -/
theorem step_closes (guarded : ext.Guarded self) (stepped : Step ext self before label after)
    (closes : label.act.closes = true) :
    ¬before.storage.Closed ∧ after.storage.Closed := by
  cases stepped with
  | elsewhere => cases closes
  | @call env _ _ call addressed done =>
      have change := invoke_change guarded done
      have active : ∃ bond, before.storage.bond = some bond ∧ bond.active = true := by
        cases call with
        | withdrawBond identity =>
            obtain ⟨_, accepted, -⟩ := Outcome.map_eq_ok.mp done
            exact withdrawBond_active accepted
        | liquidate admin =>
            obtain ⟨_, accepted, -⟩ := storing_eq_ok.mp done
            exact liquidate_active accepted
        | _ => cases closes
      obtain ⟨bond, found, active⟩ := active
      constructor
      · intro closed
        simp [closed bond found] at active
      · cases change with
        | closed _ _ _ _ written | liquidated _ _ written =>
            intro later stored
            obtain rfl := written.unique stored
            rfl
        | administered administers _ _ => simp [closes_of_spares (.inl administers)] at closes
        | unrelated bystands _ => simp [closes_of_spares (.inr bystands)] at closes
        | _ => cases closes

/-- Only creating a bond stores an active one over a closed one. -/
theorem step_closed (guarded : ext.Guarded self) (stepped : Step ext self before label after)
    (kept : label.act.creates = false) (closed : before.storage.Closed) :
    after.storage.Closed := by
  have same (unchanged : after.storage.bond = before.storage.bond) : after.storage.Closed :=
    fun bond stored => closed bond (unchanged ▸ stored)
  have written {bond later : IdentityBond} (found : before.storage.bond = some bond)
      (writes : before.storage.Writes after.storage later) (idle : later.active = bond.active) :
      after.storage.Closed := by
    intro other stored
    obtain rfl := writes.unique stored
    exact idle.trans (closed bond found)
  cases stepped with
  | elsewhere => exact same rfl
  | call addressed done =>
      cases invoke_change guarded done with
      | initialized _ _ unchanged | transferred _ _ unchanged => exact same unchanged
      | administered _ _ unchanged | unrelated _ unchanged | notRenewed unchanged =>
          exact same unchanged.bond
      | created => cases kept
      | toppedUp found _ _ _ _ writes | withdrawn found _ _ _ _ _ writes
      | leftEarly found _ _ writes | requested found _ writes | renewed found _ writes
      | extended found _ writes | slashed found _ _ _ _ writes
      | slashBonded found _ _ _ writes => exact written found writes rfl
      | closed found _ _ _ writes | liquidated found _ writes =>
          intro other stored
          obtain rfl := writes.unique stored
          rfl

theorem step_liquidations (guarded : ext.Guarded self)
    (stepped : Step ext self before label after) :
    liquidations after.storage.events ≤
      liquidations before.storage.events + if label.act.closes then 1 else 0 := by
  cases stepped with
  | elsewhere => exact le_rfl
  | @call _ _ _ call addressed done =>
      cases call with
      | liquidate admin =>
          obtain ⟨_, accepted, rfl⟩ := storing_eq_ok.mp done
          obtain ⟨_, _, _, logged⟩ := liquidate_events accepted
          simp [State.store, logged, liquidations, BondEvent.isLiquidation, Act.closes]
      | _ =>
          rw [(invoke_logs guarded done).liquidations_eq]
          · exact Nat.le_add_right _ _
          · intro event
            cases event <;> simp [Call.publishes, BondEvent.isLiquidation]

/-- Every published liquidation is a closing of the run. -/
theorem liquidations_of_run (guarded : ext.Guarded self)
    (run : Run (Step ext self) start trace final) :
    liquidations final.storage.events ≤ liquidations start.storage.events +
      (trace.filter fun event => event.label.act.closes).length := by
  apply run.history (motive := fun trace state => liquidations state.storage.events ≤
    liquidations start.storage.events +
      (trace.filter fun event => event.label.act.closes).length)
  · exact le_rfl
  · intro trace event _ counted stepped
    have step := step_liquidations guarded stepped
    rw [List.filter_append, List.length_append, List.filter_singleton]
    by_cases closes : event.label.act.closes = true
    · simp only [closes, if_true, cond_true, List.length_singleton] at step ⊢
      omega
    · simp only [closes, if_false, cond_false, List.length_nil, Bool.false_eq_true] at step ⊢
      omega

/-- A run in which no bond is created closes one at most, and publishes at most one
liquidation. -/
theorem closed_once (guarded : ext.Guarded self) (run : Run (Step ext self) start trace final)
    (kept : ∀ event ∈ trace, event.label.act.creates = false) :
    (trace.filter fun event => event.label.act.closes).length ≤ 1 ∧
      liquidations final.storage.events ≤ liquidations start.storage.events + 1 := by
  have once : (trace.filter fun event => event.label.act.closes).length ≤ 1 := by
    have restricted := (run.restrict (fun event => event.label.act.creates = false)
      (fun _ => True) kept trivial fun _ _ _ _ => trivial).1
    apply restricted.length_filter_le_one (fun event => event.label.act.closes)
      (fun state => state.storage.Closed)
    · rintro event closes ⟨stepped, -⟩
      exact (step_closes guarded stepped closes).1
    · rintro event closes ⟨stepped, -⟩
      exact (step_closes guarded stepped closes).2
    · rintro event closed ⟨stepped, still, -⟩
      exact step_closed guarded stepped still closed
  have published := liquidations_of_run guarded run
  exact ⟨once, by omega⟩

end Closing

section Runs

variable {Ledger : Type} {ext : Externals Ledger} {self : Address}
variable {start final : State Ledger} {trace : List (Event (State Ledger) Label)}

/-- In every run, a step keeps a closed bond as it is, and moves no tokens on its
account, if and only if it idles; and every part of a run that creates no bond
closes one at most and publishes at most one liquidation. -/
theorem closed_bond_final_iff (guarded : ext.Guarded self)
    (unbonded : start.storage.bond = none) (run : Run (Step ext self) start trace final) :
    (∀ event ∈ trace, KeepsClosed event ↔ event.label.Idles event.before.storage) ∧
      ∀ earlier between later, trace = earlier ++ between ++ later →
        (∀ event ∈ between, event.label.act.creates = false) →
          (between.filter fun event => event.label.act.closes).length ≤ 1 ∧
            ∃ first last, Run (Step ext self) start earlier first ∧
              Run (Step ext self) first between last ∧
                liquidations last.storage.events ≤ liquidations first.storage.events + 1 := by
  constructor
  · intro event member
    obtain ⟨earlier, reached, stepped⟩ := run.reached_of_mem member
    exact step_keepsClosed_iff guarded (.of_run guarded unbonded reached) stepped
  · rintro earlier between later rfl kept
    obtain ⟨last, reached, -⟩ := run.split_append
    obtain ⟨first, before, onward⟩ := reached.split_append
    obtain ⟨once, published⟩ := closed_once guarded onward kept
    exact ⟨once, first, last, before, onward, published⟩

end Runs

section Sample

/-- A user's bond, closed by its owner with nothing left in it. -/
def emptiedBond : IdentityBond where
  identity := ⟨5⟩
  bondedAmount := 0
  bondStart := 0
  bondDuration := 60
  slashedAmount := 0
  active := false
  isRolling := false
  withdrawalRequestedAt := 0
  noticePeriodDuration := 0

/-- The user closes a bond and pays into it again. -/
def reopening : List Label :=
  [ ⟨.signedBy ⟨5⟩ ⟨0⟩ 0, .call (.createBond ⟨5⟩ 1000000000000000000 60 false 0)⟩,
    ⟨.signedBy ⟨5⟩ ⟨0⟩ 60, .call (.withdrawBond ⟨5⟩)⟩,
    ⟨.signedBy ⟨5⟩ ⟨0⟩ 70, .call (.topUp ⟨5⟩ 1000000000000000000)⟩ ]

def reopeningTrace : List (Event (State ReferenceLedger) Label) :=
  record (next Externals.reference ⟨0⟩) bondSample reopening

theorem reopeningTrace_run :
    Run (Step Externals.reference ⟨0⟩) bondSample reopeningTrace
      (reopening.foldl (advance (next Externals.reference ⟨0⟩)) bondSample) :=
  run_of_record step_of_next (by decide +kernel)

/-- Topping up a closed bond changes it. -/
theorem closed_bond_topped_up :
    ∃ trace final event, Run (Step Externals.reference ⟨0⟩) bondSample trace final ∧
      event ∈ trace ∧ event.label.act = .call (.topUp ⟨5⟩ 1000000000000000000) ∧
        ¬KeepsClosed event := by
  have member : reopeningTrace.get ⟨2, by decide⟩ ∈ reopeningTrace := List.get_mem _ _
  refine ⟨_, _, _, reopeningTrace_run, member, rfl, ?_⟩
  intro keeps
  obtain ⟨_, reached, stepped⟩ := reopeningTrace_run.reached_of_mem member
  have guarded : Externals.reference.Guarded ⟨0⟩ := guarded_reference ⟨0⟩
  have idles := (step_keepsClosed_iff guarded (.of_run guarded rfl reached) stepped).mp keeps
  have nothing : (1000000000000000000 : Int) = 0 := idles emptiedBond (by decide +kernel) rfl
  exact absurd nothing (by decide)

/-- The admin liquidates an expired bond, and its owner tops it up by nothing. -/
def liquidationRun : List Label :=
  [ ⟨.signedBy ⟨5⟩ ⟨0⟩ 0, .call (.createBond ⟨5⟩ 1000000000000000000 60 false 0)⟩,
    ⟨.signedBy ⟨1⟩ ⟨0⟩ 60, .call (.liquidate ⟨1⟩)⟩,
    ⟨.signedBy ⟨5⟩ ⟨0⟩ 70, .call (.topUp ⟨5⟩ 0)⟩ ]

def liquidationTrace : List (Event (State ReferenceLedger) Label) :=
  record (next Externals.reference ⟨0⟩) bondSample liquidationRun

theorem closed_bond_final_sample :
    ∃ trace final event, Run (Step Externals.reference ⟨0⟩) bondSample trace final ∧
      event ∈ trace ∧ event.label.act = .call (.topUp ⟨5⟩ 0) ∧
        (∃ bond, event.before.storage.bond = some bond ∧ bond.active = false) ∧
          KeepsClosed event := by
  have run : Run (Step Externals.reference ⟨0⟩) bondSample liquidationTrace
      (liquidationRun.foldl (advance (next Externals.reference ⟨0⟩)) bondSample) :=
    run_of_record step_of_next (by decide +kernel)
  have member : liquidationTrace.get ⟨2, by decide⟩ ∈ liquidationTrace := List.get_mem _ _
  have closed : (liquidationTrace.get ⟨2, by decide⟩).before.storage.bond =
      some { emptiedBond with bondedAmount := 1000000000000000000 } := by decide +kernel
  refine ⟨_, _, _, run, member, rfl, ⟨_, closed, rfl⟩, ?_⟩
  apply ((closed_bond_final_iff (guarded_reference ⟨0⟩) rfl run).1 _ member).mpr
  intro _ _ _
  rfl

end Sample

end CredenceBond
