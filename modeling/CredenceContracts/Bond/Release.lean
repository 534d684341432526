import CredenceContracts.Bond.Closing
import CredenceContracts.Bond.Finality

/-!
# The way out of a bond

A withdrawal adds the duration of the bond to its start, and the notice period to the
time of the request, both within the range of a timestamp.  Creation and extension
check the first sum; a renewal does not, and nothing checks the second one.  An
unslashed bond can be left from some time on if and only if neither sum overflows.
-/

namespace CredenceBond

open Soroban MachineInt Transition

section Leaving

variable {Ledger : Type}

/-- The owner is ready to withdraw: as things are, or by a request before. -/
inductive Readies (self : Address) (now time : Nat) (identity : Address)
    (state : State Ledger) : State Ledger → Prop where
  | already : Readies self now time identity state state
  | requesting {requested : Nat} {stored : Storage} : now ≤ requested → requested ≤ time →
      requestWithdrawal (.signedBy identity self requested) state.storage identity =
        .ok stored →
      Readies self now time identity state (state.store stored)

/-- From now on there is a time at which the owner can withdraw all that is bonded. -/
def CanLeave (self : Address) (now : Nat) (state : State Ledger) : Prop :=
  ∃ bond time ready after, state.storage.bond = some bond ∧ now ≤ time ∧ time < 2 ^ 64 ∧
    Readies self now time bond.identity state ready ∧
      withdraw (.signedBy bond.identity self time) ready bond.identity bond.bondedAmount =
        .ok after

/-- The time of the request that a withdrawal from a rolling bond counts from: the one
that was made, or the earliest that can be. -/
def IdentityBond.requestTime (bond : IdentityBond) (now : Nat) : Nat :=
  if bond.withdrawalRequestedAt = 0 then max now 1 else bond.withdrawalRequestedAt

/-- Neither sum that a withdrawal checks overflows. -/
structure IdentityBond.Open (bond : IdentityBond) (now : Nat) : Prop where
  ends : bond.bondStart + bond.bondDuration < 2 ^ 64
  noticed : bond.isRolling = true →
    bond.requestTime now + bond.noticePeriodDuration < 2 ^ 64

/-- The stored bond was not slashed, and its owner's attestations are counted right. -/
structure Whole (state : State Ledger) (bond : IdentityBond) : Prop where
  found : state.storage.bond = some bond
  unslashed : bond.slashedAmount = 0
  nonneg : 0 ≤ bond.bondedAmount
  bounded : bond.bondedAmount ≤ maxBondAmount
  counted : Counted state bond.identity

variable {ext : Externals Ledger} {self : Address} {env : Env} {now : Nat}
variable {state after : State Ledger} {bond : IdentityBond} {storage stored : Storage}
variable {identity : Address}

theorem requestWithdrawal_eq_ok :
    requestWithdrawal env storage identity = .ok stored ↔
      env.authorized identity = true ∧ ∃ bond, storage.bond = some bond ∧
        bond.identity = identity ∧ bond.isRolling = true ∧ bond.withdrawalRequestedAt = 0 ∧
          stored = ({ storage with
            bond := some { bond with withdrawalRequestedAt := env.timestamp } }).publish
              (.withdrawalRequested bond.identity env.timestamp) ∧
          assertSelfConsistent stored = .ok () := by
  simp only [requestWithdrawal, Outcome.bind_eq_ok, requireAuth_eq_ok, ownedBond_eq_ok,
    Outcome.rejectIf_eq_ok, Outcome.pure_eq_ok, Bool.not_eq_false, ne_eq, not_not]
  constructor
  · rintro ⟨_, authorized, bond, ⟨found, owner⟩, _, rolling, _, unrequested, _, consistent, rfl⟩
    exact ⟨authorized, bond, found, owner, rolling, unrequested, rfl, consistent⟩
  · rintro ⟨authorized, bond, found, owner, rolling, unrequested, rfl, consistent⟩
    exact ⟨(), authorized, bond, ⟨found, owner⟩, (), rolling, (), unrequested, (), consistent,
      rfl⟩

theorem authorized_signedBy (signer self : Address) (timestamp : Nat) :
    (Env.signedBy signer self timestamp).authorized signer = true := by
  simp [Env.signedBy]

/-- A withdrawal of the whole unslashed bond succeeds as soon as its times allow it. -/
theorem withdraw_whole (whole : Whole state bond)
    (authorized : env.authorized bond.identity = true) (clock : env.timestamp < 2 ^ 64)
    (matured : bond.Matured env.timestamp)
    (noticed : bond.isRolling = true → bond.Noticed env.timestamp) :
    ∃ after, withdraw env state bond.identity bond.bondedAmount = .ok after := by
  obtain ⟨found, unslashed, nonneg, bounded, counted⟩ := whole
  have ended : bond.bondStart + bond.bondDuration ≤ env.timestamp := matured
  have small : maxBondAmount < 2 ^ 127 := by decide
  have stake : bond.stake = bond.bondedAmount := by
    simp [IdentityBond.stake, unslashed]
  have fits : FitsI128 bond.bondedAmount := by
    unfold FitsI128
    omega
  have admitted : requireNotice env bond
      (Outcome.rejectIf (env.timestamp < saturatingU64 (bond.bondStart + bond.bondDuration))
        (.contract .lockupNotExpired)) = .ok () := by
    rw [requireNotice_eq_ok]
    split
    · rename_i rolling
      exact ⟨(noticed rolling).2.trans_lt clock, noticed rolling⟩
    · rw [Outcome.rejectIf_eq_ok, not_lt]
      exact (min_le_left _ _).trans ended
  have emptied : bond.bondedAmount - bond.bondedAmount = 0 := sub_self _
  have within : bond.slashedAmount ≤ bond.bondedAmount - bond.bondedAmount := by
    rw [emptied, unslashed]
  simp only [withdraw, Outcome.bind_eq_ok, requireAuth_eq_ok, ownedBond_eq_ok,
    checkedU64_eq_ok, Outcome.rejectIf_eq_ok, checkedI128_eq_ok, Outcome.pure_eq_ok, not_lt]
  refine ⟨_, (), authorized, bond, ⟨found, rfl⟩, _, ⟨ended.trans_lt clock, rfl⟩, (), ended, (),
    admitted, _, ⟨stake ▸ fits, rfl⟩, (), stake.ge, _, ⟨emptied ▸ FitsI128.zero, rfl⟩, (),
    within, (), ?_, rfl⟩
  rw [emitTierChangeIfNeeded_events]
  exact consistent_of_counted { bond with bondedAmount := bond.bondedAmount - bond.bondedAmount }
    counted rfl rfl rfl unslashed.ge within

/-- The earliest request of a whole bond is accepted, and leaves it whole. -/
theorem requestWithdrawal_whole (whole : Whole state bond)
    (authorized : env.authorized bond.identity = true) (rolling : bond.isRolling = true)
    (unrequested : bond.withdrawalRequestedAt = 0) :
    ∃ stored, requestWithdrawal env state.storage bond.identity = .ok stored ∧
      Whole (state.store stored) { bond with withdrawalRequestedAt := env.timestamp } := by
  obtain ⟨found, unslashed, nonneg, bounded, counted⟩ := whole
  refine ⟨_, requestWithdrawal_eq_ok.mpr
    ⟨authorized, bond, found, rfl, rolling, unrequested, rfl, ?_⟩,
    rfl, unslashed, nonneg, bounded, counted⟩
  exact consistent_of_counted { bond with withdrawalRequestedAt := env.timestamp } counted
    rfl rfl rfl unslashed.ge (unslashed.le.trans nonneg)

/-- Some time is left to withdraw a whole bond if and only if neither sum overflows. -/
theorem canLeave_iff (whole : Whole state bond) (clock : now < 2 ^ 64) :
    CanLeave self now state ↔ bond.Open now := by
  constructor
  · rintro ⟨other, time, ready, after, stored, late, within, readies, done⟩
    obtain rfl := Option.some.inj (whole.found.symm.trans stored)
    obtain ⟨leaving, held, -, -, matured, noticed, -⟩ := withdraw_ok done
    cases readies with
    | already =>
        obtain rfl := Option.some.inj (whole.found.symm.trans held)
        refine ⟨matured.trans_lt within, fun rolling => ?_⟩
        obtain ⟨requested, elapsed⟩ := noticed rolling
        rw [IdentityBond.requestTime, if_neg requested]
        exact elapsed.trans_lt within
    | @requesting request stored later earlier requesting =>
        obtain ⟨-, asking, asked, -, rolling, unrequested, rfl, -⟩ :=
          requestWithdrawal_eq_ok.mp requesting
        obtain rfl := Option.some.inj (whole.found.symm.trans asked)
        obtain rfl := Option.some.inj held
        refine ⟨matured.trans_lt within, fun _ => ?_⟩
        obtain ⟨requested, elapsed⟩ := noticed rolling
        rw [IdentityBond.requestTime, if_pos unrequested]
        have positive : 1 ≤ request := Nat.one_le_iff_ne_zero.mpr requested
        have notice : request + bond.noticePeriodDuration ≤ time := elapsed
        omega
  · rintro ⟨ends, noticed⟩
    -- the last of all times is late enough for everything
    have last : now ≤ 2 ^ 64 - 1 ∧ 2 ^ 64 - 1 < 2 ^ 64 := by omega
    by_cases asks : bond.isRolling = true ∧ bond.withdrawalRequestedAt = 0
    · obtain ⟨rolling, unrequested⟩ := asks
      have notice := noticed rolling
      rw [IdentityBond.requestTime, if_pos unrequested] at notice
      have requested : max now 1 ≠ 0 := (Nat.one_pos.trans_le (le_max_right _ _)).ne'
      obtain ⟨stored, accepted, ready⟩ := requestWithdrawal_whole whole
        (authorized_signedBy bond.identity self (max now 1)) rolling unrequested
      obtain ⟨after, done⟩ := withdraw_whole ready
        (authorized_signedBy bond.identity self (2 ^ 64 - 1)) last.2 (Nat.le_pred_of_lt ends)
        fun _ => ⟨requested, Nat.le_pred_of_lt notice⟩
      exact ⟨bond, _, _, after, whole.found, last.1, last.2,
        .requesting (le_max_left _ _) (by omega) accepted, done⟩
    · have noticed (rolling : bond.isRolling = true) : bond.Noticed (2 ^ 64 - 1) := by
        have requested : bond.withdrawalRequestedAt ≠ 0 := fun none => asks ⟨rolling, none⟩
        have notice := noticed rolling
        rw [IdentityBond.requestTime, if_neg requested] at notice
        exact ⟨requested, Nat.le_pred_of_lt notice⟩
      obtain ⟨after, done⟩ := withdraw_whole whole
        (authorized_signedBy bond.identity self (2 ^ 64 - 1)) last.2 (Nat.le_pred_of_lt ends)
        noticed
      exact ⟨bond, _, _, after, whole.found, last.1, last.2, .already, done⟩

end Leaving

section Life

variable {Ledger : Type}

/-- The calls of an owner that set the terms of the bond. -/
def Call.setsTermsOf (identity : Address) : Call → Prop
  | .extendDuration owner _ | .renewIfRolling owner | .requestWithdrawal owner =>
      owner = identity
  | _ => False

/-- The owner extends or renews the bond, or requests a withdrawal. -/
structure OwnerCall (identity : Address) (event : Event (State Ledger) Label) : Prop where
  clock : event.label.env.timestamp < 2 ^ 64
  called : ∃ call, event.label.act = .call call ∧ call.setsTermsOf identity

/-- Where a rolling bond still waits for its request, the notice period from now on does
not overflow, nor does the duration from now on if the bond is renewed. -/
def StaysOpen (event : Event (State Ledger) Label) : Prop :=
  ∀ bond, event.before.storage.bond = some bond → bond.isRolling = true →
    bond.withdrawalRequestedAt = 0 →
      max event.label.env.timestamp 1 + bond.noticePeriodDuration < 2 ^ 64 ∧
        ∀ owner, event.label.act = .call (.renewIfRolling owner) →
          bond.Renews event.label.env.timestamp →
            event.label.env.timestamp + bond.bondDuration < 2 ^ 64

variable {ext : Externals Ledger} {self : Address} {env : Env} {now past : Nat}
variable {before after : State Ledger} {bond later : IdentityBond} {call : Call}

/-- A request that was made does not expire: only the time of a request to come is left
to check. -/
theorem open_iff_of_ends (ends : bond.bondStart + bond.bondDuration < 2 ^ 64)
    (pending : bond.isRolling = true → bond.withdrawalRequestedAt ≠ 0 →
      bond.withdrawalRequestedAt + bond.noticePeriodDuration < 2 ^ 64) :
    bond.Open now ↔ (bond.isRolling = true → bond.withdrawalRequestedAt = 0 →
      max now 1 + bond.noticePeriodDuration < 2 ^ 64) := by
  constructor
  · rintro ⟨-, noticed⟩ rolling unrequested
    have notice := noticed rolling
    rwa [IdentityBond.requestTime, if_pos unrequested] at notice
  · intro waiting
    refine ⟨ends, fun rolling => ?_⟩
    unfold IdentityBond.requestTime
    split
    · rename_i unrequested
      exact waiting rolling unrequested
    · rename_i requested
      exact pending rolling requested

theorem IdentityBond.Open.pending (opened : bond.Open past) (rolling : bond.isRolling = true)
    (requested : bond.withdrawalRequestedAt ≠ 0) :
    bond.withdrawalRequestedAt + bond.noticePeriodDuration < 2 ^ 64 := by
  have notice := opened.noticed rolling
  rwa [IdentityBond.requestTime, if_neg requested] at notice

theorem staysOpen_iff (found : before.storage.bond = some bond) :
    StaysOpen ⟨before, ⟨env, .call call⟩, after⟩ ↔
      (bond.isRolling = true → bond.withdrawalRequestedAt = 0 →
        max env.timestamp 1 + bond.noticePeriodDuration < 2 ^ 64 ∧
          ∀ owner, Act.call call = .call (.renewIfRolling owner) → bond.Renews env.timestamp →
            env.timestamp + bond.bondDuration < 2 ^ 64) := by
  constructor
  · exact fun stays => stays bond found
  · intro stays other stored
    obtain rfl := Option.some.inj (found.symm.trans stored)
    exact stays

/-- An extension keeps the end within range. -/
theorem extendDuration_open {additionalDuration : Nat} {stored : Storage}
    (whole : Whole before bond) (opened : bond.Open past)
    (done : extendDuration env before.storage bond.identity additionalDuration = .ok stored) :
    ∃ later, Whole (before.store stored) later ∧ later.identity = bond.identity ∧
      (later.Open env.timestamp ↔ StaysOpen ⟨before,
        ⟨env, .call (.extendDuration bond.identity additionalDuration)⟩, before.store stored⟩) := by
  obtain ⟨found, unslashed, nonneg, bounded, counted⟩ := whole
  have fits := extendDuration_end found done
  obtain ⟨other, held, -, -, rfl⟩ := extendDuration_ok done
  obtain rfl := Option.some.inj (found.symm.trans held)
  refine ⟨_, ⟨rfl, unslashed, nonneg, bounded, counted⟩, rfl, ?_⟩
  have extended : ({ bond with bondDuration := bond.bondDuration + additionalDuration } :
      IdentityBond).Open env.timestamp ↔ (bond.isRolling = true →
        bond.withdrawalRequestedAt = 0 →
          max env.timestamp 1 + bond.noticePeriodDuration < 2 ^ 64) :=
    open_iff_of_ends fits opened.pending
  rw [extended, staysOpen_iff found]
  simp

theorem requestWithdrawal_open {stored : Storage}
    (whole : Whole before bond) (opened : bond.Open past)
    (done : requestWithdrawal env before.storage bond.identity = .ok stored) :
    ∃ later, Whole (before.store stored) later ∧ later.identity = bond.identity ∧
      (later.Open env.timestamp ↔ StaysOpen ⟨before,
        ⟨env, .call (.requestWithdrawal bond.identity)⟩, before.store stored⟩) := by
  obtain ⟨found, unslashed, nonneg, bounded, counted⟩ := whole
  obtain ⟨-, other, held, -, rolling, unrequested, rfl, -⟩ := requestWithdrawal_eq_ok.mp done
  obtain rfl := Option.some.inj (found.symm.trans held)
  refine ⟨_, ⟨rfl, unslashed, nonneg, bounded, counted⟩, rfl, ?_⟩
  -- a request at time zero is not seen as one, and the next can be made at time one
  have requested : ({ bond with withdrawalRequestedAt := env.timestamp } :
      IdentityBond).requestTime env.timestamp = max env.timestamp 1 := by
    unfold IdentityBond.requestTime
    simp only
    split <;> omega
  rw [staysOpen_iff found]
  constructor
  · rintro ⟨-, noticed⟩ - -
    have notice := noticed rolling
    rw [requested] at notice
    exact ⟨notice, by simp⟩
  · intro stays
    refine ⟨opened.ends, fun _ => ?_⟩
    rw [requested]
    exact (stays rolling unrequested).1

theorem renewIfRolling_open {stored : Storage}
    (whole : Whole before bond) (opened : bond.Open past)
    (done : renewIfRolling env before.storage bond.identity = .ok stored) :
    ∃ later, Whole (before.store stored) later ∧ later.identity = bond.identity ∧
      (later.Open env.timestamp ↔ StaysOpen ⟨before,
        ⟨env, .call (.renewIfRolling bond.identity)⟩, before.store stored⟩) := by
  obtain ⟨other, held, ⟨early, rfl⟩ | ⟨renews, written⟩⟩ := renewIfRolling_cases done
  · obtain rfl := Option.some.inj (whole.found.symm.trans held)
    refine ⟨bond, whole, rfl, ?_⟩
    rw [open_iff_of_ends opened.ends opened.pending, staysOpen_iff whole.found]
    simp [early]
  · obtain ⟨found, unslashed, nonneg, bounded, counted⟩ := whole
    obtain rfl := Option.some.inj (found.symm.trans held)
    have kept : Counted (before.store stored) bond.identity := by
      rcases renewIfRolling_ok done with rfl | ⟨_, -, -, -, frame⟩
      · exact counted
      · unfold State.store Counted
        rw [frame]
        exact counted
    obtain ⟨rolling, unrequested, -⟩ := id renews
    refine ⟨_, ⟨written, unslashed, nonneg, bounded, kept⟩, rfl, ?_⟩
    rw [staysOpen_iff found]
    constructor
    · rintro ⟨ends, noticed⟩ - -
      exact ⟨noticed rolling, fun _ _ _ => ends⟩
    · intro stays
      obtain ⟨notice, ends⟩ := stays rolling unrequested
      exact ⟨ends _ rfl renews, fun _ => notice⟩

/-- A call of the owner leaves the bond whole, and open exactly under the condition. -/
theorem ownerCall_open (whole : Whole before bond) (opened : bond.Open past)
    (sets : call.setsTermsOf bond.identity) (done : invoke ext env before call = .ok after) :
    ∃ later, Whole after later ∧ later.identity = bond.identity ∧
      (later.Open env.timestamp ↔ StaysOpen ⟨before, ⟨env, .call call⟩, after⟩) := by
  cases call with
  | extendDuration owner additionalDuration =>
      obtain rfl : owner = bond.identity := sets
      obtain ⟨stored, lengthened, rfl⟩ := storing_eq_ok.mp done
      exact extendDuration_open whole opened lengthened
  | renewIfRolling owner =>
      obtain rfl : owner = bond.identity := sets
      obtain ⟨stored, renewed, rfl⟩ := storing_eq_ok.mp done
      exact renewIfRolling_open whole opened renewed
  | requestWithdrawal owner =>
      obtain rfl : owner = bond.identity := sets
      obtain ⟨stored, requested, rfl⟩ := storing_eq_ok.mp done
      exact requestWithdrawal_open whole opened requested
  | _ => exact sets.elim

/-- A created bond is whole, and open unless its notice period overflows at once. -/
theorem createBond_open {start created : State Ledger} {identity : Address} {amount : Int}
    {duration noticePeriodDuration : Nat} {isRolling : Bool}
    (done : createBond ext env start identity amount duration isRolling noticePeriodDuration =
      .ok created) :
    ∃ bond, Whole created bond ∧ bond.identity = identity ∧
      (bond.Open env.timestamp ↔ (isRolling = true →
        max env.timestamp 1 + noticePeriodDuration < 2 ^ 64)) := by
  have ends := createBond_end done
  have consistent : assertSelfConsistent created.storage = .ok () := by
    simp only [createBond, Outcome.bind_eq_ok, Outcome.pure_eq_ok] at done
    obtain ⟨_, -, _, -, _, -, _, -, _, -, _, consistent, rfl⟩ := done
    exact consistent
  obtain ⟨-, low, high, -, stored⟩ := createBond_ok done
  have found := congrArg Storage.bond stored
  have positive : 0 ≤ minBondAmount := by decide
  refine ⟨_, ⟨found, rfl, positive.trans low, high, ?_⟩, rfl, ?_⟩
  · exact ((assertSelfConsistent_iff found).mp consistent).2
  · refine (open_iff_of_ends ends fun _ requested => absurd rfl requested).trans ?_
    simp

/-- The time of the last event of a history, or of its start. -/
def lastTime (startTime : Nat) (trace : List (Event (State Ledger) Label)) : Nat :=
  (trace.getLast?.map fun event => event.label.env.timestamp).getD startTime

theorem lastTime_snoc {startTime : Nat} {trace : List (Event (State Ledger) Label)}
    {event : Event (State Ledger) Label} :
    lastTime startTime (trace ++ [event]) = event.label.env.timestamp := by
  simp [lastTime]

/-- From the creation of a bond on, through all extensions, renewals and requests of its
owner, all that is bonded can be withdrawn at some time that is left if and only if the
notice period overflows neither at the creation nor at any later call that finds the
withdrawal not requested yet, and no renewal starts a period whose end overflows. -/
theorem bond_can_be_left_iff {start created final : State Ledger} {identity : Address}
    {amount : Int} {duration noticePeriodDuration : Nat} {isRolling : Bool}
    (done : createBond ext env start identity amount duration isRolling noticePeriodDuration =
      .ok created)
    {trace : List (Event (State Ledger) Label)} (run : Run (Step ext self) created trace final)
    (owned : ∀ event ∈ trace, OwnerCall identity event) :
    (CanLeave self env.timestamp created ∧
        ∀ event ∈ trace, CanLeave self event.label.env.timestamp event.after) ↔
      (isRolling = true → max env.timestamp 1 + noticePeriodDuration < 2 ^ 64) ∧
        ∀ event ∈ trace, StaysOpen event := by
  obtain ⟨bond, whole, identified, opened⟩ := createBond_open done
  have clock : env.timestamp < 2 ^ 64 := (Nat.le_add_right _ _).trans_lt (createBond_end done)
  have atFirst : CanLeave self env.timestamp created ↔
      (isRolling = true → max env.timestamp 1 + noticePeriodDuration < 2 ^ 64) :=
    (canLeave_iff whole clock).trans opened
  rw [atFirst]
  refine and_congr_right fun admitted => ?_
  have owner := (run.restrict (OwnerCall identity) (fun _ => True) owned trivial
    fun _ _ _ _ => trivial).1
  -- what an owner's call does to a whole bond that can be left
  have called (event : Event (State Ledger) Label) (past : Nat)
      (sound : ∃ bond, Whole event.before bond ∧ bond.identity = identity)
      (leaves : CanLeave self past event.before)
      (stepped : Step ext self event.before event.label event.after)
      (calls : OwnerCall identity event) :
      (∃ later, Whole event.after later ∧ later.identity = identity) ∧
        (CanLeave self event.label.env.timestamp event.after ↔ StaysOpen event) := by
    obtain ⟨bond, whole, rfl⟩ := sound
    obtain ⟨_, time, _, _, -, late, within, -⟩ := id leaves
    have opened := (canLeave_iff whole (late.trans_lt within)).mp leaves
    obtain ⟨clock, call, acted, sets⟩ := calls
    have done := (stepped.called acted).2
    obtain ⟨before, ⟨env, act⟩, after⟩ := event
    obtain rfl : act = .call call := acted
    obtain ⟨later, kept, same, stays⟩ := ownerCall_open whole opened sets done
    exact ⟨⟨later, kept, same⟩, (canLeave_iff kept clock).trans stays⟩
  have along := owner.forall_history_iff_at
    (fun trace state => CanLeave self (lastTime env.timestamp trace) state)
    (fun _ state => ∃ bond, Whole state bond ∧ bond.identity = identity)
    (fun _ => StaysOpen) (atFirst.mpr admitted) ⟨bond, whole, identified⟩
    (fun _ event sound leaves stepped =>
      (called event _ sound leaves stepped.1 stepped.2.1).1)
    (fun trace event sound leaves stepped => by
      simp only [lastTime_snoc]
      exact (called event _ sound leaves stepped.1 stepped.2.1).2)
  simp only [lastTime_snoc] at along
  exact forall_mem_iff_at.trans (along.trans forall_mem_iff_at.symm)

end Life

section Sample

/-- A user bonds two tokens for a minute at a time. -/
def rollingBond (noticePeriodDuration : Nat) : Outcome (State ReferenceLedger) :=
  createBond Externals.reference (.signedBy ⟨5⟩ ⟨0⟩ 0) bondSample ⟨5⟩ 2000000000000000000 60
    true noticePeriodDuration

/-- The owner extends the bond, renews it once and requests the withdrawal. -/
def ownerCalls : List Label :=
  [⟨.signedBy ⟨5⟩ ⟨0⟩ 10, .call (.extendDuration ⟨5⟩ 40)⟩,
    ⟨.signedBy ⟨5⟩ ⟨0⟩ 200, .call (.renewIfRolling ⟨5⟩)⟩,
    ⟨.signedBy ⟨5⟩ ⟨0⟩ 250, .call (.requestWithdrawal ⟨5⟩)⟩]

/-- With a notice period of ten seconds the bond can be left all the time. -/
theorem bond_can_be_left_sample :
    ∃ created trace final, rollingBond 10 = .ok created ∧
      Run (Step Externals.reference ⟨0⟩) created trace final ∧ trace.length = 3 ∧
        ∀ event ∈ trace, CanLeave ⟨0⟩ event.label.env.timestamp event.after := by
  let created := bondSample.follow Externals.reference (.signedBy ⟨5⟩ ⟨0⟩ 0)
    (.createBond ⟨5⟩ 2000000000000000000 60 true 10)
  have done : rollingBond 10 = .ok created := by
    have stepped : Step Externals.reference ⟨0⟩ bondSample _ created :=
      .follow (.signedBy ⟨5⟩ ⟨0⟩ 0) (.createBond ⟨5⟩ 2000000000000000000 60 true 10) rfl
        (by decide +kernel)
    cases stepped with
    | call _ done => exact done
  have run : Run (Step Externals.reference ⟨0⟩) created
      (record (next Externals.reference ⟨0⟩) created ownerCalls)
      (ownerCalls.foldl (advance (next Externals.reference ⟨0⟩)) created) :=
    run_of_record step_of_next (by decide +kernel)
  refine ⟨created, _, _, done, run, rfl,
    ((bond_can_be_left_iff done run ?_).mpr ⟨by decide, ?_⟩).2⟩
  · simp only [record, ownerCalls, List.forall_mem_cons]
    refine ⟨⟨by decide, _, rfl, rfl⟩, ⟨by decide, _, rfl, rfl⟩, ⟨by decide, _, rfl, rfl⟩, ?_⟩
    simp
  · simp only [record, ownerCalls, List.forall_mem_cons]
    refine ⟨?_, ?_, ?_, by simp⟩
    · rintro bond found - -
      cases found
      exact ⟨by decide, fun _ _ _ => by decide⟩
    · rintro bond found - -
      cases found
      exact ⟨by decide, fun _ _ _ => by decide⟩
    · rintro bond found - -
      cases found
      exact ⟨by decide, fun _ _ _ => by decide⟩

/-- With a notice period as long as a timestamp can tell, a bond can be created that can
never be left. -/
theorem endless_notice_locks :
    ∃ created, rollingBond (2 ^ 64 - 1) = .ok created ∧ ∀ now, ¬CanLeave ⟨0⟩ now created := by
  have succeeds : (rollingBond (2 ^ 64 - 1)).isOk = true := by
    decide +kernel
  obtain ⟨created, done⟩ := Outcome.exists_of_isOk succeeds
  refine ⟨created, done, fun now leaves => ?_⟩
  obtain ⟨bond, whole, -, -⟩ := createBond_open done
  obtain ⟨-, -, -, -, stored⟩ := createBond_ok done
  obtain rfl := Option.some.inj (whole.found.symm.trans (congrArg Storage.bond stored))
  obtain ⟨_, time, _, _, -, late, within, -⟩ := id leaves
  have notice := ((canLeave_iff whole (late.trans_lt within)).mp leaves).noticed rfl
  simp only [IdentityBond.requestTime, if_true] at notice
  omega

end Sample

end CredenceBond
