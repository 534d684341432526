import CredenceContracts.Bond.Change

/-!
# The lock-up and the notice period

An exit without a penalty is to wait for the end of the lock-up, or for the notice
period of a rolling bond.  The time of the request is written by the request alone,
so what is stored can be traced back to it.  Closing a bond waits for the notice
of a rolling bond and does not look at the lock-up of another.
-/

namespace CredenceBond

open Soroban Transition

/-- The exits that take no penalty. -/
def Act.exitsFreely : Act → Bool
  | .call (.withdraw ..) | .call (.withdrawBond _) => true
  | _ => false

def Act.creates : Act → Bool
  | .call (.createBond ..) => true
  | _ => false

section History

variable {Ledger : Type}

/-- At that time the owner requested a withdrawal, from the bond that is still the
stored one. -/
def Requested (trace : List (Event (State Ledger) Label)) (owner : Address) (time : Nat) :
    Prop :=
  ∃ earlier request later, trace = earlier ++ request :: later ∧
    request.label.act = .call (.requestWithdrawal owner) ∧
      request.label.env.authorized owner = true ∧ request.label.env.timestamp = time ∧
        ∀ event ∈ later, event.label.act.creates = false

/-- The stored time of a request is the time of a request of the owner. -/
def Traced (trace : List (Event (State Ledger) Label)) (storage : Storage) : Prop :=
  ∀ bond, storage.bond = some bond → bond.withdrawalRequestedAt ≠ 0 →
    Requested trace bond.identity bond.withdrawalRequestedAt

/-- A free exit that lowers the stake comes after the lock-up, or after the notice
that a request in the history gave. -/
def LockupRespected (trace : List (Event (State Ledger) Label))
    (event : Event (State Ledger) Label) : Prop :=
  ∀ bond, event.before.storage.bond = some bond → event.label.act.exitsFreely = true →
    event.after.storage.stake < event.before.storage.stake →
      (bond.isRolling = false →
        bond.bondStart + bond.bondDuration ≤ event.label.env.timestamp) ∧
      (bond.isRolling = true → ∃ time, time ≠ 0 ∧ Requested trace bond.identity time ∧
        time + bond.noticePeriodDuration ≤ event.label.env.timestamp)

/-- The label does not close a bond with a stake during its lock-up. -/
def Label.InTime (label : Label) (storage : Storage) : Prop :=
  match label.act with
  | .call (.withdrawBond _) => ∀ bond, storage.bond = some bond → bond.isRolling = false →
      0 < bond.stake → bond.bondStart + bond.bondDuration ≤ label.env.timestamp
  | _ => True

variable {ext : Externals Ledger} {self : Address} {env : Env} {call : Call}
variable {start before after final : State Ledger} {storage stored : Storage}
variable {trace : List (Event (State Ledger) Label)} {event : Event (State Ledger) Label}

theorem Requested.snoc {owner : Address} {time : Nat} (requested : Requested trace owner time)
    (kept : event.label.act.creates = false) : Requested (trace ++ [event]) owner time := by
  obtain ⟨earlier, request, later, rfl, asked, authorized, timed, still⟩ := requested
  refine ⟨earlier, request, later ++ [event], by simp, asked, authorized, timed, ?_⟩
  simp only [List.forall_mem_append, List.forall_mem_singleton]
  exact ⟨still, kept⟩

theorem Traced.same (traced : Traced trace storage) (same : stored.bond = storage.bond)
    (kept : event.label.act.creates = false) : Traced (trace ++ [event]) stored :=
  fun bond found requested => (traced bond (same ▸ found) requested).snoc kept

/-- A bond that is written with the same owner and request stays traced. -/
theorem Traced.written {bond updated : IdentityBond} (traced : Traced trace storage)
    (found : storage.bond = some bond) (written : storage.Writes stored updated)
    (owner : updated.identity = bond.identity)
    (same : updated.withdrawalRequestedAt = bond.withdrawalRequestedAt)
    (kept : event.label.act.creates = false) : Traced (trace ++ [event]) stored := by
  intro other stands requested
  obtain rfl := written.unique stands
  rw [owner, same]
  exact (traced bond found (same ▸ requested)).snoc kept

/-- A bond that is written without a request has nothing to trace. -/
theorem Traced.unrequested {updated : IdentityBond} (written : storage.Writes stored updated)
    (none : updated.withdrawalRequestedAt = 0) : Traced trace stored := by
  intro other stands requested
  obtain rfl := written.unique stands
  exact absurd none requested

theorem creates_of_spares (spares : call.Spares) : Act.creates (.call call) = false := by
  rcases spares with admitted | admitted <;> cases call <;> trivial

theorem exitsFreely_of_spares (spares : call.Spares) :
    Act.exitsFreely (.call call) = false := by
  rcases spares with admitted | admitted <;> cases call <;> trivial

theorem Change.traced (change : Change ext env before after call)
    (traced : Traced trace before.storage) :
    Traced (trace ++ [⟨before, ⟨env, .call call⟩, after⟩]) after.storage := by
  cases change with
  | initialized _ _ same | transferred _ _ same => exact traced.same same rfl
  | administered administers _ same =>
      exact traced.same same.bond (creates_of_spares (.inl administers))
  | unrelated bystands same => exact traced.same same.bond (creates_of_spares (.inr bystands))
  | notRenewed same => exact traced.same same.bond rfl
  | created _ _ _ _ written | renewed _ _ written => exact .unrequested written rfl
  | requested found authorized written =>
      intro other stands _
      obtain rfl := written.unique stands
      exact ⟨trace, _, [], rfl, rfl, authorized, rfl, by simp⟩
  | toppedUp found _ _ _ _ written | withdrawn found _ _ _ _ _ written
  | leftEarly found _ _ written | closed found _ _ _ written | extended found _ written
  | liquidated found _ written | slashed found _ _ _ _ written
  | slashBonded found _ _ _ written => exact traced.written found written rfl rfl rfl

/-- A free exit respects the lock-up exactly when it is in time. -/
theorem change_respected_iff (change : Change ext env before after call)
    (traced : Traced trace before.storage) :
    LockupRespected trace ⟨before, ⟨env, .call call⟩, after⟩ ↔
      Label.InTime ⟨env, .call call⟩ before.storage := by
  have noticed {bond : IdentityBond} (found : before.storage.bond = some bond)
      (notice : bond.Noticed env.timestamp) : ∃ time, time ≠ 0 ∧
        Requested trace bond.identity time ∧ time + bond.noticePeriodDuration ≤ env.timestamp :=
    ⟨_, notice.1, traced bond found notice.1, notice.2⟩
  by_cases free : Act.exitsFreely (.call call) = true
  · cases change with
    | withdrawn found _ matured notice _ _ _ =>
        apply iff_of_true
        · intro bond stands _ _
          obtain rfl := Option.some.inj (found.symm.trans stands)
          exact ⟨fun _ => matured, fun rolling => noticed found (notice rolling)⟩
        · trivial
    | @closed bond found _ notice unslashed written =>
        have lowered : after.storage.stake < before.storage.stake ↔ 0 < bond.stake := by
          rw [Storage.stake_of_bond found, Storage.stake_of_bond written.bond]
          simp [IdentityBond.stake, unslashed]
        constructor
        · intro respected other stands fixed positive
          obtain rfl := Option.some.inj (found.symm.trans stands)
          exact (respected _ found rfl (lowered.mpr positive)).1 fixed
        · intro inTime other stands _ fell
          obtain rfl := Option.some.inj (found.symm.trans stands)
          exact ⟨fun fixed => inTime _ found fixed (lowered.mp fell),
            fun rolling => noticed found (notice rolling)⟩
    | administered administers _ _ => simp [exitsFreely_of_spares (.inl administers)] at free
    | unrelated bystands _ => simp [exitsFreely_of_spares (.inr bystands)] at free
    | _ => cases free
  · apply iff_of_true
    · intro bond _ leaves
      exact absurd leaves free
    · cases call <;> trivial

end History

section Runs

variable {Ledger : Type} {ext : Externals Ledger} {self : Address}
variable {start final : State Ledger} {trace : List (Event (State Ledger) Label)}

theorem Traced.of_run (guarded : ext.Guarded self) (unbonded : start.storage.bond = none)
    (run : Run (Step ext self) start trace final) : Traced trace final.storage := by
  apply run.history (motive := fun trace state => Traced trace state.storage)
  · intro bond found
    simp [unbonded] at found
  · rintro trace ⟨before, ⟨env, act⟩, after⟩ - traced stepped
    rcases step_change guarded stepped with ⟨call, rfl, -, change⟩ | ⟨rfl, same⟩
    · exact change.traced traced
    · exact traced.same same.bond rfl

/-- In every run, an exit without a penalty that lowers the stake respects the
lock-up and the notice period, if and only if it is no closing of a bond with a
stake before the end of its lock-up. -/
theorem lockup_respected_iff (guarded : ext.Guarded self)
    (unbonded : start.storage.bond = none) (run : Run (Step ext self) start trace final)
    {earlier rest : List (Event (State Ledger) Label)} {event : Event (State Ledger) Label}
    (position : trace = earlier ++ event :: rest) :
    LockupRespected earlier event ↔ event.label.InTime event.before.storage := by
  obtain ⟨reached, stepped, -⟩ := run.split position
  have traced := Traced.of_run guarded unbonded reached
  obtain ⟨before, ⟨env, act⟩, after⟩ := event
  rcases step_change guarded stepped with ⟨call, rfl, -, change⟩ | ⟨rfl, -⟩
  · exact change_respected_iff change traced
  · apply iff_of_true
    · intro bond _ leaves
      cases leaves
    · trivial

end Runs

section Sample

/-- A user deposits for sixty seconds and closes the bond in the first ten. -/
def hastyClosing : List Label :=
  [ ⟨.signedBy ⟨5⟩ ⟨0⟩ 0, .call (.createBond ⟨5⟩ 1000000000000000000 60 false 0)⟩,
    ⟨.signedBy ⟨5⟩ ⟨0⟩ 10, .call (.withdrawBond ⟨5⟩)⟩ ]

def hastyTrace : List (Event (State ReferenceLedger) Label) :=
  record (next Externals.reference ⟨0⟩) bondSample hastyClosing

theorem hastyTrace_run :
    Run (Step Externals.reference ⟨0⟩) bondSample hastyTrace
      (hastyClosing.foldl (advance (next Externals.reference ⟨0⟩)) bondSample) :=
  run_of_record step_of_next (by decide +kernel)

/-- The bond is closed without a penalty during its lock-up. -/
theorem bond_closed_during_lockup :
    ∃ trace final earlier event, Run (Step Externals.reference ⟨0⟩) bondSample trace final ∧
      trace = earlier ++ [event] ∧ event.label.act = .call (.withdrawBond ⟨5⟩) ∧
        ¬LockupRespected earlier event := by
  refine ⟨_, _, [hastyTrace.get ⟨0, by decide⟩], hastyTrace.get ⟨1, by decide⟩, hastyTrace_run,
    rfl, rfl, fun respected => ?_⟩
  have late := (respected
    { identity := ⟨5⟩
      bondedAmount := 1000000000000000000
      bondStart := 0
      bondDuration := 60
      slashedAmount := 0
      active := true
      isRolling := false
      withdrawalRequestedAt := 0
      noticePeriodDuration := 0 }
    (by decide +kernel) rfl (by decide +kernel)).1 rfl
  exact absurd late (by decide)

/-- A rolling bond is left after its request and its notice period. -/
def patientExit : List Label :=
  [ ⟨.signedBy ⟨5⟩ ⟨0⟩ 0, .call (.createBond ⟨5⟩ 2000000000000000000 60 true 30)⟩,
    ⟨.signedBy ⟨5⟩ ⟨0⟩ 50, .call (.requestWithdrawal ⟨5⟩)⟩,
    ⟨.signedBy ⟨5⟩ ⟨0⟩ 80, .call (.withdraw ⟨5⟩ 1000000000000000000)⟩ ]

def patientTrace : List (Event (State ReferenceLedger) Label) :=
  record (next Externals.reference ⟨0⟩) bondSample patientExit

theorem lockup_respected_sample :
    ∃ trace final earlier event, Run (Step Externals.reference ⟨0⟩) bondSample trace final ∧
      trace = earlier ++ [event] ∧ event.after.storage.stake < event.before.storage.stake ∧
        event.label.act = .call (.withdraw ⟨5⟩ 1000000000000000000) ∧
          LockupRespected earlier event := by
  have run : Run (Step Externals.reference ⟨0⟩) bondSample patientTrace
      (patientExit.foldl (advance (next Externals.reference ⟨0⟩)) bondSample) :=
    run_of_record step_of_next (by decide +kernel)
  have position : patientTrace =
      [patientTrace.get ⟨0, by decide⟩, patientTrace.get ⟨1, by decide⟩] ++
        [patientTrace.get ⟨2, by decide⟩] := rfl
  exact ⟨_, _, _, _, run, position, by decide +kernel, rfl,
    (lockup_respected_iff (guarded_reference ⟨0⟩) rfl run position).mpr trivial⟩

end Sample

end CredenceBond
