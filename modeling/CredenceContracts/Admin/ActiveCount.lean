import CredenceContracts.Admin.Integrity

/-!
# The count of active admins

Three reads say who is an active admin.  Two of them look at the flag of the entry
and at its suspension, the count of active admins at the flag alone.
-/

namespace Admin

open Soroban Transition Roster

variable {strkey : Address → String}

/-- What the contract says of an address. -/
inductive Role where
  | admin
  | user
  deriving DecidableEq, Repr

section Reads

variable (env : Env) (storage : Storage)

def isAdmin (address : Address) : Role :=
  match storage.adminInfo address with
  | some adminInfo =>
      if adminInfo.active = true ∧ env.timestamp ≥ adminInfo.suspendedUntil then .admin else .user
  | none => .user

/-- The entry of an address is there and marked active. -/
def Storage.flagged (address : Address) : Bool :=
  (storage.adminInfo address).any (·.active)

/-- The flag of the entry is all that is looked at. -/
def getActiveAdminCount : Nat :=
  storage.adminList.countP storage.flagged

end Reads

/-- The address has an entry that is active and not suspended at this time. -/
def Storage.effectiveAt (storage : Storage) (now : Nat) (address : Address) : Bool :=
  (storage.adminInfo address).any (·.effective now)

/-- The count is the number of those that the two other reads call active admins. -/
def CountsEffective (env : Env) (storage : Storage) : Prop :=
  (getActiveAdminCount storage : ℕ∞) =
      {address | isAdmin env storage address = .admin}.encard ∧
    (getActiveAdminCount storage : ℕ∞) =
      {address | hasRoleAtLeast env storage address .operator = true}.encard

/-- No admin that is marked active is suspended at this time. -/
def NoneSuspended (storage : Storage) (now : Nat) : Prop :=
  ∀ address adminInfo, storage.adminInfo address = some adminInfo → adminInfo.active = true →
    adminInfo.suspendedUntil ≤ now

section Readings

variable {env : Env} {storage : Storage} {address : Address} {now : Nat}

theorem isAdmin_eq_admin :
    isAdmin env storage address = .admin ↔ storage.effectiveAt env.timestamp address = true := by
  unfold isAdmin Storage.effectiveAt
  cases storage.adminInfo address <;> simp [AdminInfo.effective]

/-- Every role is at least the lowest. -/
theorem hasRoleAtLeast_operator :
    hasRoleAtLeast env storage address .operator = storage.effectiveAt env.timestamp address := by
  have lowest : ∀ role : AdminRole, role ≥ .operator := by
    intro role
    cases role <;> decide
  simp [hasRoleAtLeast, Storage.effectiveAt, lowest]

theorem flagged_of_effectiveAt (effective : storage.effectiveAt now address = true) :
    storage.flagged address = true := by
  obtain ⟨adminInfo, stored, acting⟩ := (Option.any_eq_true _ _).mp effective
  simp only [AdminInfo.effective, Bool.and_eq_true] at acting
  exact (Option.any_eq_true _ _).mpr ⟨adminInfo, stored, acting.1⟩

theorem mem_admins_of_flagged (active : storage.flagged address = true) :
    address ∈ admins storage := by
  obtain ⟨adminInfo, stored, -⟩ := (Option.any_eq_true _ _).mp active
  simp [admins, stored]

/-- Where nobody is suspended, the flag tells the same as the two other reads. -/
theorem noneSuspended_iff :
    NoneSuspended storage now ↔ ∀ address, storage.flagged address = true →
      storage.effectiveAt now address = true := by
  constructor
  · intro free address active
    obtain ⟨adminInfo, stored, flag⟩ := (Option.any_eq_true _ _).mp active
    have served := free address adminInfo stored flag
    have acting : adminInfo.effective now = true := by simp [AdminInfo.effective, flag, served]
    exact (Option.any_eq_true _ _).mpr ⟨adminInfo, stored, acting⟩
  · intro implies address adminInfo stored flag
    have effective := implies address (by simp [Storage.flagged, stored, flag])
    simp only [Storage.effectiveAt, stored, Option.any_some, AdminInfo.effective, flag,
      Bool.true_and, decide_eq_true_eq] at effective
    exact effective

/-- Of a list that names the stored admins, the count is right exactly where nobody is
suspended. -/
theorem countsEffective_iff (listed : Lists storage.adminList (admins storage)) :
    CountsEffective env storage ↔ NoneSuspended storage env.timestamp := by
  have effective : {address | storage.effectiveAt env.timestamp address = true}.encard =
      storage.adminList.countP (storage.effectiveAt env.timestamp) :=
    listed.encard_test fun address acting =>
      mem_admins_of_flagged (flagged_of_effectiveAt acting)
  have counted : CountsEffective env storage ↔
      storage.adminList.countP storage.flagged =
        storage.adminList.countP (storage.effectiveAt env.timestamp) := by
    simp only [CountsEffective, isAdmin_eq_admin, hasRoleAtLeast_operator, and_self, effective,
      getActiveAdminCount, Nat.cast_inj]
  rw [counted, countP_eq_countP_iff fun address => flagged_of_effectiveAt, noneSuspended_iff]
  constructor
  · intro entries address active
    exact entries address ((listed.mem_iff address).mpr (mem_admins_of_flagged active)) active
  · exact fun implies address _ => implies address

end Readings

/-- In every reachable state and at every time, the count of active admins is the number
of the effective ones exactly where no active admin is suspended. -/
theorem active_count_iff {trace : List (Event Storage Label)} {final : Storage}
    (run : Run (Step strkey) .deployed trace final) (env : Env) :
    CountsEffective env final ↔ NoneSuspended final env.timestamp :=
  countsEffective_iff (Agreement.of_run run).listed

section Sample

/-- An operator is suspended until 1000. -/
def suspension : List Label :=
  [ ⟨.signedByAll ⟨0⟩ 10, .initializeAdmin ⟨1⟩ 1 10⟩,
    ⟨.signedByAll ⟨0⟩ 10, .addAdmin ⟨1⟩ ⟨2⟩ .operator⟩,
    ⟨.signedByAll ⟨0⟩ 20, .suspendAdmin ⟨1⟩ ⟨2⟩ 1000⟩ ]

def suspended : Storage :=
  suspension.foldl (advance (next sampleStrkey)) .deployed

theorem suspended_run :
    Run (Step sampleStrkey) .deployed (record (next sampleStrkey) .deployed suspension)
      suspended :=
  run_of_record step_of_next (by decide +kernel)

/-- The suspension decides whether the two admins are the effective ones. -/
theorem active_count_iff_sample :
    (CountsEffective (.signedByAll ⟨0⟩ 1000) suspended ↔ NoneSuspended suspended 1000) ∧
      getActiveAdminCount suspended = 2 :=
  ⟨active_count_iff suspended_run _, by decide +kernel⟩

/-- While it lasts, the suspended operator is counted, which the other reads deny. -/
theorem suspended_admin_counted :
    ¬∀ strkey trace final, Run (Step strkey) .deployed trace final →
      ∀ env, CountsEffective env final := by
  intro always
  have counted := always _ _ _ suspended_run (.signedByAll ⟨0⟩ 50)
  have free := (countsEffective_iff (Agreement.of_run suspended_run).listed).mp counted
  have stored : suspended.adminInfo ⟨2⟩ = some
      { address := ⟨2⟩, role := .operator, assignedAt := 10, assignedBy := ⟨1⟩, active := true,
        suspendedUntil := 1000 } := by decide +kernel
  exact absurd (free ⟨2⟩ _ stored rfl) (by decide)

end Sample

end Admin
