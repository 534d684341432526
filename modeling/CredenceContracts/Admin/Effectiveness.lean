import CredenceContracts.Admin.Hierarchy

/-!
# What ineffective admins can still do

An admin that is deactivated or suspended is to be treated as no admin.  The
check that reads activity and suspension guards two operations only, the
addition of an admin and the update of a role; all others read the stored role
and nothing else.
-/

namespace Admin

open Soroban Transition

/-- The admin is deactivated, or suspended at this time. -/
def Ineffective (storage : Storage) (now : Nat) (address : Address) : Prop :=
  ∃ adminInfo, storage.adminInfo address = some adminInfo ∧
    (adminInfo.active = false ∨ now < adminInfo.suspendedUntil)

instance (storage : Storage) (now : Nat) (address : Address) :
    Decidable (Ineffective storage now address) :=
  decidable_of_iff
    ((storage.adminInfo address).any (fun adminInfo => !adminInfo.effective now) = true) (by
      simp only [Ineffective, Option.any_eq_true, AdminInfo.effective, Bool.not_and,
        Bool.or_eq_true, Bool.not_eq_true', decide_eq_false_iff_not, not_le])

/-- The operations of an admin's office. -/
inductive Operation where
  | addAdmin
  | removeAdmin
  | updateAdminRole
  | deactivateAdmin
  | reactivateAdmin
  | suspendAdmin
  | transferOwnership
  | pause
  | unpause
  | setPauseSigner
  | setPauseThreshold
  deriving DecidableEq, Repr

/-- The operation that a call is, if it is one of an admin's office. -/
def Call.operation : Call → Option Operation
  | .addAdmin _ _ _ => some .addAdmin
  | .removeAdmin _ _ => some .removeAdmin
  | .updateAdminRole _ _ _ => some .updateAdminRole
  | .deactivateAdmin _ _ => some .deactivateAdmin
  | .reactivateAdmin _ _ => some .reactivateAdmin
  | .suspendAdmin _ _ _ => some .suspendAdmin
  | .transferOwnership _ _ => some .transferOwnership
  | .pausable (.pause _) => some .pause
  | .pausable (.unpause _) => some .unpause
  | .pausable (.setPauseSigner _ _ _) => some .setPauseSigner
  | .pausable (.setPauseThreshold _ _) => some .setPauseThreshold
  | .initializeAdmin _ _ _ | .acceptOwnership _ => none
  | .pausable (.approvePauseProposal _ _) | .pausable (.executePauseProposal _) => none

/-- The operation was called, on its own authorization, by an ineffective admin. -/
def DefiedBy (event : Event Storage Label) (operation : Operation) (caller : Address) : Prop :=
  event.label.call.operation = some operation ∧ event.label.call.caller = some caller ∧
    event.label.env.authorized caller = true ∧
      Ineffective event.before event.label.env.timestamp caller

instance (event : Event Storage Label) (operation : Operation) (caller : Address) :
    Decidable (DefiedBy event operation caller) := by
  unfold DefiedBy
  infer_instance

/-- In no run does an ineffective admin call the operation with success. -/
def Powerless (operation : Operation) : Prop :=
  ∀ (strkey : Address → String) (trace : List (Event Storage Label)) (final : Storage),
    Run (Step strkey) .deployed trace final →
      ∀ event ∈ trace, ∀ caller, ¬DefiedBy event operation caller

/-- Who passes the check of a role is effective at that time. -/
theorem not_ineffective_of_hasRoleAtLeast {env : Env} {storage : Storage} {caller : Address}
    {role : AdminRole} (ranked : hasRoleAtLeast env storage caller role = true) :
    ¬Ineffective storage env.timestamp caller := by
  rintro ⟨adminInfo, stored, idle⟩
  obtain ⟨found, known, effective, -⟩ := hasRoleAtLeast_info ranked
  obtain rfl := Option.some.inj (stored.symm.trans known)
  simp only [AdminInfo.effective, Bool.and_eq_true, decide_eq_true_eq] at effective
  rcases idle with inactive | suspended
  · simp [effective.1] at inactive
  · exact absurd suspended (not_lt.mpr effective.2)

theorem Call.operation_eq_addAdmin {call : Call} (operated : call.operation = some .addAdmin) :
    ∃ caller newAdmin role, call = .addAdmin caller newAdmin role := by
  cases call with
  | addAdmin caller newAdmin role => exact ⟨caller, newAdmin, role, rfl⟩
  | pausable call => cases call <;> simp [Call.operation] at operated
  | _ => simp [Call.operation] at operated

theorem Call.operation_eq_updateAdminRole {call : Call}
    (operated : call.operation = some .updateAdminRole) :
    ∃ caller adminAddress newRole, call = .updateAdminRole caller adminAddress newRole := by
  cases call with
  | updateAdminRole caller adminAddress newRole => exact ⟨caller, adminAddress, newRole, rfl⟩
  | pausable call => cases call <;> simp [Call.operation] at operated
  | _ => simp [Call.operation] at operated

theorem addAdmin_powerless : Powerless .addAdmin := by
  rintro strkey trace final run ⟨before, ⟨env, call⟩, after⟩ member author
    ⟨operated, named, -, idle⟩
  obtain ⟨caller, newAdmin, role, rfl⟩ := Call.operation_eq_addAdmin operated
  obtain rfl : caller = author := Option.some.inj named
  cases step_change (run.stepped_of_mem member) with
  | added _ ranked _ _ => exact not_ineffective_of_hasRoleAtLeast ranked idle

theorem updateAdminRole_powerless : Powerless .updateAdminRole := by
  rintro strkey trace final run ⟨before, ⟨env, call⟩, after⟩ member author
    ⟨operated, named, -, idle⟩
  obtain ⟨caller, adminAddress, newRole, rfl⟩ := Call.operation_eq_updateAdminRole operated
  obtain rfl : caller = author := Option.some.inj named
  cases step_change (run.stepped_of_mem member) with
  | roleUpdated _ ranked _ _ => exact not_ineffective_of_hasRoleAtLeast ranked idle

section Sample

/-- A suspended super admin goes on in office, and an admin it deactivated
reactivates itself. -/
def officeOfSuspended : List Label :=
  [ ⟨.signedByAll ⟨0⟩ 10, .initializeAdmin ⟨1⟩ 1 10⟩,
    ⟨.signedByAll ⟨0⟩ 10, .addAdmin ⟨1⟩ ⟨2⟩ .superAdmin⟩,
    ⟨.signedByAll ⟨0⟩ 10, .addAdmin ⟨1⟩ ⟨3⟩ .admin⟩,
    ⟨.signedByAll ⟨0⟩ 20, .suspendAdmin ⟨2⟩ ⟨1⟩ 1000⟩,
    ⟨.signedByAll ⟨0⟩ 30, .pausable (.setPauseSigner ⟨1⟩ ⟨4⟩ true)⟩,
    ⟨.signedByAll ⟨0⟩ 30, .pausable (.setPauseThreshold ⟨1⟩ 0)⟩,
    ⟨.signedByAll ⟨0⟩ 30, .pausable (.pause ⟨1⟩)⟩,
    ⟨.signedByAll ⟨0⟩ 30, .pausable (.unpause ⟨1⟩)⟩,
    ⟨.signedByAll ⟨0⟩ 30, .transferOwnership ⟨1⟩ ⟨2⟩⟩,
    ⟨.signedByAll ⟨0⟩ 30, .deactivateAdmin ⟨1⟩ ⟨3⟩⟩,
    ⟨.signedByAll ⟨0⟩ 40, .reactivateAdmin ⟨3⟩ ⟨3⟩⟩,
    ⟨.signedByAll ⟨0⟩ 50, .suspendAdmin ⟨1⟩ ⟨2⟩ 1000⟩,
    ⟨.signedByAll ⟨0⟩ 50, .removeAdmin ⟨1⟩ ⟨3⟩⟩ ]

def officeTrace : List (Event Storage Label) :=
  record (next sampleStrkey) .deployed officeOfSuspended

theorem officeTrace_run :
    Run (Step sampleStrkey) .deployed officeTrace
      (officeOfSuspended.foldl (advance (next sampleStrkey)) .deployed) :=
  run_of_record step_of_next (by decide +kernel)

theorem not_powerless {operation : Operation} (caller : Address) (position : Nat)
    (inside : position < officeTrace.length)
    (defied : DefiedBy officeTrace[position] operation caller) : ¬Powerless operation :=
  fun powerless => powerless sampleStrkey officeTrace _ officeTrace_run _
    (List.getElem_mem inside) caller defied

/-- A deactivated admin makes itself effective again. -/
theorem deactivated_reactivates_itself :
    ∃ trace final event, Run (Step sampleStrkey) .deployed trace final ∧ event ∈ trace ∧
      DefiedBy event .reactivateAdmin ⟨3⟩ ∧
        ¬Ineffective event.after event.label.env.timestamp ⟨3⟩ :=
  ⟨officeTrace, _, officeTrace.get ⟨10, by decide⟩, officeTrace_run, List.get_mem _ _,
    by decide +kernel, by decide +kernel⟩

end Sample

/-- Ineffective admins are powerless in exactly two of the operations. -/
theorem powerless_iff (operation : Operation) :
    Powerless operation ↔ operation = .addAdmin ∨ operation = .updateAdminRole := by
  cases operation with
  | addAdmin => simpa using addAdmin_powerless
  | updateAdminRole => simpa using updateAdminRole_powerless
  | setPauseSigner => simpa using not_powerless ⟨1⟩ 4 (by decide) (by decide +kernel)
  | setPauseThreshold =>
      simpa using not_powerless ⟨1⟩ 5 (by decide) (by decide +kernel)
  | pause => simpa using not_powerless ⟨1⟩ 6 (by decide) (by decide +kernel)
  | unpause => simpa using not_powerless ⟨1⟩ 7 (by decide) (by decide +kernel)
  | transferOwnership =>
      simpa using not_powerless ⟨1⟩ 8 (by decide) (by decide +kernel)
  | deactivateAdmin =>
      simpa using not_powerless ⟨1⟩ 9 (by decide) (by decide +kernel)
  | reactivateAdmin =>
      simpa using not_powerless ⟨3⟩ 10 (by decide) (by decide +kernel)
  | suspendAdmin =>
      simpa using not_powerless ⟨1⟩ 11 (by decide) (by decide +kernel)
  | removeAdmin =>
      simpa using not_powerless ⟨1⟩ 12 (by decide) (by decide +kernel)

end Admin
