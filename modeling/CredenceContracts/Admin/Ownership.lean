import CredenceContracts.Admin.Floor

/-!
# The rank of the owner

Ownership is offered to a super admin and accepted later, and neither the acceptance
nor the update of a role looks at it again.  The rank, the activity and the suspension
of an admin are read off the calls that were made on it, so the calls say whether the
owner and whoever becomes owner still are what the offer asked for.
-/

namespace Admin

open Soroban Transition

variable {strkey : Address → String} {env : Env} {call : Call} {before after : Storage}
variable {address : Address}

/-- Once the contract is initialised, its owner is stored as a super admin. -/
def OwnerRanks (storage : Storage) : Prop :=
  storage.initialized = true →
    ∃ owner, storage.owner = some owner ∧ storage.roleOf owner = some .superAdmin

/-- Whoever accepts the ownership is an active super admin that is not suspended. -/
def AcceptedEligibly (event : Event Storage Label) : Prop :=
  ∀ caller, event.label.call = .acceptOwnership caller →
    hasRoleAtLeast event.label.env event.before caller .superAdmin = true

section Calls

/-- The call gives an address the highest role. -/
def Raises (address : Address) (event : Event Storage Label) : Prop :=
  match event.label.call with
  | .initializeAdmin superAdmin _ _ => superAdmin = address
  | .addAdmin _ newAdmin role => newAdmin = address ∧ role = .superAdmin
  | .updateAdminRole _ adminAddress newRole => adminAddress = address ∧ newRole = .superAdmin
  | _ => False

/-- The call gives an address another role, or none. -/
def Lowers (address : Address) (event : Event Storage Label) : Prop :=
  match event.label.call with
  | .removeAdmin _ adminToRemove => adminToRemove = address
  | .updateAdminRole _ adminAddress newRole => adminAddress = address ∧ newRole ≠ .superAdmin
  | _ => False

/-- The call makes an address an active admin. -/
def Activates (address : Address) (event : Event Storage Label) : Prop :=
  match event.label.call with
  | .initializeAdmin superAdmin _ _ => superAdmin = address
  | .addAdmin _ newAdmin _ => newAdmin = address
  | .reactivateAdmin _ adminAddress => adminAddress = address
  | _ => False

/-- The call makes an address inactive, or no admin. -/
def Deactivates (address : Address) (event : Event Storage Label) : Prop :=
  match event.label.call with
  | .removeAdmin _ adminToRemove => adminToRemove = address
  | .deactivateAdmin _ adminAddress => adminAddress = address
  | _ => False

/-- The call suspends an address beyond a time. -/
def SuspendsBeyond (now : Nat) (address : Address) (event : Event Storage Label) : Prop :=
  match event.label.call with
  | .suspendAdmin _ admin untilTs => admin = address ∧ now < untilTs
  | _ => False

/-- The call replaces the suspension of an address by one that ends in time, or
removes the address. -/
def EndsSuspension (now : Nat) (address : Address) (event : Event Storage Label) : Prop :=
  match event.label.call with
  | .removeAdmin _ adminToRemove => adminToRemove = address
  | .suspendAdmin _ admin untilTs => admin = address ∧ untilTs ≤ now
  | _ => False

end Calls

/-- By the calls before it, an acceptance is made by an address that holds the highest
role, is active and serves no suspension; and no update of a role takes the highest
one from the owner. -/
def KeepsOwnerRanked (earlier : List (Event Storage Label)) (event : Event Storage Label) :
    Prop :=
  match event.label.call with
  | .updateAdminRole _ adminAddress newRole =>
      event.before.owner = some adminAddress → newRole = .superAdmin
  | .acceptOwnership caller =>
      Since (Raises caller) (Lowers caller) earlier ∧
        Since (Activates caller) (Deactivates caller) earlier ∧
        ¬Since (SuspendsBeyond event.label.env.timestamp caller)
          (EndsSuspension event.label.env.timestamp caller) earlier
  | _ => True

section Entries

/-- The entry of an address after a call. -/
def entryAfter (env : Env) (address : Address) (entry : Option AdminInfo) :
    Call → Option AdminInfo
  | .initializeAdmin superAdmin _ _ =>
      if superAdmin = address then some (newAdminInfo env superAdmin superAdmin .superAdmin)
      else entry
  | .addAdmin caller newAdmin role =>
      if newAdmin = address then some (newAdminInfo env newAdmin caller role) else entry
  | .removeAdmin _ adminToRemove => if adminToRemove = address then none else entry
  | .updateAdminRole caller adminAddress newRole =>
      if adminAddress = address then
        entry.map fun adminInfo => { adminInfo with
          role := newRole
          assignedAt := env.timestamp
          assignedBy := caller }
      else entry
  | .deactivateAdmin _ adminAddress =>
      if adminAddress = address then
        entry.map fun adminInfo => { adminInfo with active := false }
      else entry
  | .reactivateAdmin _ adminAddress =>
      if adminAddress = address then
        entry.map fun adminInfo => { adminInfo with active := true }
      else entry
  | .suspendAdmin _ admin untilTs =>
      if admin = address then
        entry.map fun adminInfo => { adminInfo with suspendedUntil := untilTs }
      else entry
  | _ => entry

/-- The call makes only a vacant address admin and changes only an admin. -/
def FitsEntry (address : Address) (entry : Option AdminInfo) : Call → Prop
  | .initializeAdmin created _ _ | .addAdmin _ created _ => created = address → entry = none
  | .updateAdminRole _ changed _ | .deactivateAdmin _ changed | .reactivateAdmin _ changed
  | .suspendAdmin _ changed _ => changed = address →
      ∃ adminInfo, entry = some adminInfo
  | _ => True

/-- What a successful call does to the entry of an address. -/
theorem entry_step (sound : Sound before) (stepped : Step strkey before ⟨env, call⟩ after)
    (address : Address) :
    after.adminInfo address = entryAfter env address (before.adminInfo address) call ∧
      FitsEntry address (before.adminInfo address) call := by
  have read {target : Address} {entry : Option AdminInfo}
      (written : after.adminInfo = Function.update before.adminInfo target entry) :
      after.adminInfo address = if target = address then entry else before.adminInfo address := by
    rw [written, Function.update_apply]
    exact if_congr eq_comm rfl rfl
  cases step_change stepped with
  | initialized fresh _ _ stored =>
      rw [read (congrArg Storage.adminInfo stored)]
      exact ⟨rfl, fun _ => sound.fresh fresh address⟩
  | added _ _ absent stored =>
      rw [read (congrArg Storage.adminInfo stored)]
      exact ⟨rfl, fun same => same ▸ absent⟩
  | removed _ _ _ _ stored =>
      rw [read (congrArg Storage.adminInfo stored)]
      exact ⟨rfl, trivial⟩
  | roleUpdated _ _ found stored | deactivated _ found _ _ stored
  | reactivated _ found _ _ stored | suspended _ found _ _ stored =>
      rw [read (congrArg Storage.adminInfo stored)]
      constructor
      · simp only [entryAfter]
        split
        · rename_i same
          simp [← same, found]
        · rfl
      · intro same
        exact ⟨_, same ▸ found⟩
  | offered _ _ _ _ _ stored | accepted _ _ stored | paused _ stored =>
      exact ⟨congrFun (congrArg Storage.adminInfo stored) address, trivial⟩

end Entries

section History

variable {trace : List (Event Storage Label)} {final : Storage}

/-- The entry of an address passes a test. -/
def EntryMeets (test : AdminInfo → Prop) (address : Address) (storage : Storage) : Prop :=
  ∃ adminInfo, storage.adminInfo address = some adminInfo ∧ test adminInfo

/-- A test of an entry that some calls make pass, some fail and all others keep is passed
if and only if it was made to pass since it last was made to fail. -/
theorem entryMeets_iff_since {test : AdminInfo → Prop} {opens closes : Event Storage Label → Prop}
    (run : Run (Step strkey) .deployed trace final)
    (exact : ∀ (event : Event Storage Label) (entry : Option AdminInfo),
      FitsEntry address entry event.label.call →
      ((∃ adminInfo, entryAfter event.label.env address entry event.label.call =
        some adminInfo ∧ test adminInfo) ↔
          opens event ∨ ¬closes event ∧ ∃ adminInfo, entry = some adminInfo ∧ test adminInfo)) :
    EntryMeets test address final ↔ Since opens closes trace := by
  apply run.iff_since (EntryMeets test address)
  · simp [EntryMeets, Storage.deployed]
  · intro earlier event reached stepped
    obtain ⟨same, fits⟩ := entry_step (.of_run reached) stepped address
    unfold EntryMeets
    rw [same]
    exact exact event _ fits

theorem top_iff_since (run : Run (Step strkey) .deployed trace final) :
    EntryMeets (·.role = .superAdmin) address final ↔
      Since (Raises address) (Lowers address) trace := by
  apply entryMeets_iff_since run
  rintro ⟨_, ⟨env, call⟩, _⟩ entry fits
  cases call with
  | transferOwnership | acceptOwnership | pausable => simp [entryAfter, Raises, Lowers]
  | _ =>
      simp only [entryAfter, FitsEntry, Raises, Lowers] at fits ⊢
      split_ifs <;> simp_all [newAdminInfo]

theorem active_iff_since (run : Run (Step strkey) .deployed trace final) :
    EntryMeets (·.active = true) address final ↔
      Since (Activates address) (Deactivates address) trace := by
  apply entryMeets_iff_since run
  rintro ⟨_, ⟨env, call⟩, _⟩ entry fits
  cases call with
  | transferOwnership | acceptOwnership | pausable => simp [entryAfter, Activates, Deactivates]
  | _ =>
      simp only [entryAfter, FitsEntry, Activates, Deactivates] at fits ⊢
      split_ifs <;> simp_all [newAdminInfo]

theorem suspended_iff_since {now : Nat} (run : Run (Step strkey) .deployed trace final) :
    EntryMeets (now < ·.suspendedUntil) address final ↔
      Since (SuspendsBeyond now address) (EndsSuspension now address) trace := by
  apply entryMeets_iff_since run
  rintro ⟨_, ⟨env, call⟩, _⟩ entry fits
  cases call with
  | transferOwnership | acceptOwnership | pausable =>
      simp [entryAfter, SuspendsBeyond, EndsSuspension]
  | _ =>
      simp only [entryAfter, FitsEntry, SuspendsBeyond, EndsSuspension] at fits ⊢
      split_ifs <;> simp_all [newAdminInfo]

theorem hasRoleAtLeast_superAdmin_iff :
    hasRoleAtLeast env before address .superAdmin = true ↔
      EntryMeets (·.role = .superAdmin) address before ∧
        EntryMeets (·.active = true) address before ∧
          ¬EntryMeets (env.timestamp < ·.suspendedUntil) address before := by
  cases stored : before.adminInfo address with
  | none => simp [hasRoleAtLeast, EntryMeets, stored]
  | some adminInfo =>
      have top : .superAdmin ≤ adminInfo.role ↔ adminInfo.role = .superAdmin :=
        ⟨fun reaches => le_antisymm (AdminRole.le_superAdmin _) reaches, fun same => same.ge⟩
      simp [hasRoleAtLeast, EntryMeets, stored, AdminInfo.effective, top]
      tauto

theorem roleOf_iff_meets {role : AdminRole} :
    before.roleOf address = some role ↔ EntryMeets (·.role = role) address before := by
  simp [Storage.roleOf, EntryMeets, Option.map_eq_some_iff]

end History

section Steps

variable {event : Event Storage Label} {earlier : List (Event Storage Label)}

/-- The contract has an owner from its initialisation on. -/
def Owned (storage : Storage) : Prop :=
  storage.owner.isSome = storage.initialized

theorem owned_step {label : Label} (owned : Owned before)
    (stepped : Step strkey before label after) : Owned after := by
  obtain ⟨env, call⟩ := label
  cases step_change stepped with
  | initialized _ _ _ stored => simp [Owned, stored]
  | accepted _ _ stored =>
      obtain ⟨-, -, present, -⟩ := acceptOwnership_eq_ok.mp stepped
      have started : before.initialized = true := owned ▸ present
      simp [Owned, stored, started]
  | added _ _ _ stored | removed _ _ _ _ stored | roleUpdated _ _ _ stored
  | deactivated _ _ _ _ stored | reactivated _ _ _ _ stored | suspended _ _ _ _ stored
  | offered _ _ _ _ _ stored | paused _ stored => exact stored ▸ owned

/-- The part of the condition that keeps the owner's role. -/
def KeepsOwnerRole (earlier : List (Event Storage Label)) (event : Event Storage Label) :
    Prop :=
  match event.label.call with
  | .updateAdminRole _ adminAddress newRole =>
      event.before.owner = some adminAddress → newRole = .superAdmin
  | .acceptOwnership caller => Since (Raises caller) (Lowers caller) earlier
  | _ => True

/-- A step that keeps the owner and the super admins keeps the owner's role. -/
theorem ownerRanks_of_kept (ranks : OwnerRanks before)
    (started : after.initialized = before.initialized) (owner : after.owner = before.owner)
    (kept : superAdmins before ⊆ superAdmins after) : OwnerRanks after := by
  intro initialized
  obtain ⟨address, owns, top⟩ := ranks (started ▸ initialized)
  exact ⟨address, owner ▸ owns, kept top⟩

/-- The update of a role keeps the owner's role unless it takes it. -/
theorem ownerRanks_updated_iff {target : Address} {adminInfo updated : AdminInfo}
    (ranks : OwnerRanks before) (sound : Sound before)
    (found : before.adminInfo target = some adminInfo)
    (written : after.adminInfo = Function.update before.adminInfo target (some updated))
    (started : after.initialized = before.initialized) (owner : after.owner = before.owner) :
    OwnerRanks after ↔ (before.owner = some target → updated.role = .superAdmin) := by
  have initialized := sound.initialized_of_info found
  obtain ⟨address, owns, top⟩ := ranks initialized
  constructor
  · intro kept owned
    obtain ⟨same, held, still⟩ := kept (started ▸ initialized)
    obtain rfl : same = target := Option.some.inj ((held.symm.trans owner).trans owned)
    simpa [Storage.roleOf, written] using still
  · intro keeps _
    refine ⟨address, owner ▸ owns, ?_⟩
    apply mem_superAdmins_of_update written top
    rintro rfl
    exact congrArg some (keeps owns)

theorem ownerRanks_step_iff (run : Run (Step strkey) .deployed earlier event.before)
    (owned : Owned event.before) (ranks : OwnerRanks event.before)
    (stepped : Step strkey event.before event.label event.after) :
    OwnerRanks event.after ↔ KeepsOwnerRole earlier event := by
  have sound : Sound event.before := .of_run run
  obtain ⟨before, ⟨env, call⟩, after⟩ := event
  simp only [KeepsOwnerRole] at run owned ranks stepped sound ⊢
  cases step_change stepped with
  | @initialized superAdmin _ _ _ _ _ stored =>
      refine iff_of_true (fun _ => ⟨superAdmin, ?_, ?_⟩) trivial
      · simp [stored]
      · simp [stored, Storage.roleOf, newAdminInfo]
  | roleUpdated _ _ found stored =>
      exact ownerRanks_updated_iff ranks sound found (congrArg Storage.adminInfo stored)
        (by rw [stored]) (by rw [stored])
  | @accepted caller _ _ stored =>
      obtain ⟨-, -, present, -⟩ := acceptOwnership_eq_ok.mp stepped
      have started : before.initialized = true := owned ▸ present
      have holds : OwnerRanks after ↔ before.roleOf caller = some .superAdmin := by
        simp [OwnerRanks, stored, started, Storage.roleOf]
      exact holds.trans (roleOf_iff_meets.trans (top_iff_since run))
  | added _ _ _ stored | removed _ _ _ _ stored
  | deactivated _ _ _ _ stored | reactivated _ _ _ _ stored | suspended _ _ _ _ stored
  | offered _ _ _ _ _ stored | paused _ stored =>
      refine iff_of_true ?_ trivial
      exact ownerRanks_of_kept ranks (by rw [stored]) (by rw [stored])
        (superAdmins_subset sound stepped id)

/-- An acceptance is eligible if and only if the calls on the accepting address say so. -/
theorem acceptedEligibly_iff (run : Run (Step strkey) .deployed earlier event.before) :
    AcceptedEligibly event ∧ KeepsOwnerRole earlier event ↔ KeepsOwnerRanked earlier event := by
  obtain ⟨before, ⟨env, call⟩, after⟩ := event
  simp only [AcceptedEligibly, KeepsOwnerRole, KeepsOwnerRanked] at run ⊢
  cases call with
  | acceptOwnership caller =>
      simp only [Call.acceptOwnership.injEq, forall_eq', hasRoleAtLeast_superAdmin_iff,
        top_iff_since run, active_iff_since run, suspended_iff_since run]
      tauto
  | _ => simp

end Steps

/-- Along a run the owner stays a super admin, and whoever becomes owner is then an
active one that is not suspended, if and only if no update of a role takes the highest
role from the owner and every acceptance is made by an address to which the calls before
it left that role, its activity and no suspension. -/
theorem owner_ranked_iff {trace : List (Event Storage Label)} {final : Storage}
    (run : Run (Step strkey) .deployed trace final) :
    (∀ event ∈ trace, OwnerRanks event.after ∧ AcceptedEligibly event) ↔
      ∀ earlier event later, trace = earlier ++ event :: later →
        KeepsOwnerRanked earlier event := by
  have ranks : (∀ event ∈ trace, OwnerRanks event.after) ↔
      ∀ earlier event later, trace = earlier ++ event :: later →
        KeepsOwnerRole earlier event := by
    refine run.forall_after_iff_at OwnerRanks
      (fun earlier storage => Run (Step strkey) .deployed earlier storage ∧ Owned storage) _
      ?_ ⟨.nil, rfl⟩ ?_ ?_
    · simp [OwnerRanks, Storage.deployed]
    · rintro earlier event ⟨reached, owned⟩ _ stepped
      exact ⟨.snoc reached stepped, owned_step owned stepped⟩
    · rintro earlier event ⟨reached, owned⟩ ranks stepped
      exact ownerRanks_step_iff reached owned ranks stepped
  rw [forall₂_and, ranks, forall_mem_iff_at, ← forall_and]
  apply forall_congr'
  intro earlier
  rw [← forall_and]
  apply forall_congr'
  intro event
  rw [← forall_and]
  apply forall_congr'
  intro later
  rw [← forall_and]
  apply forall_congr'
  intro position
  rw [and_comm]
  exact acceptedEligibly_iff (run.split position).1

section Sample

/-- A super admin offers the ownership to a second one, demotes it, and it accepts. -/
def demotedOwner : List Label :=
  [ ⟨.signedByAll ⟨0⟩ 10, .initializeAdmin ⟨1⟩ 1 10⟩,
    ⟨.signedByAll ⟨0⟩ 20, .addAdmin ⟨1⟩ ⟨2⟩ .superAdmin⟩,
    ⟨.signedByAll ⟨0⟩ 30, .transferOwnership ⟨1⟩ ⟨2⟩⟩,
    ⟨.signedByAll ⟨0⟩ 40, .updateAdminRole ⟨1⟩ ⟨2⟩ .operator⟩,
    ⟨.signedByAll ⟨0⟩ 50, .acceptOwnership ⟨2⟩⟩ ]

def demotedOwnerTrace : List (Event Storage Label) :=
  record (next sampleStrkey) .deployed demotedOwner

/-- An operator becomes the owner. -/
theorem operator_owns :
    ∃ trace final, Run (Step sampleStrkey) .deployed trace final ∧
      final.owner = some ⟨2⟩ ∧ final.roleOf ⟨2⟩ = some .operator ∧
        ¬∀ event ∈ trace, OwnerRanks event.after ∧ AcceptedEligibly event := by
  have run : Run (Step sampleStrkey) .deployed demotedOwnerTrace
      (demotedOwner.foldl (advance (next sampleStrkey)) .deployed) :=
    run_of_record step_of_next (by decide +kernel)
  refine ⟨_, _, run, by decide +kernel, by decide +kernel, fun every => ?_⟩
  have last := every (demotedOwnerTrace.get ⟨4, by decide⟩) (List.get_mem _ _)
  have eligible : hasRoleAtLeast (.signedByAll ⟨0⟩ 50)
      (demotedOwnerTrace.get ⟨4, by decide⟩).before ⟨2⟩ .superAdmin = true := last.2 ⟨2⟩ rfl
  exact absurd eligible (by decide +kernel)

/-- The offer is accepted, and the former owner is demoted after it. -/
def handedOver : List Label :=
  [ ⟨.signedByAll ⟨0⟩ 10, .initializeAdmin ⟨1⟩ 1 10⟩,
    ⟨.signedByAll ⟨0⟩ 20, .addAdmin ⟨1⟩ ⟨2⟩ .superAdmin⟩,
    ⟨.signedByAll ⟨0⟩ 30, .transferOwnership ⟨1⟩ ⟨2⟩⟩,
    ⟨.signedByAll ⟨0⟩ 40, .acceptOwnership ⟨2⟩⟩,
    ⟨.signedByAll ⟨0⟩ 50, .updateAdminRole ⟨2⟩ ⟨1⟩ .operator⟩ ]

/-- The calls of the handover keep the owner ranked. -/
theorem owner_ranked_sample :
    ∃ trace final, Run (Step sampleStrkey) .deployed trace final ∧
      final.owner = some ⟨2⟩ ∧ final.roleOf ⟨1⟩ = some .operator ∧
        ∀ earlier event later, trace = earlier ++ event :: later →
          KeepsOwnerRanked earlier event := by
  have run : Run (Step sampleStrkey) .deployed (record (next sampleStrkey) .deployed handedOver)
      (handedOver.foldl (advance (next sampleStrkey)) .deployed) :=
    run_of_record step_of_next (by decide +kernel)
  refine ⟨_, _, run, by decide +kernel, by decide +kernel, (owner_ranked_iff run).mp ?_⟩
  simp only [record, handedOver, List.forall_mem_cons, AcceptedEligibly]
  refine ⟨⟨fun _ => ⟨⟨1⟩, by decide +kernel, by decide +kernel⟩, by simp⟩,
    ⟨fun _ => ⟨⟨1⟩, by decide +kernel, by decide +kernel⟩, by simp⟩,
    ⟨fun _ => ⟨⟨1⟩, by decide +kernel, by decide +kernel⟩, by simp⟩,
    ⟨fun _ => ⟨⟨2⟩, by decide +kernel, by decide +kernel⟩, ?_⟩,
    ⟨fun _ => ⟨⟨2⟩, by decide +kernel, by decide +kernel⟩, by simp⟩, by simp⟩
  rintro _ ⟨⟩
  decide +kernel

end Sample

end Admin
