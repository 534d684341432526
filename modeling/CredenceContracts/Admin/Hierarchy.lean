import CredenceContracts.Admin.Spec

/-!
# The hierarchy of admin roles

An admin may act on others only downwards.  Every operation compares the role
of its caller with that of its target, except the update of a role, which
compares the caller with the new role alone; so the hierarchy is kept by
exactly the updates whose target does not outrank the caller.
-/

namespace Admin

open Soroban Transition

variable {strkey : Address → String} {env : Env} {call : Call} {before after : Storage}

/-- An admin is still stored, with its role, its activity and its suspension. -/
def Spared (adminInfo : AdminInfo) (later : Option AdminInfo) : Prop :=
  ∃ kept, later = some kept ∧ kept.role = adminInfo.role ∧
    (adminInfo.active = true → kept.active = true) ∧
      kept.suspendedUntil = adminInfo.suspendedUntil

/-- The call spares every admin whose role is above that of its author. -/
def HierarchyKept (env : Env) (call : Call) (before after : Storage) : Prop :=
  ∀ caller callerRole address adminInfo, call.caller = some caller →
    env.authorized caller = true → before.roleOf caller = some callerRole →
      before.adminInfo address = some adminInfo → callerRole < adminInfo.role →
        Spared adminInfo (after.adminInfo address)

/-- The target of a role update does not outrank the author of the update. -/
def RespectsRank (storage : Storage) : Call → Prop
  | .updateAdminRole caller adminAddress _ =>
      ∀ callerRole targetRole, storage.roleOf caller = some callerRole →
        storage.roleOf adminAddress = some targetRole → targetRole ≤ callerRole
  | _ => True

/-- A step that writes one entry spares all others. -/
theorem spared_of_update {target address : Address} {entry : Option AdminInfo}
    {adminInfo : AdminInfo}
    (updated : after.adminInfo = Function.update before.adminInfo target entry)
    (stored : before.adminInfo address = some adminInfo)
    (rewritten : address = target → Spared adminInfo entry) :
    Spared adminInfo (after.adminInfo address) := by
  rw [updated]
  by_cases same : address = target
  · subst same
    simpa using rewritten rfl
  · rw [Function.update_of_ne same, stored]
    exact ⟨adminInfo, rfl, rfl, id, rfl⟩

/-- A step that writes an entry of no higher rank than its author spares all higher ones. -/
theorem spared_of_outranked {target address : Address} {entry : Option AdminInfo}
    {adminInfo : AdminInfo} {callerRole : AdminRole}
    (updated : after.adminInfo = Function.update before.adminInfo target entry)
    (stored : before.adminInfo address = some adminInfo) (higher : callerRole < adminInfo.role)
    (outranks : ∀ overwritten, before.adminInfo target = some overwritten →
      overwritten.role ≤ callerRole) :
    Spared adminInfo (after.adminInfo address) := by
  apply spared_of_update updated stored
  intro same
  exact absurd higher (outranks adminInfo (same ▸ stored)).not_gt

/-- Who may assign a role holds that role or a higher one. -/
theorem le_getRequiredRoleToAssign (role : AdminRole) :
    role ≤ getRequiredRoleToAssign role := by
  cases role <;> decide

theorem hierarchy_of_respectsRank (sound : Sound before)
    (stepped : Step strkey before ⟨env, call⟩ after) (respects : RespectsRank before call) :
    HierarchyKept env call before after := by
  intro caller callerRole address adminInfo named _ ranked stored higher
  cases step_change stepped with
  | initialized fresh _ _ _ => simp [sound.fresh fresh address] at stored
  | added _ _ absent updated =>
      apply spared_of_update (congrArg Storage.adminInfo updated) stored
      intro same
      simp [same ▸ stored] at absent
  | removed _ found rank below updated | deactivated _ found rank below updated =>
      obtain rfl := Option.some.inj named
      obtain rfl := Option.some.inj (rank.symm.trans ranked)
      apply spared_of_outranked (congrArg Storage.adminInfo updated) stored higher
      intro overwritten listed
      obtain rfl := Option.some.inj (found.symm.trans listed)
      exact below.le
  | reactivated _ found rank reaches updated | suspended _ found rank reaches updated =>
      obtain rfl := Option.some.inj named
      obtain rfl := Option.some.inj (rank.symm.trans ranked)
      apply spared_of_outranked (congrArg Storage.adminInfo updated) stored higher
      intro overwritten listed
      obtain rfl := Option.some.inj (found.symm.trans listed)
      exact reaches
  | roleUpdated _ _ _ updated =>
      obtain rfl := Option.some.inj named
      apply spared_of_outranked (congrArg Storage.adminInfo updated) stored higher
      intro overwritten listed
      exact respects callerRole _ ranked (Storage.roleOf_of_info listed)
  | offered _ _ _ _ _ updated | accepted _ _ updated | paused _ updated =>
      rw [updated]
      exact ⟨adminInfo, stored, rfl, id, rfl⟩

theorem respectsRank_of_hierarchy (stepped : Step strkey before ⟨env, call⟩ after)
    (kept : HierarchyKept env call before after) : RespectsRank before call := by
  cases step_change stepped with
  | @roleUpdated caller adminAddress newRole adminInfo _ required found updated =>
      intro callerRole targetRole ranked target
      by_contra! higher
      have held : adminInfo.role = targetRole :=
        Option.some.inj ((Storage.roleOf_of_info found).symm.trans target)
      obtain ⟨entry, stored, sameRole, -⟩ := kept caller callerRole adminAddress adminInfo
        rfl (step_authorized stepped rfl) ranked found (held ▸ higher)
      have written : newRole = targetRole := by
        simp only [updated, Function.update_self] at stored
        rw [← held, ← sameRole, ← Option.some.inj stored]
      -- the new role is within the caller's reach, the old one was not
      obtain ⟨callerInfo, known, -, reaches⟩ := hasRoleAtLeast_info required
      have callerRank : callerInfo.role = callerRole :=
        Option.some.inj ((Storage.roleOf_of_info known).symm.trans ranked)
      have low := (le_getRequiredRoleToAssign newRole).trans reaches
      rw [callerRank, written] at low
      exact absurd higher (not_lt.mpr low)
  | _ => trivial

/-- In every run, a step keeps the hierarchy if and only if it is not the update
of the role of an admin above its author. -/
theorem hierarchy_kept_iff {trace : List (Event Storage Label)} {final : Storage}
    (run : Run (Step strkey) .deployed trace final) {event : Event Storage Label}
    (member : event ∈ trace) :
    HierarchyKept event.label.env event.label.call event.before event.after ↔
      RespectsRank event.before event.label.call := by
  obtain ⟨earlier, reached, stepped⟩ := run.reached_of_mem member
  exact ⟨respectsRank_of_hierarchy stepped,
    hierarchy_of_respectsRank (.of_run reached) stepped⟩

section Sample

/-- The text form of an address in the sample runs. -/
def sampleStrkey (address : Address) : String :=
  Nat.repr address.key

/-- A super admin promotes an operator, who then demotes the super admin. -/
def demotion : List Label :=
  [ ⟨.signedByAll ⟨0⟩ 10, .initializeAdmin ⟨1⟩ 1 10⟩,
    ⟨.signedByAll ⟨0⟩ 20, .addAdmin ⟨1⟩ ⟨2⟩ .operator⟩,
    ⟨.signedByAll ⟨0⟩ 30, .updateAdminRole ⟨1⟩ ⟨2⟩ .admin⟩,
    ⟨.signedByAll ⟨0⟩ 40, .updateAdminRole ⟨2⟩ ⟨1⟩ .operator⟩ ]

def demotionTrace : List (Event Storage Label) :=
  record (next sampleStrkey) .deployed demotion

theorem demotionTrace_run :
    Run (Step sampleStrkey) .deployed demotionTrace
      (demotion.foldl (advance (next sampleStrkey)) .deployed) :=
  run_of_record step_of_next (by decide +kernel)

/-- The promoted admin demotes the super admin. -/
theorem admin_demotes_superAdmin :
    ∃ trace final event, Run (Step sampleStrkey) .deployed trace final ∧ event ∈ trace ∧
      ¬HierarchyKept event.label.env event.label.call event.before event.after := by
  have member : demotionTrace.get ⟨3, by decide⟩ ∈ demotionTrace := List.get_mem _ _
  refine ⟨_, _, _, demotionTrace_run, member, fun kept => ?_⟩
  have respects := respectsRank_of_hierarchy (demotionTrace_run.stepped_of_mem member) kept
  have reaches := respects .admin .superAdmin (by decide +kernel) (by decide +kernel)
  exact absurd reaches (by decide)

/-- The promotion that came before kept the hierarchy. -/
theorem hierarchy_kept_sample :
    ∃ trace final event, Run (Step sampleStrkey) .deployed trace final ∧ event ∈ trace ∧
      HierarchyKept event.label.env event.label.call event.before event.after := by
  have member : demotionTrace.get ⟨2, by decide⟩ ∈ demotionTrace := List.get_mem _ _
  refine ⟨_, _, _, demotionTrace_run, member,
    (hierarchy_kept_iff demotionTrace_run member).mpr ?_⟩
  intro callerRole targetRole ranked _
  have promoter : (demotionTrace.get ⟨2, by decide⟩).before.roleOf ⟨1⟩ =
      some .superAdmin := by decide +kernel
  obtain rfl := Option.some.inj (ranked.symm.trans promoter)
  exact AdminRole.le_superAdmin targetRole

end Sample

end Admin
