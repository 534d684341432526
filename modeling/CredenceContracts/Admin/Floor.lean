import CredenceContracts.Admin.Hierarchy
import Mathlib.Data.Set.Card

/-!
# The floor of super admins

The contract is configured with a least number of super admins.  The removal of
a super admin checks it, but never gets that far, since nobody outranks a super
admin.  The update of a role is the one operation that lowers their number, and
it does not check.
-/

namespace Admin

open Soroban Transition

variable {strkey : Address → String} {env : Env} {call : Call} {before after : Storage}

/-- The addresses stored with the highest role. -/
def superAdmins (storage : Storage) : Set Address :=
  {address | storage.roleOf address = some .superAdmin}

instance (storage : Storage) (address : Address) :
    Decidable (address ∈ superAdmins storage) :=
  inferInstanceAs (Decidable (storage.roleOf address = some .superAdmin))

/-- There are at least as many super admins as configured. -/
def Floor (storage : Storage) : Prop :=
  (storage.minAdmins : ℕ∞) ≤ (superAdmins storage).encard

/-- The call takes the highest role from an admin that holds it. -/
def Demotes (storage : Storage) : Call → Prop
  | .updateAdminRole _ adminAddress newRole =>
      storage.roleOf adminAddress = some .superAdmin ∧ newRole ≠ .superAdmin
  | _ => False

/-- Of a sound contract, the floor asks for one super admin at least. -/
theorem Floor.nonempty (floor : Floor before) (sound : Sound before) :
    (superAdmins before).Nonempty := by
  have one : (1 : ℕ∞) ≤ before.minAdmins := by exact_mod_cast sound.positive
  exact Set.one_le_encard_iff_nonempty.mp (one.trans floor)

section Update

variable {target : Address} {entry : Option AdminInfo}

/-- Writing an entry keeps the super admins, its address apart. -/
theorem mem_superAdmins_of_update
    (updated : after.adminInfo = Function.update before.adminInfo target entry)
    {address : Address} (member : address ∈ superAdmins before)
    (rewritten : address = target → entry.map AdminInfo.role = some .superAdmin) :
    address ∈ superAdmins after := by
  simp only [superAdmins, Set.mem_ofPred_eq, Storage.roleOf, updated] at member ⊢
  by_cases same : address = target
  · subst same
    simpa using rewritten rfl
  · simpa [Function.update_of_ne same] using member

/-- An entry with another role removes its address from the super admins. -/
theorem superAdmins_of_update
    (updated : after.adminInfo = Function.update before.adminInfo target entry)
    (lower : entry.map AdminInfo.role ≠ some .superAdmin) :
    superAdmins after = superAdmins before \ {target} := by
  ext address
  simp only [superAdmins, Set.mem_sdiff, Set.mem_singleton_iff, Set.mem_ofPred_eq,
    Storage.roleOf, updated]
  by_cases same : address = target
  · subst same
    simpa using lower
  · simp [same]

end Update

/-- Every step but a demotion keeps all super admins. -/
theorem superAdmins_subset (sound : Sound before)
    (stepped : Step strkey before ⟨env, call⟩ after) (keeps : ¬Demotes before call) :
    superAdmins before ⊆ superAdmins after := by
  intro address member
  have roled : (before.adminInfo address).map AdminInfo.role = some .superAdmin := member
  cases step_change stepped with
  | initialized fresh _ _ _ => simp [sound.fresh fresh address] at roled
  | added _ _ absent stored =>
      apply mem_superAdmins_of_update (congrArg Storage.adminInfo stored) member
      intro same
      simp [same, absent] at roled
  | removed _ found _ outranks stored =>
      apply mem_superAdmins_of_update (congrArg Storage.adminInfo stored) member
      intro same
      simp only [same, found, Option.map_some, Option.some.injEq] at roled
      rw [roled] at outranks
      exact absurd outranks (not_lt.mpr (AdminRole.le_superAdmin _))
  | roleUpdated _ _ _ stored =>
      apply mem_superAdmins_of_update (congrArg Storage.adminInfo stored) member
      intro same
      by_contra lower
      exact keeps ⟨same ▸ member, by simpa using lower⟩
  | deactivated _ found _ _ stored | reactivated _ found _ _ stored
  | suspended _ found _ _ stored =>
      apply mem_superAdmins_of_update (congrArg Storage.adminInfo stored) member
      intro same
      simpa [same, found] using roled
  | offered _ _ _ _ _ stored | accepted _ _ stored | paused _ stored => exact stored ▸ member

/-- A demotion removes one super admin. -/
theorem encard_superAdmins_of_demotes (stepped : Step strkey before ⟨env, call⟩ after)
    (demotes : Demotes before call) :
    (superAdmins after).encard + 1 = (superAdmins before).encard := by
  cases step_change stepped with
  | roleUpdated _ _ _ stored =>
      rw [superAdmins_of_update (congrArg Storage.adminInfo stored)
        (by simpa using demotes.2)]
      exact Set.encard_sdiff_singleton_add_one demotes.1
  | _ => exact demotes.elim

/-- Only the initialisation sets the floor. -/
theorem minAdmins_of_info (sound : Sound before)
    (stepped : Step strkey before ⟨env, call⟩ after) (some : (superAdmins before).Nonempty) :
    after.minAdmins = before.minAdmins := by
  obtain ⟨address, member⟩ := some
  cases step_change stepped with
  | initialized fresh _ _ _ =>
      simp [superAdmins, Storage.roleOf, sound.fresh fresh address] at member
  | added _ _ _ stored | removed _ _ _ _ stored | roleUpdated _ _ _ stored
  | deactivated _ _ _ _ stored | reactivated _ _ _ _ stored | suspended _ _ _ _ stored
  | offered _ _ _ _ _ stored | accepted _ _ stored | paused _ stored => exact stored ▸ rfl

/-- One step keeps the floor unless it demotes at the floor. -/
theorem floor_step_iff (sound : Sound before)
    (stepped : Step strkey before ⟨env, call⟩ after) (floor : Floor before) :
    Floor after ↔
      (Demotes before call → (superAdmins before).encard ≠ before.minAdmins) := by
  have same := minAdmins_of_info sound stepped (floor.nonempty sound)
  by_cases demotes : Demotes before call
  · have fewer := encard_superAdmins_of_demotes stepped demotes
    simp only [Floor, same, demotes, forall_const] at floor ⊢
    calc (before.minAdmins : ℕ∞) ≤ (superAdmins after).encard
        ↔ (before.minAdmins : ℕ∞) < (superAdmins after).encard + 1 :=
          ENat.natCast_lt_add_one_iff.symm
      _ ↔ (before.minAdmins : ℕ∞) < (superAdmins before).encard := by rw [fewer]
      _ ↔ (superAdmins before).encard ≠ before.minAdmins :=
          ⟨fun above => above.ne', fun other => lt_of_le_of_ne floor other.symm⟩
  · have more := Set.encard_le_encard (superAdmins_subset sound stepped demotes)
    simp only [Floor, same, demotes, false_implies, iff_true]
    exact floor.trans more

/-- Along a run the floor of super admins lasts once it is reached if and only if
no super admin is demoted while there are exactly as many as the floor; and at
the floor there is a super admin. -/
theorem floor_lasts_iff {trace : List (Event Storage Label)} {final : Storage}
    (run : Run (Step strkey) .deployed trace final) :
    (Lasting Floor trace ↔
      ∀ event ∈ trace, Demotes event.before event.label.call →
        (superAdmins event.before).encard ≠ event.before.minAdmins) ∧
      ∀ event ∈ trace, Floor event.after → (superAdmins event.after).Nonempty := by
  have reached : ∀ event ∈ trace, Sound event.before ∧
      Step strkey event.before event.label event.after := by
    intro event member
    obtain ⟨earlier, first, stepped⟩ := run.reached_of_mem member
    exact ⟨.of_run first, stepped⟩
  constructor
  · rw [run.lasting_iff]
    apply forall₂_congr
    intro event member
    obtain ⟨sound, stepped⟩ := reached event member
    constructor
    · intro keeps demotes atFloor
      exact (floor_step_iff sound stepped atFloor.ge).mp (keeps atFloor.ge) demotes atFloor
    · intro above floor
      exact (floor_step_iff sound stepped floor).mpr above
  · intro event member floor
    obtain ⟨sound, stepped⟩ := reached event member
    exact floor.nonempty (sound.step stepped)

section Sample

/-- An end without super admins is told from the listed ones. -/
theorem superAdmins_eq_empty (sound : Sound before)
    (demoted : ∀ address ∈ before.adminList, before.roleOf address ≠ some .superAdmin) :
    superAdmins before = ∅ := by
  apply Set.eq_empty_of_forall_notMem
  intro address member
  have stored : (before.adminInfo address).isSome := by
    have roled : before.roleOf address = some .superAdmin := member
    simpa [Storage.roleOf] using congrArg Option.isSome roled
  exact demoted address (sound.listed address stored) member

/-- The demoted super admin was the only one, as many as the floor. -/
theorem floor_lost :
    ∃ trace final, Run (Step sampleStrkey) .deployed trace final ∧ ¬Lasting Floor trace ∧
      superAdmins final = ∅ := by
  have nobody : superAdmins (demotion.foldl (advance (next sampleStrkey)) .deployed) = ∅ :=
    superAdmins_eq_empty (.of_run demotionTrace_run) (by decide +kernel)
  refine ⟨_, _, demotionTrace_run, fun lasting => ?_, nobody⟩
  have member : demotionTrace.get ⟨3, by decide⟩ ∈ demotionTrace := List.get_mem _ _
  have floor : Floor (demotionTrace.get ⟨3, by decide⟩).before := by
    have one : (demotionTrace.get ⟨3, by decide⟩).before.minAdmins = 1 := by decide +kernel
    rw [Floor, one, Nat.cast_one]
    exact Set.one_le_encard_iff_nonempty.mpr ⟨⟨1⟩, by decide +kernel⟩
  have kept := (demotionTrace_run.lasting_iff Floor).mp lasting _ member floor
  have left : (superAdmins (demotion.foldl (advance (next sampleStrkey)) .deployed)).Nonempty :=
    kept.nonempty (.of_run demotionTrace_run)
  exact Set.nonempty_iff_ne_empty.mp left nobody

/-- An admin demotes one of two super admins. -/
def spareDemotion : List Label :=
  [ ⟨.signedByAll ⟨0⟩ 10, .initializeAdmin ⟨1⟩ 1 10⟩,
    ⟨.signedByAll ⟨0⟩ 20, .addAdmin ⟨1⟩ ⟨2⟩ .admin⟩,
    ⟨.signedByAll ⟨0⟩ 20, .addAdmin ⟨1⟩ ⟨3⟩ .superAdmin⟩,
    ⟨.signedByAll ⟨0⟩ 40, .updateAdminRole ⟨2⟩ ⟨1⟩ .operator⟩ ]

def spareTrace : List (Event Storage Label) :=
  record (next sampleStrkey) .deployed spareDemotion

/-- With a second super admin the floor lasts through a demotion. -/
theorem floor_lasts_sample :
    ∃ trace final, Run (Step sampleStrkey) .deployed trace final ∧ Lasting Floor trace ∧
      ∃ event ∈ trace, Demotes event.before event.label.call := by
  have run : Run (Step sampleStrkey) .deployed spareTrace
      (spareDemotion.foldl (advance (next sampleStrkey)) .deployed) :=
    run_of_record step_of_next (by decide +kernel)
  have two : (superAdmins (spareTrace.get ⟨3, by decide⟩).before).encard ≠
      (spareTrace.get ⟨3, by decide⟩).before.minAdmins := by
    have one : (spareTrace.get ⟨3, by decide⟩).before.minAdmins = 1 := by decide +kernel
    rw [one, Nat.cast_one]
    exact (Set.one_lt_encard_iff.mpr
      ⟨⟨1⟩, ⟨3⟩, by decide +kernel, by decide +kernel, by decide⟩).ne'
  refine ⟨spareTrace, _, run, (floor_lasts_iff run).1.mpr ?_,
    spareTrace.get ⟨3, by decide⟩, List.get_mem _ _, by decide +kernel, by decide⟩
  have others : ∀ event ∈ spareTrace.take 3, ¬Demotes event.before event.label.call := by
    simp only [spareTrace, record, spareDemotion, List.take_succ_cons, List.forall_mem_cons]
    exact ⟨id, id, id, by simp⟩
  intro event member demotes
  rw [← List.take_append_drop 3 spareTrace, List.mem_append] at member
  rcases member with earlier | last
  · exact absurd demotes (others event earlier)
  · obtain rfl := List.mem_singleton.mp last
    exact two

end Sample

end Admin
