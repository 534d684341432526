import CredenceContracts.Admin.Hierarchy
import CredenceContracts.Library.Roster

/-!
# The integrity of the admin store

The admins are stored three times: by address, in one list and in a list for each
role.  An operation that changes who is admin, or with which role, writes all three,
so they always agree.
-/

namespace Admin

open Soroban Transition Roster

variable {strkey : Address → String} {env : Env} {before after : Storage}

/-- The addresses that are stored as admins. -/
def admins (storage : Storage) : Set Address :=
  {address | (storage.adminInfo address).isSome}

/-- The list names the stored admins, the list of a role those with that role, each
of them once; every entry carries its own address; and there are no more admins than
configured. -/
structure Integrity (storage : Storage) : Prop where
  listed : Lists storage.adminList (admins storage)
  ranked : ∀ role, Lists (storage.roleAdmins role)
    {address | ∃ adminInfo, storage.adminInfo address = some adminInfo ∧ adminInfo.role = role}
  keyed : ∀ {address adminInfo}, storage.adminInfo address = some adminInfo →
    adminInfo.address = address
  bounded : (admins storage).encard ≤ storage.maxAdmins

/-- The representations agree, in terms of the role of every address. -/
structure Agreement (storage : Storage) : Prop where
  listed : Lists storage.adminList (admins storage)
  sorted : Sorts storage.roleAdmins storage.roleOf
  keyed : ∀ {address adminInfo}, storage.adminInfo address = some adminInfo →
    adminInfo.address = address
  bounded : storage.adminList.length ≤ storage.maxAdmins

theorem Agreement.integrity (agreement : Agreement before) : Integrity before where
  listed := agreement.listed
  ranked role := (agreement.sorted role).of_eq (by
    ext address
    simp [Storage.roleOf, Option.map_eq_some_iff])
  keyed := agreement.keyed
  bounded := by
    rw [agreement.listed.encard_eq]
    exact_mod_cast agreement.bounded

section Entries

variable {target : Address} {adminInfo updated : AdminInfo} {entry : Option AdminInfo}

theorem roleOf_of_update
    (written : after.adminInfo = Function.update before.adminInfo target entry) :
    after.roleOf = Function.update before.roleOf target (entry.map AdminInfo.role) := by
  funext address
  by_cases same : address = target
  · simp [same, Storage.roleOf, written]
  · simp [same, Storage.roleOf, written]

theorem admins_of_added
    (written : after.adminInfo = Function.update before.adminInfo target (some updated)) :
    admins after = insert target (admins before) := by
  ext address
  by_cases same : address = target <;> simp [admins, written, same]

theorem admins_of_removed
    (written : after.adminInfo = Function.update before.adminInfo target none) :
    admins after = admins before \ {target} := by
  ext address
  by_cases same : address = target <;> simp [admins, written, same]

theorem keyed_of_update (agreement : Agreement before)
    (written : after.adminInfo = Function.update before.adminInfo target entry)
    (own : ∀ info, entry = some info → info.address = target) {address : Address}
    (stored : after.adminInfo address = some adminInfo) : adminInfo.address = address := by
  rw [written] at stored
  by_cases same : address = target
  · subst same
    exact own adminInfo (by simpa using stored)
  · rw [Function.update_of_ne same] at stored
    exact agreement.keyed stored

end Entries

namespace Agreement

theorem deployed : Agreement .deployed where
  listed := Lists.empty.of_eq (by ext address; simp [admins, Storage.deployed])
  sorted := Sorts.empty
  keyed := by simp [Storage.deployed]
  bounded := by decide

/-- What leaves the entries and the lists alone keeps the agreement. -/
theorem of_same (agreement : Agreement before) (infos : after.adminInfo = before.adminInfo)
    (list : after.adminList = before.adminList)
    (roles : after.roleAdmins = before.roleAdmins) (limit : after.maxAdmins = before.maxAdmins) :
    Agreement after := by
  have roleSame : after.roleOf = before.roleOf := by
    funext address
    simp [Storage.roleOf, infos]
  have adminSame : admins after = admins before := by simp [admins, infos]
  constructor
  · rw [list, adminSame]
    exact agreement.listed
  · rw [roles, roleSame]
    exact agreement.sorted
  · rw [infos]
    exact agreement.keyed
  · rw [list, limit]
    exact agreement.bounded

/-- Rewriting the entry of an admin keeps the agreement where the lists by role follow
the new role. -/
theorem of_rewrite (agreement : Agreement before) {target : Address}
    {adminInfo updated : AdminInfo} (found : before.adminInfo target = some adminInfo)
    (written : after.adminInfo = Function.update before.adminInfo target (some updated))
    (own : updated.address = adminInfo.address)
    (list : after.adminList = before.adminList) (limit : after.maxAdmins = before.maxAdmins)
    (sorted : Sorts after.roleAdmins
      (Function.update before.roleOf target (some updated.role))) :
    Agreement after where
  listed := by
    have member : target ∈ admins before := by simp [admins, found]
    rw [list, admins_of_added written, Set.insert_eq_of_mem member]
    exact agreement.listed
  sorted := by
    rw [roleOf_of_update written]
    exact sorted
  keyed := keyed_of_update agreement written (by
    rintro _ ⟨⟩
    exact own.trans (agreement.keyed found))
  bounded := by
    rw [list, limit]
    exact agreement.bounded

/-- Rewriting the entry of an admin under its old role keeps the agreement. -/
theorem of_same_role (agreement : Agreement before) {target : Address}
    {adminInfo updated : AdminInfo} (found : before.adminInfo target = some adminInfo)
    (written : after.adminInfo = Function.update before.adminInfo target (some updated))
    (own : updated.address = adminInfo.address) (role : updated.role = adminInfo.role)
    (list : after.adminList = before.adminList) (limit : after.maxAdmins = before.maxAdmins)
    (roles : after.roleAdmins = before.roleAdmins) : Agreement after := by
  refine agreement.of_rewrite found written own list limit ?_
  have held : before.roleOf target = some updated.role := by
    rw [role]
    exact Storage.roleOf_of_info found
  rw [roles, ← held, Function.update_eq_self]
  exact agreement.sorted

end Agreement

/-- The list of admins has room when an admin is added. -/
theorem added_room {caller newAdmin : Address} {role : AdminRole}
    (stepped : Step strkey before ⟨env, .addAdmin caller newAdmin role⟩ after) :
    before.adminList.length < before.maxAdmins := by
  obtain ⟨⟨_, adminInfo⟩, added, -⟩ := Outcome.map_eq_ok.mp stepped
  obtain ⟨-, -, -, -, room, -⟩ := addAdmin_ok added
  exact room

/-- The configuration has room for the first admin. -/
theorem initialized_room {superAdmin : Address} {minAdmins maxAdmins : Nat}
    (stepped : Step strkey before ⟨env, .initializeAdmin superAdmin minAdmins maxAdmins⟩ after) :
    1 ≤ maxAdmins := by
  obtain ⟨-, positive, ordered, -⟩ := initializeAdmin_eq_ok.mp stepped
  exact positive.trans_le ordered

theorem Agreement.step {label : Label} (sound : Sound before) (agreement : Agreement before)
    (stepped : Step strkey before label after) : Agreement after := by
  obtain ⟨env, call⟩ := label
  cases step_change stepped with
  | @initialized superAdmin minAdmins maxAdmins fresh _ _ stored =>
      have nobody := sound.fresh fresh
      have vacant : before.roleOf = fun _ => none := by
        funext address
        simp [Storage.roleOf, nobody address]
      have written := congrArg Storage.adminInfo stored
      constructor
      · rw [admins_of_added written, stored]
        refine (Lists.singleton superAdmin).of_eq ?_
        ext address
        simp [admins, nobody address]
      · rw [roleOf_of_update written, vacant, stored]
        have lists : (fun role => if role = .superAdmin then [superAdmin] else []) =
            Function.update (fun _ : AdminRole => []) .superAdmin ([] ++ [superAdmin]) := by
          funext role
          by_cases top : role = .superAdmin <;> simp [top]
        rw [lists]
        exact Sorts.empty.enter rfl
      · exact keyed_of_update agreement written (by rintro _ ⟨⟩; rfl)
      · rw [stored]
        exact initialized_room stepped
  | @added _ newAdmin role _ _ absent stored =>
      have room := added_room stepped
      have written := congrArg Storage.adminInfo stored
      have vacant : before.roleOf newAdmin = none := by simp [Storage.roleOf, absent]
      constructor
      · rw [admins_of_added written, stored]
        exact agreement.listed.enter (by simp [admins, absent])
      · rw [roleOf_of_update written, stored]
        exact agreement.sorted.enter vacant
      · exact keyed_of_update agreement written (by rintro _ ⟨⟩; rfl)
      · rw [stored]
        simpa using room
  | @removed _ target _ _ _ found _ _ stored =>
      have written := congrArg Storage.adminInfo stored
      constructor
      · rw [admins_of_removed written, stored]
        exact agreement.listed.leave
      · rw [roleOf_of_update written, stored]
        exact agreement.sorted.leave (Storage.roleOf_of_info found)
      · exact keyed_of_update agreement written (by simp)
      · rw [stored]
        exact (before.adminList.length_erase_le).trans agreement.bounded
  | roleUpdated _ _ found stored =>
      subst stored
      exact agreement.of_rewrite found rfl rfl rfl rfl
        (agreement.sorted.move (Storage.roleOf_of_info found))
  | deactivated _ found _ _ stored | reactivated _ found _ _ stored
  | suspended _ found _ _ stored =>
      subst stored
      exact agreement.of_same_role found rfl rfl rfl rfl rfl rfl
  | offered _ _ _ _ _ stored | accepted _ _ stored | paused _ stored =>
      subst stored
      exact agreement.of_same rfl rfl rfl rfl

/-- The representations agree in every state that the deployed contract reaches. -/
theorem Agreement.of_run {trace : List (Event Storage Label)} {final : Storage}
    (run : Run (Step strkey) .deployed trace final) : Agreement final :=
  (run.invariant (fun storage => Sound storage ∧ Agreement storage) ⟨.deployed, .deployed⟩
    fun _ held stepped => ⟨held.1.step stepped, held.2.step held.1 stepped⟩).2

/-- In every state that the deployed contract reaches, the three representations of
the admins agree and the configured limit is kept. -/
theorem admin_store_integrity {trace : List (Event Storage Label)} {final : Storage}
    (run : Run (Step strkey) .deployed trace final) : Integrity final :=
  (Agreement.of_run run).integrity

section Sample

/-- The store agrees after an operator was promoted and demoted its promoter. -/
theorem admin_store_integrity_sample :
    ∃ trace final, Run (Step sampleStrkey) .deployed trace final ∧ Integrity final ∧
      final.adminList = [⟨1⟩, ⟨2⟩] ∧ final.roleAdmins .operator = [⟨1⟩] :=
  ⟨_, _, demotionTrace_run, admin_store_integrity demotionTrace_run, by decide +kernel,
    by decide +kernel⟩

end Sample

end Admin
