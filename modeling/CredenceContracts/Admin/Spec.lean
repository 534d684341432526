import CredenceContracts.Admin.Contract

/-!
# What each admin operation does

One lemma for each operation says when it succeeds and what entries it then
leaves.  From them, one relation says what any successful call does to the
stored admins, under which comparison of roles.
-/

namespace Admin

open Soroban MachineInt

variable {strkey : Address → String} {env : Env} {storage before after : Storage}

/-- The role stored for an address. -/
def Storage.roleOf (storage : Storage) (address : Address) : Option AdminRole :=
  (storage.adminInfo address).map AdminInfo.role

theorem Storage.roleOf_of_info {address : Address} {adminInfo : AdminInfo}
    (stored : storage.adminInfo address = some adminInfo) :
    storage.roleOf address = some adminInfo.role := by
  simp [Storage.roleOf, stored]

@[simp] theorem getRole_eq_ok {address : Address} {role : AdminRole} :
    getRole storage address = .ok role ↔ storage.roleOf address = some role := by
  simp only [getRole, Storage.roleOf, Outcome.bind_eq_ok, Outcome.unwrapOr_eq_ok,
    Outcome.pure_eq_ok, Option.map_eq_some_iff]
  grind

@[simp] theorem requireRoleAtLeast_eq_ok {caller : Address} {role : AdminRole}
    {result : Unit} :
    requireRoleAtLeast env storage caller role = .ok result ↔
      hasRoleAtLeast env storage caller role = true := by
  simp [requireRoleAtLeast, hasRoleAtLeast, Option.any_eq_true]

/-- The address is neither the sentinel nor the contract itself. -/
def ValidAdminAddress (strkey : Address → String) (env : Env) (address : Address) : Prop :=
  strkey address ≠ invalidAddressSentinel ∧ address ≠ env.currentContractAddress

@[simp] theorem requireValidAdminAddress_eq_ok {address : Address} {result : Unit} :
    requireValidAdminAddress env strkey address = .ok result ↔
      ValidAdminAddress strkey env address := by
  simp [requireValidAdminAddress, ValidAdminAddress]

/-- Who may call while the contract is not paused. -/
def OpenCall (env : Env) (storage : Storage) (caller : Address) : Prop :=
  storage.pause.paused = false ∧ env.authorized caller = true

/-- The entry of an address that is made admin. -/
def newAdminInfo (env : Env) (address assignedBy : Address) (role : AdminRole) : AdminInfo where
  address
  role
  assignedAt := env.timestamp
  assignedBy
  active := true
  suspendedUntil := 0

/-- The lists by role once an address went from one role to another. -/
def moveAdmin (roleAdmins : AdminRole → List Address) (address : Address)
    (oldRole newRole : AdminRole) : AdminRole → List Address :=
  let removed := Function.update roleAdmins oldRole ((roleAdmins oldRole).erase address)
  Function.update removed newRole (removed newRole ++ [address])

section Operations

theorem initializeAdmin_eq_ok {superAdmin : Address} {minAdmins maxAdmins : Nat} :
    initializeAdmin env storage superAdmin minAdmins maxAdmins = .ok after ↔
      storage.initialized = false ∧ 0 < minAdmins ∧ minAdmins ≤ maxAdmins ∧
        env.authorized superAdmin = true ∧
          after = { storage with
            initialized := true
            minAdmins
            maxAdmins
            pause := storage.pause.reset
            adminInfo := Function.update storage.adminInfo superAdmin
              (some (newAdminInfo env superAdmin superAdmin .superAdmin))
            adminList := [superAdmin]
            roleAdmins := fun role => if role = .superAdmin then [superAdmin] else []
            owner := some superAdmin } := by
  simp [initializeAdmin, newAdminInfo, Nat.pos_iff_ne_zero]

theorem addAdmin_ok {caller newAdmin : Address} {role : AdminRole} {adminInfo : AdminInfo}
    (added : addAdmin strkey env storage caller newAdmin role = .ok (after, adminInfo)) :
    OpenCall env storage caller ∧ ValidAdminAddress strkey env newAdmin ∧
      hasRoleAtLeast env storage caller (getRequiredRoleToAssign role) = true ∧
        storage.adminInfo newAdmin = none ∧
          storage.adminList.length < storage.maxAdmins ∧
            adminInfo = newAdminInfo env newAdmin caller role ∧
              after = { storage with
                adminInfo := Function.update storage.adminInfo newAdmin (some adminInfo)
                adminList := storage.adminList ++ [newAdmin]
                roleAdmins := Function.update storage.roleAdmins role
                  (storage.roleAdmins role ++ [newAdmin]) } := by
  simp only [addAdmin, Outcome.bind_eq_ok, Pausable.requireNotPaused_eq_ok,
    requireAuth_eq_ok, requireValidAdminAddress_eq_ok, requireRoleAtLeast_eq_ok,
    Outcome.rejectIf_eq_ok, getRole_eq_ok, Outcome.pure_eq_ok, Prod.mk.injEq] at added
  obtain ⟨-, running, -, signed, -, valid, -, ranked, -, fresh, -, -, -, -, -, room, rfl, rfl⟩ :=
    added
  exact ⟨⟨running, signed⟩, valid, ranked, by simpa using fresh, by simpa using room, rfl, rfl⟩

theorem removeAdmin_eq_ok {caller adminToRemove : Address} :
    removeAdmin strkey env storage caller adminToRemove = .ok after ↔
      OpenCall env storage caller ∧ ValidAdminAddress strkey env adminToRemove ∧
        ∃ adminInfo callerRole, storage.adminInfo adminToRemove = some adminInfo ∧
          storage.roleOf caller = some callerRole ∧ adminInfo.role < callerRole ∧
            after = { storage with
              adminInfo := Function.update storage.adminInfo adminToRemove none
              adminList := storage.adminList.erase adminToRemove
              roleAdmins := Function.update storage.roleAdmins adminInfo.role
                ((storage.roleAdmins adminInfo.role).erase adminToRemove) } := by
  have below {role callerRole : AdminRole} (lower : role < callerRole) :
      role ≠ .superAdmin := by
    rintro rfl
    exact absurd lower (not_lt.mpr (AdminRole.le_superAdmin _))
  simp only [removeAdmin, OpenCall, Outcome.bind_eq_ok, Pausable.requireNotPaused_eq_ok,
    requireAuth_eq_ok, requireValidAdminAddress_eq_ok, Outcome.unwrapOr_eq_ok, getRole_eq_ok,
    Outcome.rejectIf_eq_ok, Outcome.pure_eq_ok, not_le]
  grind

theorem updateAdminRole_ok {caller adminAddress : Address} {newRole : AdminRole}
    {updated : AdminInfo}
    (changed : updateAdminRole strkey env storage caller adminAddress newRole =
      .ok (after, updated)) :
    OpenCall env storage caller ∧ ValidAdminAddress strkey env adminAddress ∧
      hasRoleAtLeast env storage caller (getRequiredRoleToAssign newRole) = true ∧
        ∃ adminInfo, storage.adminInfo adminAddress = some adminInfo ∧
          updated = { adminInfo with
            role := newRole
            assignedAt := env.timestamp
            assignedBy := caller } ∧
          after = { storage with
            adminInfo := Function.update storage.adminInfo adminAddress (some updated)
            roleAdmins := moveAdmin storage.roleAdmins adminAddress adminInfo.role newRole } := by
  simp only [updateAdminRole, Outcome.bind_eq_ok, Pausable.requireNotPaused_eq_ok,
    requireAuth_eq_ok, requireValidAdminAddress_eq_ok, requireRoleAtLeast_eq_ok,
    Outcome.unwrapOr_eq_ok, Outcome.rejectIf_eq_ok, getRole_eq_ok, Outcome.pure_eq_ok,
    Prod.mk.injEq] at changed
  obtain ⟨-, running, -, signed, -, valid, adminInfo, stored, -, ranked, -, -, -, -, rfl, rfl⟩ :=
    changed
  exact ⟨⟨running, signed⟩, valid, ranked, adminInfo, stored, rfl, rfl⟩

theorem deactivateAdmin_eq_ok {caller adminAddress : Address} :
    deactivateAdmin strkey env storage caller adminAddress = .ok after ↔
      OpenCall env storage caller ∧ ValidAdminAddress strkey env adminAddress ∧
        ∃ adminInfo callerRole, storage.adminInfo adminAddress = some adminInfo ∧
          storage.roleOf caller = some callerRole ∧ adminInfo.role < callerRole ∧
            adminInfo.active = true ∧
              after = { storage with
                adminInfo := Function.update storage.adminInfo adminAddress
                  (some { adminInfo with active := false }) } := by
  simp only [deactivateAdmin, OpenCall, Outcome.bind_eq_ok, Pausable.requireNotPaused_eq_ok,
    requireAuth_eq_ok, requireValidAdminAddress_eq_ok, Outcome.unwrapOr_eq_ok, getRole_eq_ok,
    Outcome.rejectIf_eq_ok, Outcome.pure_eq_ok, not_le]
  grind

theorem reactivateAdmin_eq_ok {caller adminAddress : Address} :
    reactivateAdmin strkey env storage caller adminAddress = .ok after ↔
      OpenCall env storage caller ∧ ValidAdminAddress strkey env adminAddress ∧
        ∃ adminInfo callerRole, storage.adminInfo adminAddress = some adminInfo ∧
          storage.roleOf caller = some callerRole ∧ adminInfo.role ≤ callerRole ∧
            adminInfo.active = false ∧
              after = { storage with
                adminInfo := Function.update storage.adminInfo adminAddress
                  (some { adminInfo with active := true }) } := by
  simp only [reactivateAdmin, OpenCall, Outcome.bind_eq_ok, Pausable.requireNotPaused_eq_ok,
    requireAuth_eq_ok, requireValidAdminAddress_eq_ok, Outcome.unwrapOr_eq_ok, getRole_eq_ok,
    Outcome.rejectIf_eq_ok, Outcome.pure_eq_ok, not_lt]
  grind

theorem suspendAdmin_eq_ok {caller admin : Address} {untilTs : Nat} :
    suspendAdmin env storage caller admin untilTs = .ok after ↔
      OpenCall env storage caller ∧ env.timestamp < untilTs ∧
        storage.minAdmins ≤ effectiveActive storage admin env.timestamp ∧
          ∃ adminInfo callerRole, storage.adminInfo admin = some adminInfo ∧
            storage.roleOf caller = some callerRole ∧ adminInfo.role ≤ callerRole ∧
              adminInfo.active = true ∧
                after = { storage with
                  adminInfo := Function.update storage.adminInfo admin
                    (some { adminInfo with suspendedUntil := untilTs }) } := by
  simp only [suspendAdmin, OpenCall, Outcome.bind_eq_ok, Pausable.requireNotPaused_eq_ok,
    requireAuth_eq_ok, Outcome.unwrapOr_eq_ok, Outcome.rejectIf_eq_ok, Outcome.pure_eq_ok,
    not_lt, not_le, Storage.roleOf, Option.map_eq_some_iff]
  grind

theorem transferOwnership_eq_ok {caller newOwner : Address} :
    transferOwnership strkey env storage caller newOwner = .ok after ↔
      OpenCall env storage caller ∧ ValidAdminAddress strkey env newOwner ∧
        storage.owner = some caller ∧ newOwner ≠ caller ∧
          (∃ adminInfo, storage.adminInfo newOwner = some adminInfo ∧
            adminInfo.role = .superAdmin ∧ adminInfo.active = true) ∧
            after = { storage with pendingOwner := some newOwner } := by
  simp only [transferOwnership, OpenCall, Outcome.bind_eq_ok, Pausable.requireNotPaused_eq_ok,
    requireAuth_eq_ok, requireValidAdminAddress_eq_ok, Outcome.unwrapOr_eq_ok,
    Outcome.rejectIf_eq_ok, Outcome.pure_eq_ok]
  grind

theorem acceptOwnership_eq_ok {caller : Address} :
    acceptOwnership env storage caller = .ok after ↔
      OpenCall env storage caller ∧ storage.pendingOwner = some caller ∧
        storage.owner.isSome ∧ after = { storage with
          owner := some caller
          pendingOwner := none } := by
  simp only [acceptOwnership, OpenCall, Outcome.bind_eq_ok, Pausable.requireNotPaused_eq_ok,
    requireAuth_eq_ok, Outcome.unwrapOr_eq_ok, Outcome.rejectIf_eq_ok, Outcome.pure_eq_ok,
    Option.isSome_iff_exists]
  grind

@[simp] theorem requireAdminAuth_eq_ok {admin : Address} {result : Unit} :
    requireAdminAuth env storage admin = .ok result ↔
      storage.roleOf admin = some .superAdmin ∧ env.authorized admin = true := by
  simp [requireAdminAuth]

theorem proposeAction_authorized {pause : Pausable.Storage} {caller : Address}
    {action : Pausable.PauseAction} {result : Pausable.Storage × Option Nat}
    (proposed : Pausable.proposeAction env pause caller action = .ok result) :
    env.authorized caller = true := by
  simp only [Pausable.proposeAction, Pausable.requirePauseSigner, Outcome.bind_eq_ok,
    requireAuth_eq_ok] at proposed
  obtain ⟨-, ⟨-, signed, -⟩, -⟩ := proposed
  exact signed

theorem requestAction_authorized {caller : Address} {action : Pausable.PauseAction}
    {paused : Bool} {result : Pausable.Storage × Option Nat}
    (requested : requestAction env storage caller action paused = .ok result) :
    env.authorized caller = true := by
  unfold requestAction at requested
  split at requested
  · simp only [Outcome.bind_eq_ok, requireAdminAuth_eq_ok] at requested
    obtain ⟨-, ⟨-, signed⟩, -⟩ := requested
    exact signed
  · exact proposeAction_authorized requested

theorem invokePause_authorized {call : Pausable.Call} {entries : Pausable.Storage}
    {caller : Address} (invoked : invokePause strkey env storage call = .ok entries)
    (named : pauseCaller call = some caller) : env.authorized caller = true := by
  cases call with
  | pause other =>
      obtain rfl : other = caller := by simpa [pauseCaller] using named
      obtain ⟨result, requested, -⟩ := Outcome.map_eq_ok.mp invoked
      exact requestAction_authorized requested
  | unpause other =>
      obtain rfl : other = caller := by simpa [pauseCaller] using named
      obtain ⟨result, requested, -⟩ := Outcome.map_eq_ok.mp invoked
      exact requestAction_authorized requested
  | setPauseSigner other signer enabled =>
      obtain rfl : other = caller := by simpa [pauseCaller] using named
      simp only [invokePause, setPauseSigner, Outcome.bind_eq_ok, requireAdminAuth_eq_ok]
        at invoked
      obtain ⟨-, ⟨-, signed⟩, -⟩ := invoked
      exact signed
  | setPauseThreshold other threshold =>
      obtain rfl : other = caller := by simpa [pauseCaller] using named
      simp only [invokePause, setPauseThreshold, Outcome.bind_eq_ok, requireAdminAuth_eq_ok]
        at invoked
      obtain ⟨-, ⟨-, signed⟩, -⟩ := invoked
      exact signed
  | approvePauseProposal other proposalId =>
      obtain rfl : other = caller := by simpa [pauseCaller] using named
      simp only [invokePause, Pausable.approvePauseProposal, Pausable.requirePauseSigner,
        Outcome.bind_eq_ok, requireAuth_eq_ok] at invoked
      obtain ⟨-, ⟨-, signed, -⟩, -⟩ := invoked
      exact signed
  | executePauseProposal proposalId => simp [pauseCaller] at named

end Operations

section Change

/-- What a successful call does, and which comparison of roles admitted it. -/
inductive AdminChange (strkey : Address → String) (env : Env) (before after : Storage) :
    Call → Prop where
  | initialized {superAdmin : Address} {minAdmins maxAdmins : Nat}
      (fresh : before.initialized = false) (positive : 0 < minAdmins)
      (signed : env.authorized superAdmin = true)
      (stored : after = { before with
        initialized := true
        minAdmins
        maxAdmins
        pause := before.pause.reset
        adminInfo := Function.update before.adminInfo superAdmin
          (some (newAdminInfo env superAdmin superAdmin .superAdmin))
        adminList := [superAdmin]
        roleAdmins := fun role => if role = .superAdmin then [superAdmin] else []
        owner := some superAdmin }) :
      AdminChange strkey env before after (.initializeAdmin superAdmin minAdmins maxAdmins)
  | added {caller newAdmin : Address} {role : AdminRole}
      (admitted : OpenCall env before caller)
      (ranked : hasRoleAtLeast env before caller (getRequiredRoleToAssign role) = true)
      (absent : before.adminInfo newAdmin = none)
      (stored : after = { before with
        adminInfo := Function.update before.adminInfo newAdmin
          (some (newAdminInfo env newAdmin caller role))
        adminList := before.adminList ++ [newAdmin]
        roleAdmins := Function.update before.roleAdmins role
          (before.roleAdmins role ++ [newAdmin]) }) :
      AdminChange strkey env before after (.addAdmin caller newAdmin role)
  | removed {caller adminToRemove : Address} {adminInfo : AdminInfo} {callerRole : AdminRole}
      (admitted : OpenCall env before caller)
      (found : before.adminInfo adminToRemove = some adminInfo)
      (ranked : before.roleOf caller = some callerRole)
      (outranks : adminInfo.role < callerRole)
      (stored : after = { before with
        adminInfo := Function.update before.adminInfo adminToRemove none
        adminList := before.adminList.erase adminToRemove
        roleAdmins := Function.update before.roleAdmins adminInfo.role
          ((before.roleAdmins adminInfo.role).erase adminToRemove) }) :
      AdminChange strkey env before after (.removeAdmin caller adminToRemove)
  | roleUpdated {caller adminAddress : Address} {newRole : AdminRole} {adminInfo : AdminInfo}
      (admitted : OpenCall env before caller)
      (ranked : hasRoleAtLeast env before caller (getRequiredRoleToAssign newRole) = true)
      (found : before.adminInfo adminAddress = some adminInfo)
      (stored : after = { before with
        adminInfo := Function.update before.adminInfo adminAddress
          (some { adminInfo with
            role := newRole
            assignedAt := env.timestamp
            assignedBy := caller })
        roleAdmins := moveAdmin before.roleAdmins adminAddress adminInfo.role newRole }) :
      AdminChange strkey env before after (.updateAdminRole caller adminAddress newRole)
  | deactivated {caller adminAddress : Address} {adminInfo : AdminInfo}
      {callerRole : AdminRole}
      (admitted : OpenCall env before caller)
      (found : before.adminInfo adminAddress = some adminInfo)
      (ranked : before.roleOf caller = some callerRole)
      (outranks : adminInfo.role < callerRole)
      (stored : after = { before with
        adminInfo := Function.update before.adminInfo adminAddress
          (some { adminInfo with active := false }) }) :
      AdminChange strkey env before after (.deactivateAdmin caller adminAddress)
  | reactivated {caller adminAddress : Address} {adminInfo : AdminInfo}
      {callerRole : AdminRole}
      (admitted : OpenCall env before caller)
      (found : before.adminInfo adminAddress = some adminInfo)
      (ranked : before.roleOf caller = some callerRole)
      (reaches : adminInfo.role ≤ callerRole)
      (stored : after = { before with
        adminInfo := Function.update before.adminInfo adminAddress
          (some { adminInfo with active := true }) }) :
      AdminChange strkey env before after (.reactivateAdmin caller adminAddress)
  | suspended {caller admin : Address} {untilTs : Nat} {adminInfo : AdminInfo}
      {callerRole : AdminRole}
      (admitted : OpenCall env before caller)
      (found : before.adminInfo admin = some adminInfo)
      (ranked : before.roleOf caller = some callerRole)
      (reaches : adminInfo.role ≤ callerRole)
      (stored : after = { before with
        adminInfo := Function.update before.adminInfo admin
          (some { adminInfo with suspendedUntil := untilTs }) }) :
      AdminChange strkey env before after (.suspendAdmin caller admin untilTs)
  | offered {caller newOwner : Address} {adminInfo : AdminInfo}
      (admitted : OpenCall env before caller)
      (owns : before.owner = some caller)
      (found : before.adminInfo newOwner = some adminInfo)
      (top : adminInfo.role = .superAdmin) (active : adminInfo.active = true)
      (stored : after = { before with pendingOwner := some newOwner }) :
      AdminChange strkey env before after (.transferOwnership caller newOwner)
  | accepted {caller : Address}
      (admitted : OpenCall env before caller)
      (pending : before.pendingOwner = some caller)
      (stored : after = { before with
        owner := some caller
        pendingOwner := none }) :
      AdminChange strkey env before after (.acceptOwnership caller)
  | paused {call : Pausable.Call} {pause : Pausable.Storage}
      (invoked : invokePause strkey env before call = .ok pause)
      (stored : after = { before with pause }) :
      AdminChange strkey env before after (.pausable call)

theorem step_change {call : Call} (stepped : Step strkey before ⟨env, call⟩ after) :
    AdminChange strkey env before after call := by
  simp only [Step, invoke] at stepped
  cases call with
  | initializeAdmin superAdmin minAdmins maxAdmins =>
      obtain ⟨fresh, positive, -, signed, stored⟩ := initializeAdmin_eq_ok.mp stepped
      exact .initialized fresh positive signed stored
  | addAdmin caller newAdmin role =>
      obtain ⟨⟨_, adminInfo⟩, added, rfl⟩ := Outcome.map_eq_ok.mp stepped
      obtain ⟨admitted, -, ranked, absent, -, rfl, stored⟩ := addAdmin_ok added
      exact .added admitted ranked absent stored
  | removeAdmin caller adminToRemove =>
      obtain ⟨admitted, -, adminInfo, callerRole, found, ranked, outranks, stored⟩ :=
        removeAdmin_eq_ok.mp stepped
      exact .removed admitted found ranked outranks stored
  | updateAdminRole caller adminAddress newRole =>
      obtain ⟨⟨_, updated⟩, changed, rfl⟩ := Outcome.map_eq_ok.mp stepped
      obtain ⟨admitted, -, ranked, adminInfo, found, rfl, stored⟩ := updateAdminRole_ok changed
      exact .roleUpdated admitted ranked found stored
  | deactivateAdmin caller adminAddress =>
      obtain ⟨admitted, -, adminInfo, callerRole, found, ranked, outranks, -, stored⟩ :=
        deactivateAdmin_eq_ok.mp stepped
      exact .deactivated admitted found ranked outranks stored
  | reactivateAdmin caller adminAddress =>
      obtain ⟨admitted, -, adminInfo, callerRole, found, ranked, reaches, -, stored⟩ :=
        reactivateAdmin_eq_ok.mp stepped
      exact .reactivated admitted found ranked reaches stored
  | suspendAdmin caller admin untilTs =>
      obtain ⟨admitted, -, -, adminInfo, callerRole, found, ranked, reaches, -, stored⟩ :=
        suspendAdmin_eq_ok.mp stepped
      exact .suspended admitted found ranked reaches stored
  | transferOwnership caller newOwner =>
      obtain ⟨admitted, -, owns, -, ⟨adminInfo, found, top, active⟩, stored⟩ :=
        transferOwnership_eq_ok.mp stepped
      exact .offered admitted owns found top active stored
  | acceptOwnership caller =>
      obtain ⟨admitted, pending, -, stored⟩ := acceptOwnership_eq_ok.mp stepped
      exact .accepted admitted pending stored
  | pausable call =>
      obtain ⟨pause, invoked, stored⟩ := Outcome.bind_eq_ok.mp stepped
      exact .paused invoked (Outcome.pure_eq_ok.mp stored)

/-- The author that a successful call names authorised it. -/
theorem step_authorized {call : Call} {caller : Address}
    (stepped : Step strkey before ⟨env, call⟩ after) (named : call.caller = some caller) :
    env.authorized caller = true := by
  cases step_change stepped with
  | initialized _ _ signed _ => exact Option.some.inj named ▸ signed
  | added admitted _ _ _ | removed admitted _ _ _ _ | roleUpdated admitted _ _ _
  | deactivated admitted _ _ _ _ | reactivated admitted _ _ _ _ | suspended admitted _ _ _ _
  | offered admitted _ _ _ _ _ | accepted admitted _ _ =>
      exact Option.some.inj named ▸ admitted.2
  | paused invoked _ => exact invokePause_authorized invoked named

/-- Before the initialisation nobody is admin, the floor of super admins is never
zero, and the list names every admin. -/
structure Sound (storage : Storage) : Prop where
  fresh : storage.initialized = false → ∀ address, storage.adminInfo address = none
  positive : 0 < storage.minAdmins
  listed : ∀ address, (storage.adminInfo address).isSome → address ∈ storage.adminList

theorem Sound.deployed : Sound .deployed where
  fresh := fun _ _ => rfl
  positive := by decide
  listed := by simp [Storage.deployed]

/-- An operation on a stored admin happens after the initialisation. -/
theorem Sound.initialized_of_info (sound : Sound before) {address : Address}
    {adminInfo : AdminInfo} (stored : before.adminInfo address = some adminInfo) :
    before.initialized = true := by
  cases started : before.initialized with
  | true => rfl
  | false => simp [sound.fresh started address] at stored

theorem hasRoleAtLeast_info {caller : Address} {role : AdminRole}
    (ranked : hasRoleAtLeast env storage caller role = true) :
    ∃ adminInfo, storage.adminInfo caller = some adminInfo ∧
      adminInfo.effective env.timestamp = true ∧ role ≤ adminInfo.role := by
  simpa [hasRoleAtLeast, Option.any_eq_true] using ranked

/-- Overwriting the entry of a stored admin keeps the entries sound. -/
theorem Sound.of_rewrite (sound : Sound before) {address : Address}
    {adminInfo updated : AdminInfo} (found : before.adminInfo address = some adminInfo)
    (infos : after.adminInfo = Function.update before.adminInfo address (some updated))
    (started : after.initialized = before.initialized)
    (floor : after.minAdmins = before.minAdmins) (list : after.adminList = before.adminList) :
    Sound after where
  fresh := by simp [started, sound.initialized_of_info found]
  positive := floor ▸ sound.positive
  listed := by
    intro other present
    rw [infos] at present
    rw [list]
    by_cases same : other = address
    · exact sound.listed other (by simp [same, found])
    · exact sound.listed other (by simpa [Function.update_of_ne same] using present)

theorem Sound.step {label : Label} (sound : Sound before)
    (stepped : Step strkey before label after) : Sound after := by
  obtain ⟨env, call⟩ := label
  cases step_change stepped with
  | @initialized superAdmin _ _ fresh positive _ stored =>
      refine stored ▸ ⟨by simp, positive, fun address present => ?_⟩
      by_contra other
      have different : address ≠ superAdmin := by simpa using other
      simp [Function.update_of_ne different, sound.fresh fresh address] at present
  | @added _ newAdmin _ _ ranked _ stored =>
      obtain ⟨adminInfo, found, -⟩ := hasRoleAtLeast_info ranked
      have started := sound.initialized_of_info found
      refine stored ▸ ⟨by simp [started], sound.positive, fun address present => ?_⟩
      by_cases same : address = newAdmin
      · simp [same]
      · have earlier := sound.listed address
          (by simpa [Function.update_of_ne same] using present)
        exact List.mem_append_left _ earlier
  | @removed _ adminToRemove _ _ _ found _ _ stored =>
      have started := sound.initialized_of_info found
      refine stored ▸ ⟨by simp [started], sound.positive, fun address present => ?_⟩
      by_cases same : address = adminToRemove
      · simp [same] at present
      · have earlier := sound.listed address
          (by simpa [Function.update_of_ne same] using present)
        exact (List.mem_erase_of_ne same).mpr earlier
  | roleUpdated _ _ found stored | deactivated _ found _ _ stored
  | reactivated _ found _ _ stored | suspended _ found _ _ stored =>
      exact stored ▸ sound.of_rewrite found rfl rfl rfl rfl
  | offered _ _ _ _ _ stored | accepted _ _ stored | paused _ stored =>
      exact stored ▸ ⟨sound.fresh, sound.positive, sound.listed⟩

/-- Every state that the deployed contract reaches is sound. -/
theorem Sound.of_run {trace : List (Transition.Event Storage Label)}
    (run : Transition.Run (Step strkey) .deployed trace after) : Sound after :=
  run.invariant Sound .deployed fun _ sound stepped => sound.step stepped

end Change

end Admin
