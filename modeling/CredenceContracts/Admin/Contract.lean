import CredenceContracts.Library.Run
import CredenceContracts.Soroban.Pausable
import Mathlib.Order.Basic

/-!
# The admin contract

Admins of three ranks add, remove, promote, deactivate and suspend each other,
and an owner hands the ownership over in two steps.  Every entry point that
writes is here, in the order of its own checks.  The functions that only read
and the published events are left out.
-/

namespace Admin

open Soroban MachineInt
open Outcome (rejectIf unwrapOr)

/-- Admin role hierarchy levels. -/
inductive AdminRole where
  | operator
  | admin
  | superAdmin
  deriving DecidableEq, Repr

/-- The discriminant by which roles are compared. -/
def AdminRole.level : AdminRole → Nat
  | .operator => 1
  | .admin => 2
  | .superAdmin => 3

theorem AdminRole.level_injective : Function.Injective AdminRole.level := by
  intro first second same
  cases first <;> cases second <;> simp_all [AdminRole.level]

instance : LinearOrder AdminRole :=
  LinearOrder.lift' AdminRole.level AdminRole.level_injective

@[simp] theorem AdminRole.le_superAdmin (role : AdminRole) : role ≤ .superAdmin := by
  cases role <;> decide

/-- What is stored for an admin. -/
structure AdminInfo where
  address : Address
  role : AdminRole
  assignedAt : Nat
  assignedBy : Address
  active : Bool
  /-- The admin is treated as inactive before this time. -/
  suspendedUntil : Nat
  deriving DecidableEq, Repr

/-- The stored entries. -/
structure Storage where
  adminList : List Address
  adminInfo : Address → Option AdminInfo
  roleAdmins : AdminRole → List Address
  initialized : Bool
  minAdmins : Nat
  maxAdmins : Nat
  pause : Pausable.Storage
  owner : Option Address
  pendingOwner : Option Address

/-- A contract in which nothing was stored yet: every read yields its default. -/
def Storage.deployed : Storage where
  adminList := []
  adminInfo := fun _ => none
  roleAdmins := fun _ => []
  initialized := false
  minAdmins := 1
  maxAdmins := 100
  pause := .deployed
  owner := none
  pendingOwner := none

/-- The text form of the all-zero public key, which is no account's. -/
def invalidAddressSentinel : String :=
  "GAAAAAAAAAAAAAAAAAAAAAAAAAAAAAAAAAAAAAAAAAAAAAAAAAAAAWHF"

section Helpers

variable (env : Env) (storage : Storage)

def getRole (address : Address) : Outcome AdminRole := do
  let adminInfo ← unwrapOr (storage.adminInfo address) (.contract .notAdmin)
  return adminInfo.role

/-- The minimum role required to assign a role. -/
def getRequiredRoleToAssign : AdminRole → AdminRole
  | .superAdmin => .superAdmin
  | .admin => .superAdmin
  | .operator => .admin

/-- Reject the sentinel and the contract's own address. -/
def requireValidAdminAddress (strkey : Address → String) (address : Address) :
    Outcome Unit := do
  rejectIf (strkey address = invalidAddressSentinel) (.contract .invalidAdminAddress)
  rejectIf (address = env.currentContractAddress) (.contract .invalidAdminAddress)

/-- The admin is active and not suspended at this time. -/
def AdminInfo.effective (adminInfo : AdminInfo) (now : Nat) : Bool :=
  adminInfo.active && decide (now ≥ adminInfo.suspendedUntil)

def hasRoleAtLeast (address : Address) (requiredRole : AdminRole) : Bool :=
  (storage.adminInfo address).any fun adminInfo =>
    adminInfo.effective env.timestamp && decide (adminInfo.role ≥ requiredRole)

def requireRoleAtLeast (caller : Address) (requiredRole : AdminRole) : Outcome Unit := do
  let adminInfo ← unwrapOr (storage.adminInfo caller) (.contract .notAdmin)
  rejectIf (¬(adminInfo.effective env.timestamp = true ∧ adminInfo.role ≥ requiredRole))
    (.contract .notAdmin)

/-- How many of the listed addresses other than one are effective admins. -/
def effectiveActive (excluded : Address) (now : Nat) : Nat :=
  storage.adminList.countP fun address =>
    decide (address ≠ excluded) && (storage.adminInfo address).any (·.effective now)

end Helpers

def initializeAdmin (env : Env) (storage : Storage) (superAdmin : Address)
    (minAdmins maxAdmins : Nat) : Outcome Storage := do
  rejectIf (storage.initialized = true) (.contract .alreadyInitialized)
  rejectIf (minAdmins = 0) (.contract .invalidPauseAction)
  rejectIf (minAdmins > maxAdmins) (.contract .invalidPauseAction)
  requireAuth env superAdmin
  let adminInfo : AdminInfo := {
    address := superAdmin
    role := .superAdmin
    assignedAt := env.timestamp
    assignedBy := superAdmin
    active := true
    suspendedUntil := 0 }
  return { storage with
    initialized := true
    minAdmins
    maxAdmins
    pause := storage.pause.reset
    adminInfo := Function.update storage.adminInfo superAdmin (some adminInfo)
    adminList := [superAdmin]
    roleAdmins := fun role => if role = .superAdmin then [superAdmin] else []
    owner := some superAdmin }

section Members

variable (strkey : Address → String) (env : Env) (storage : Storage)

def addAdmin (caller newAdmin : Address) (role : AdminRole) :
    Outcome (Storage × AdminInfo) := do
  Pausable.requireNotPaused storage.pause
  requireAuth env caller
  requireValidAdminAddress env strkey newAdmin
  requireRoleAtLeast env storage caller (getRequiredRoleToAssign role)
  rejectIf ((storage.adminInfo newAdmin).isSome) (.contract .alreadyActive)
  let callerRole ← getRole storage caller
  rejectIf (caller = newAdmin ∧ callerRole ≥ role) (.contract .notAdmin)
  rejectIf (storage.adminList.length ≥ storage.maxAdmins) (.contract .thresholdExceedsSigners)
  let adminInfo : AdminInfo := {
    address := newAdmin
    role
    assignedAt := env.timestamp
    assignedBy := caller
    active := true
    suspendedUntil := 0 }
  return ({ storage with
    adminInfo := Function.update storage.adminInfo newAdmin (some adminInfo)
    adminList := storage.adminList ++ [newAdmin]
    roleAdmins := Function.update storage.roleAdmins role
      (storage.roleAdmins role ++ [newAdmin]) }, adminInfo)

def removeAdmin (caller adminToRemove : Address) : Outcome Storage := do
  Pausable.requireNotPaused storage.pause
  requireAuth env caller
  requireValidAdminAddress env strkey adminToRemove
  let adminInfo ← unwrapOr (storage.adminInfo adminToRemove) (.contract .notAdmin)
  let callerRole ← getRole storage caller
  rejectIf (callerRole ≤ adminInfo.role) (.contract .notAdmin)
  rejectIf (adminInfo.role = .superAdmin ∧
    (storage.roleAdmins adminInfo.role).length ≤ storage.minAdmins)
    (.contract .invalidPauseAction)
  return { storage with
    adminInfo := Function.update storage.adminInfo adminToRemove none
    adminList := storage.adminList.erase adminToRemove
    roleAdmins := Function.update storage.roleAdmins adminInfo.role
      ((storage.roleAdmins adminInfo.role).erase adminToRemove) }

/-- Only the new role is compared with the caller's, never the old one. -/
def updateAdminRole (caller adminAddress : Address) (newRole : AdminRole) :
    Outcome (Storage × AdminInfo) := do
  Pausable.requireNotPaused storage.pause
  requireAuth env caller
  requireValidAdminAddress env strkey adminAddress
  let adminInfo ← unwrapOr (storage.adminInfo adminAddress) (.contract .notAdmin)
  requireRoleAtLeast env storage caller (getRequiredRoleToAssign newRole)
  let callerRole ← getRole storage caller
  rejectIf (caller = adminAddress ∧ callerRole ≥ newRole) (.contract .notAdmin)
  let oldRole := adminInfo.role
  let removed := Function.update storage.roleAdmins oldRole
    ((storage.roleAdmins oldRole).erase adminAddress)
  let updated : AdminInfo := { adminInfo with
    role := newRole
    assignedAt := env.timestamp
    assignedBy := caller }
  return ({ storage with
    roleAdmins := Function.update removed newRole (removed newRole ++ [adminAddress])
    adminInfo := Function.update storage.adminInfo adminAddress (some updated) }, updated)

def deactivateAdmin (caller adminAddress : Address) : Outcome Storage := do
  Pausable.requireNotPaused storage.pause
  requireAuth env caller
  requireValidAdminAddress env strkey adminAddress
  let adminInfo ← unwrapOr (storage.adminInfo adminAddress) (.contract .notAdmin)
  let callerRole ← getRole storage caller
  rejectIf (callerRole ≤ adminInfo.role) (.contract .notAdmin)
  rejectIf (adminInfo.active = false) (.contract .alreadyDeactivated)
  let deactivated : AdminInfo := { adminInfo with active := false }
  return { storage with
    adminInfo := Function.update storage.adminInfo adminAddress (some deactivated) }

/-- Equal rank is enough here, so an admin may reactivate itself. -/
def reactivateAdmin (caller adminAddress : Address) : Outcome Storage := do
  Pausable.requireNotPaused storage.pause
  requireAuth env caller
  requireValidAdminAddress env strkey adminAddress
  let adminInfo ← unwrapOr (storage.adminInfo adminAddress) (.contract .notAdmin)
  let callerRole ← getRole storage caller
  rejectIf (callerRole < adminInfo.role) (.contract .notAdmin)
  rejectIf (adminInfo.active = true) (.contract .alreadyActive)
  let reactivated : AdminInfo := { adminInfo with active := true }
  return { storage with
    adminInfo := Function.update storage.adminInfo adminAddress (some reactivated) }

def suspendAdmin (caller admin : Address) (untilTs : Nat) : Outcome Storage := do
  Pausable.requireNotPaused storage.pause
  requireAuth env caller
  rejectIf (untilTs ≤ env.timestamp) (.contract .adminSuspended)
  let adminInfo ← unwrapOr (storage.adminInfo admin) (.contract .notAdmin)
  rejectIf (adminInfo.active = false) (.contract .alreadyDeactivated)
  let callerInfo ← unwrapOr (storage.adminInfo caller) (.contract .notAdmin)
  rejectIf (callerInfo.role < adminInfo.role) (.contract .notAdmin)
  rejectIf (effectiveActive storage admin env.timestamp < storage.minAdmins)
    (.contract .invalidPauseAction)
  let suspended : AdminInfo := { adminInfo with suspendedUntil := untilTs }
  return { storage with
    adminInfo := Function.update storage.adminInfo admin (some suspended) }

end Members

section Ownership

variable (strkey : Address → String) (env : Env) (storage : Storage)

def transferOwnership (caller newOwner : Address) : Outcome Storage := do
  Pausable.requireNotPaused storage.pause
  requireAuth env caller
  requireValidAdminAddress env strkey newOwner
  let currentOwner ← unwrapOr storage.owner (.contract .notInitialized)
  rejectIf (caller ≠ currentOwner) (.contract .notAdmin)
  rejectIf (newOwner = currentOwner) (.contract .invalidPauseAction)
  let newOwnerInfo ← unwrapOr (storage.adminInfo newOwner) (.contract .notAdmin)
  rejectIf (newOwnerInfo.role ≠ .superAdmin) (.contract .notAdmin)
  rejectIf (newOwnerInfo.active = false) (.contract .alreadyDeactivated)
  return { storage with pendingOwner := some newOwner }

def acceptOwnership (caller : Address) : Outcome Storage := do
  Pausable.requireNotPaused storage.pause
  requireAuth env caller
  let pendingOwner ← unwrapOr storage.pendingOwner (.contract .notInitialized)
  rejectIf (caller ≠ pendingOwner) (.contract .notAdmin)
  let _previousOwner ← unwrapOr storage.owner (.contract .notInitialized)
  return { storage with
    owner := some pendingOwner
    pendingOwner := none }

end Ownership

section Pausing

variable (strkey : Address → String) (env : Env) (storage : Storage)

/-- The pause module's own check of a super admin. -/
def requireAdminAuth (admin : Address) : Outcome Unit := do
  let callerRole ← getRole storage admin
  rejectIf (callerRole ≠ .superAdmin) (.contract .notAdmin)
  requireAuth env admin

/-- Set the flag at once while no threshold is set, else propose to. -/
def requestAction (caller : Address) (action : Pausable.PauseAction) (paused : Bool) :
    Outcome (Pausable.Storage × Option Nat) :=
  if storage.pause.pauseThreshold = 0 then do
    requireAdminAuth env storage caller
    return ({ storage.pause with paused }, none)
  else
    Pausable.proposeAction env storage.pause caller action

def pause (caller : Address) : Outcome (Pausable.Storage × Option Nat) :=
  requestAction env storage caller .pause true

def unpause (caller : Address) : Outcome (Pausable.Storage × Option Nat) :=
  requestAction env storage caller .unpause false

/-- The checked caller stands in for the stored admin of the shared entry. -/
def setPauseSigner (admin signer : Address) (enabled : Bool) : Outcome Pausable.Storage := do
  requireAdminAuth env storage admin
  requireValidAdminAddress env strkey signer
  Pausable.setPauseSigner env (some admin) storage.pause admin signer enabled

def setPauseThreshold (admin : Address) (threshold : Nat) : Outcome Pausable.Storage := do
  requireAdminAuth env storage admin
  Pausable.setPauseThreshold env (some admin) storage.pause admin threshold

/-- The entries of the pause module after one of its calls. -/
def invokePause : Pausable.Call → Outcome Pausable.Storage
  | .pause caller => Prod.fst <$> pause env storage caller
  | .unpause caller => Prod.fst <$> unpause env storage caller
  | .setPauseSigner admin signer enabled =>
      setPauseSigner strkey env storage admin signer enabled
  | .setPauseThreshold admin threshold => setPauseThreshold env storage admin threshold
  | .approvePauseProposal signer proposalId =>
      Pausable.approvePauseProposal env storage.pause signer proposalId
  | .executePauseProposal proposalId => Pausable.executePauseProposal storage.pause proposalId

end Pausing

/-- The entry points that write. -/
inductive Call where
  | initializeAdmin (superAdmin : Address) (minAdmins maxAdmins : Nat)
  | addAdmin (caller newAdmin : Address) (role : AdminRole)
  | removeAdmin (caller adminToRemove : Address)
  | updateAdminRole (caller adminAddress : Address) (newRole : AdminRole)
  | deactivateAdmin (caller adminAddress : Address)
  | reactivateAdmin (caller adminAddress : Address)
  | suspendAdmin (caller admin : Address) (untilTs : Nat)
  | transferOwnership (caller newOwner : Address)
  | acceptOwnership (caller : Address)
  | pausable (call : Pausable.Call)

/-- The address a call of the pause module names as its author. -/
def pauseCaller : Pausable.Call → Option Address
  | .pause caller => some caller
  | .unpause caller => some caller
  | .setPauseSigner admin _ _ => some admin
  | .setPauseThreshold admin _ => some admin
  | .approvePauseProposal signer _ => some signer
  | .executePauseProposal _ => none

/-- The address a call names as its author, where it names one. -/
def Call.caller : Call → Option Address
  | .initializeAdmin superAdmin _ _ => some superAdmin
  | .addAdmin caller _ _ => some caller
  | .removeAdmin caller _ => some caller
  | .updateAdminRole caller _ _ => some caller
  | .deactivateAdmin caller _ => some caller
  | .reactivateAdmin caller _ => some caller
  | .suspendAdmin caller _ _ => some caller
  | .transferOwnership caller _ => some caller
  | .acceptOwnership caller => some caller
  | .pausable call => pauseCaller call

/-- The entries after an entry point. -/
def invoke (strkey : Address → String) (env : Env) (storage : Storage) :
    Call → Outcome Storage
  | .initializeAdmin superAdmin minAdmins maxAdmins =>
      initializeAdmin env storage superAdmin minAdmins maxAdmins
  | .addAdmin caller newAdmin role =>
      Prod.fst <$> addAdmin strkey env storage caller newAdmin role
  | .removeAdmin caller adminToRemove => removeAdmin strkey env storage caller adminToRemove
  | .updateAdminRole caller adminAddress newRole =>
      Prod.fst <$> updateAdminRole strkey env storage caller adminAddress newRole
  | .deactivateAdmin caller adminAddress =>
      deactivateAdmin strkey env storage caller adminAddress
  | .reactivateAdmin caller adminAddress =>
      reactivateAdmin strkey env storage caller adminAddress
  | .suspendAdmin caller admin untilTs => suspendAdmin env storage caller admin untilTs
  | .transferOwnership caller newOwner => transferOwnership strkey env storage caller newOwner
  | .acceptOwnership caller => acceptOwnership env storage caller
  | .pausable call => do
      let pause ← invokePause strkey env storage call
      return { storage with pause }

/-- One call and the environment it is made in. -/
structure Label where
  env : Env
  call : Call

/-- The successful steps; a failing call has no effect and is no step. -/
def Step (strkey : Address → String) (storage : Storage) (label : Label) (after : Storage) :
    Prop :=
  invoke strkey label.env storage label.call = .ok after

/-- The entries after a step, where there is one. -/
def next (strkey : Address → String) (storage : Storage) (label : Label) : Option Storage :=
  (invoke strkey label.env storage label.call).toOption

theorem step_of_next {strkey : Address → String} {storage after : Storage} {label : Label}
    (followed : next strkey storage label = some after) : Step strkey storage label after :=
  Outcome.toOption_eq_some.mp followed

end Admin
