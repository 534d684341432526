import CredenceContracts.Library.MachineInt
import CredenceContracts.Library.Run
import CredenceContracts.Soroban.Host
import Mathlib.Logic.Function.Basic
import Mathlib.Order.Basic

/-!
# Upgrade authorisation

An upgrade admin grants and revokes authorisations, upgraders approve proposals, and an
approved upgrade replaces the stored implementation.  The admin role moves in two steps.
The functions that only read an entry and the published events are left out.
-/

namespace UpgradeAuth

open Soroban MachineInt
open Outcome (rejectIf unwrapOr)

/-- Upgrade authorisation roles. -/
inductive UpgradeRole where
  | upgrader
  | proposer
  deriving DecidableEq, Repr

/-- The discriminant by which roles are compared. -/
def UpgradeRole.level : UpgradeRole → Nat
  | .upgrader => 2
  | .proposer => 1

/-- Upgrade authorisation status. -/
structure UpgradeAuthorization where
  authorizedAddress : Address
  role : UpgradeRole
  grantedAt : Nat
  /-- When the authorisation expires; zero is never. -/
  expiresAt : Nat
  grantedBy : Address
  active : Bool
  deriving DecidableEq, Repr

/-- Upgrade proposal status. -/
inductive UpgradeStatus where
  | pending
  | approved
  | executed
  | rejected
  | expired
  deriving DecidableEq, Repr

/-- Upgrade proposal for governance. -/
structure UpgradeProposal where
  proposalId : Nat
  proposer : Address
  newImplementation : Address
  upgradeData : Bytes
  createdAt : Nat
  status : UpgradeStatus
  approvals : List Address
  requiredApprovals : Nat
  deriving DecidableEq, Repr

/-- Record of an executed upgrade. -/
structure UpgradeRecord where
  oldImplementation : Address
  newImplementation : Address
  executedAt : Nat
  executedBy : Address
  proposalId : Option Nat
  deriving DecidableEq, Repr

/-- The stored entries. -/
structure Storage where
  auth : Address → Option UpgradeAuthorization
  authorizedUpgraders : List Address
  implementation : Option Address
  admin : Option Address
  pendingUpgradeAdmin : Option Address
  proposal : Nat → Option UpgradeProposal
  nextProposalId : Nat
  history : List UpgradeRecord

/-- The entries before anything was stored: every read yields its default. -/
def Storage.deployed : Storage where
  auth := fun _ => none
  authorizedUpgraders := []
  implementation := none
  admin := none
  pendingUpgradeAdmin := none
  proposal := fun _ => none
  nextProposalId := 1
  history := []

/-- The authorisation of an admin, which never expires. -/
def adminAuthorization (env : Env) (admin : Address) : UpgradeAuthorization where
  authorizedAddress := admin
  role := .upgrader
  grantedAt := env.timestamp
  expiresAt := 0
  grantedBy := admin
  active := true

def initializeUpgradeAuth (env : Env) (storage : Storage) (admin : Address) :
    Outcome Storage := do
  rejectIf (storage.admin.isSome) (.panicked "upgrade authorization already initialized")
  return { storage with
    admin := some admin
    auth := Function.update storage.auth admin (some (adminAuthorization env admin))
    authorizedUpgraders := [admin]
    nextProposalId := 1
    history := [] }

section Roles

variable (env : Env) (storage : Storage)

/-- The authorisation has an expiry, and it has passed. -/
def UpgradeAuthorization.hasExpired (authorization : UpgradeAuthorization) (now : Nat) : Prop :=
  authorization.expiresAt > 0 ∧ now > authorization.expiresAt

instance (authorization : UpgradeAuthorization) (now : Nat) :
    Decidable (authorization.hasExpired now) :=
  inferInstanceAs (Decidable (_ ∧ _))

def isAuthorizedUpgrader (address : Address) : Bool :=
  match storage.auth address with
  | some authorization =>
      if authorization.active = false then false
      else if authorization.hasExpired env.timestamp then false
      else decide (authorization.role = .upgrader)
  | none => false

def getUpgradeRole (address : Address) : Outcome UpgradeRole := do
  let authorization ← unwrapOr (storage.auth address) (.panicked "address not authorized")
  return authorization.role

def requireUpgradeAdmin (caller : Address) : Outcome Unit := do
  let upgradeAdmin ← unwrapOr storage.admin
    (.panicked "upgrade authorization not initialized")
  rejectIf (caller ≠ upgradeAdmin) (.panicked "not upgrade admin")

def requireUpgradeAuth (caller : Address) : Outcome Unit :=
  rejectIf (isAuthorizedUpgrader env storage caller = false) (.panicked "unauthorized upgrade")

/-- Authorise an address that has no authorisation yet, not even a revoked one. -/
def grantUpgradeAuth (admin address : Address) (role : UpgradeRole) (expiresAt : Nat) :
    Outcome Storage := do
  requireAuth env admin
  requireUpgradeAdmin storage admin
  rejectIf (storage.auth address).isSome (.panicked "address already authorized")
  if admin = address then
    let adminRole ← getUpgradeRole storage admin
    rejectIf (adminRole.level ≥ role.level)
      (.panicked "cannot grant equal or higher role to self")
  let authorization : UpgradeAuthorization := {
    authorizedAddress := address
    role
    grantedAt := env.timestamp
    expiresAt
    grantedBy := admin
    active := true }
  return { storage with
    auth := Function.update storage.auth address (some authorization)
    authorizedUpgraders :=
      if role = .upgrader then storage.authorizedUpgraders ++ [address]
      else storage.authorizedUpgraders }

/-- Deactivate an authorisation, which stays stored. -/
def revokeUpgradeAuth (admin address : Address) : Outcome Storage := do
  requireAuth env admin
  requireUpgradeAdmin storage admin
  let authorization ← unwrapOr (storage.auth address) (.panicked "address not authorized")
  rejectIf (authorization.role = .upgrader ∧ storage.authorizedUpgraders.length ≤ 1)
    (.panicked "cannot revoke last upgrade admin")
  return { storage with
    auth := Function.update storage.auth address (some { authorization with active := false })
    authorizedUpgraders :=
      if authorization.role = .upgrader then
        storage.authorizedUpgraders.filter fun upgrader => upgrader ≠ address
      else storage.authorizedUpgraders }

end Roles

section Upgrades

variable (env : Env) (storage : Storage)

def proposeUpgrade (proposer newImplementation : Address) (upgradeData : Bytes)
    (requiredApprovals : Nat) : Outcome (Storage × Nat) := do
  requireAuth env proposer
  let authorization ← unwrapOr (storage.auth proposer)
    (.panicked "not authorized to propose upgrade")
  rejectIf (authorization.active = false) (.panicked "authorization not active")
  rejectIf (authorization.hasExpired env.timestamp) (.panicked "authorization expired")
  let proposalId := storage.nextProposalId
  let nextId ← checkedU64 (proposalId + 1) (.panicked "proposal ID overflow")
  let proposal : UpgradeProposal := {
    proposalId
    proposer
    newImplementation
    upgradeData
    createdAt := env.timestamp
    status := .pending
    approvals := []
    requiredApprovals }
  return ({ storage with
    nextProposalId := nextId
    proposal := Function.update storage.proposal proposalId (some proposal) }, proposalId)

def approveUpgradeProposal (approver : Address) (proposalId : Nat) : Outcome Storage := do
  requireAuth env approver
  requireUpgradeAuth env storage approver
  let proposal ← unwrapOr (storage.proposal proposalId) (.panicked "proposal not found")
  rejectIf (proposal.status ≠ .pending) (.panicked "proposal not pending")
  rejectIf (approver ∈ proposal.approvals) (.panicked "already approved")
  let approvals := proposal.approvals ++ [approver]
  let status : UpgradeStatus :=
    if approvals.length ≥ proposal.requiredApprovals then .approved else proposal.status
  return { storage with
    proposal := Function.update storage.proposal proposalId
      (some { proposal with approvals, status }) }

/-- Mark the proposal of an upgrade, where there is one, as executed. -/
def markExecuted (newImplementation : Address) : Option Nat → Outcome Storage
  | none => return storage
  | some proposalId => do
      let proposal ← unwrapOr (storage.proposal proposalId) (.panicked "proposal not found")
      rejectIf (proposal.status ≠ .approved) (.panicked "proposal not approved")
      rejectIf (proposal.newImplementation ≠ newImplementation)
        (.panicked "implementation does not match proposal")
      return { storage with
        proposal := Function.update storage.proposal proposalId
          (some { proposal with status := .executed }) }

/-- Replace the implementation, by an upgrader and with or without a proposal. -/
def executeUpgrade (executor newImplementation : Address) (proposalId : Option Nat) :
    Outcome Storage := do
  requireAuth env executor
  requireUpgradeAuth env storage executor
  let marked ← markExecuted storage newImplementation proposalId
  let currentImpl ← unwrapOr marked.implementation (.panicked "no current implementation")
  rejectIf (newImplementation = currentImpl) (.panicked "same implementation")
  let record : UpgradeRecord := {
    oldImplementation := currentImpl
    newImplementation
    executedAt := env.timestamp
    executedBy := executor
    proposalId }
  return { marked with
    history := marked.history ++ [record]
    implementation := some newImplementation }

end Upgrades

section Transfer

variable (env : Env) (storage : Storage)

/-- The text that no address has. -/
def zeroStr : String :=
  "AAAAAAAAAAAAAAAAAAAAAAAAAAAAAAAAAAAAAAAAAAAA"

def transferUpgradeAdmin (strkey : Address → String) (admin newAdmin : Address) :
    Outcome Storage := do
  requireAuth env admin
  requireUpgradeAdmin storage admin
  rejectIf (admin = newAdmin) (.panicked "new admin must be different")
  rejectIf (strkey newAdmin = zeroStr) (.panicked "ZeroAddress")
  return { storage with pendingUpgradeAdmin := some newAdmin }

/-- Take the offered admin role, and become an upgrader where it is none yet. -/
def acceptUpgradeAdmin (caller : Address) : Outcome Storage := do
  requireAuth env caller
  let pendingAdmin ← unwrapOr storage.pendingUpgradeAdmin (.panicked "no pending upgrade admin")
  rejectIf (caller ≠ pendingAdmin) (.panicked "not pending upgrade admin")
  let _oldAdmin ← unwrapOr storage.admin (.panicked "no upgrade admin")
  return { storage with
    admin := some caller
    auth := Function.update storage.auth caller (some (adminAuthorization env caller))
    authorizedUpgraders :=
      if caller ∈ storage.authorizedUpgraders then storage.authorizedUpgraders
      else storage.authorizedUpgraders ++ [caller]
    pendingUpgradeAdmin := none }

end Transfer

/-- The calls of the module. -/
inductive Call where
  | initializeUpgradeAuth (admin : Address)
  | grantUpgradeAuth (admin address : Address) (role : UpgradeRole) (expiresAt : Nat)
  | revokeUpgradeAuth (admin address : Address)
  | proposeUpgrade (proposer newImplementation : Address) (upgradeData : Bytes)
      (requiredApprovals : Nat)
  | approveUpgradeProposal (approver : Address) (proposalId : Nat)
  | executeUpgrade (executor newImplementation : Address) (proposalId : Option Nat)
  | transferUpgradeAdmin (admin newAdmin : Address)
  | acceptUpgradeAdmin (caller : Address)

variable (strkey : Address → String)

/-- The entries after a call. -/
def invoke (env : Env) (storage : Storage) : Call → Outcome Storage
  | .initializeUpgradeAuth admin => initializeUpgradeAuth env storage admin
  | .grantUpgradeAuth admin address role expiresAt =>
      grantUpgradeAuth env storage admin address role expiresAt
  | .revokeUpgradeAuth admin address => revokeUpgradeAuth env storage admin address
  | .proposeUpgrade proposer newImplementation upgradeData requiredApprovals =>
      Prod.fst <$> proposeUpgrade env storage proposer newImplementation upgradeData
        requiredApprovals
  | .approveUpgradeProposal approver proposalId =>
      approveUpgradeProposal env storage approver proposalId
  | .executeUpgrade executor newImplementation proposalId =>
      executeUpgrade env storage executor newImplementation proposalId
  | .transferUpgradeAdmin admin newAdmin => transferUpgradeAdmin env storage strkey admin newAdmin
  | .acceptUpgradeAdmin caller => acceptUpgradeAdmin env storage caller

/-- One call and the environment it is made in. -/
structure Label where
  env : Env
  call : Call

/-- The successful steps; a failing call has no effect and is no step. -/
def Step (storage : Storage) (label : Label) (after : Storage) : Prop :=
  invoke strkey label.env storage label.call = .ok after

/-- The entries after a step, where there is one. -/
def next (storage : Storage) (label : Label) : Option Storage :=
  (invoke strkey label.env storage label.call).toOption

theorem step_of_next {strkey : Address → String} {storage after : Storage} {label : Label}
    (followed : next strkey storage label = some after) : Step strkey storage label after :=
  Outcome.toOption_eq_some.mp followed

end UpgradeAuth
