import CredenceContracts.Upgrade.Contract

/-!
# What the operations on upgrades do

When each operation succeeds, and what a successful step does to the authorisations, the
list of upgraders, the implementation and the history.
-/

namespace UpgradeAuth

open Soroban MachineInt Transition

variable {strkey : Address → String} {env : Env} {storage before after : Storage}
variable {admin address : Address}

@[simp] theorem requireUpgradeAdmin_eq_ok {caller : Address} {result : Unit} :
    requireUpgradeAdmin storage caller = .ok result ↔ storage.admin = some caller := by
  simp only [requireUpgradeAdmin, Outcome.bind_eq_ok, Outcome.unwrapOr_eq_ok,
    Outcome.rejectIf_eq_ok, ne_eq, Decidable.not_not]
  grind

@[simp] theorem requireUpgradeAuth_eq_ok {caller : Address} {result : Unit} :
    requireUpgradeAuth env storage caller = .ok result ↔
      isAuthorizedUpgrader env storage caller = true := by
  simp [requireUpgradeAuth]

theorem isAuthorizedUpgrader_iff :
    isAuthorizedUpgrader env storage address = true ↔
      ∃ authorization, storage.auth address = some authorization ∧
        authorization.active = true ∧ authorization.role = .upgrader ∧
          ¬authorization.hasExpired env.timestamp := by
  unfold isAuthorizedUpgrader
  cases storage.auth address with
  | none => simp
  | some authorization =>
      cases authorization.active <;> simp [and_comm]

theorem initializeUpgradeAuth_eq_ok :
    initializeUpgradeAuth env storage admin = .ok after ↔
      storage.admin = none ∧ after = { storage with
        admin := some admin
        auth := Function.update storage.auth admin (some (adminAuthorization env admin))
        authorizedUpgraders := [admin]
        nextProposalId := 1
        history := [] } := by
  simp only [initializeUpgradeAuth, Outcome.bind_eq_ok, Outcome.rejectIf_eq_ok,
    Outcome.pure_eq_ok, Bool.not_eq_true, Option.isSome_eq_false_iff, Option.isNone_iff_eq_none,
    exists_const]

/-- Only an address without authorisation is granted one, so never the admin. -/
theorem grantUpgradeAuth_eq_ok {role : UpgradeRole} {expiresAt : Nat} :
    grantUpgradeAuth env storage admin address role expiresAt = .ok after ↔
      env.authorized admin = true ∧ storage.admin = some admin ∧ storage.auth address = none ∧
        admin ≠ address ∧ after = { storage with
          auth := Function.update storage.auth address (some {
            authorizedAddress := address
            role
            grantedAt := env.timestamp
            expiresAt
            grantedBy := admin
            active := true })
          authorizedUpgraders :=
            if role = .upgrader then storage.authorizedUpgraders ++ [address]
            else storage.authorizedUpgraders } := by
  simp only [grantUpgradeAuth, Outcome.bind_eq_ok, requireAuth_eq_ok, requireUpgradeAdmin_eq_ok,
    Outcome.rejectIf_eq_ok, Bool.not_eq_true, Option.isSome_eq_false_iff,
    Option.isNone_iff_eq_none]
  by_cases same : admin = address
  · -- the admin's own role is read only where it has none
    subst same
    simp only [getUpgradeRole, if_true, Outcome.bind_eq_ok, Outcome.unwrapOr_eq_ok]
    grind
  · simp only [if_neg same, Outcome.pure_eq_ok]
    grind

theorem revokeUpgradeAuth_eq_ok :
    revokeUpgradeAuth env storage admin address = .ok after ↔
      env.authorized admin = true ∧ storage.admin = some admin ∧
        ∃ authorization, storage.auth address = some authorization ∧
          ¬(authorization.role = .upgrader ∧ storage.authorizedUpgraders.length ≤ 1) ∧
            after = { storage with
              auth := Function.update storage.auth address
                (some { authorization with active := false })
              authorizedUpgraders :=
                if authorization.role = .upgrader then
                  storage.authorizedUpgraders.filter fun upgrader => upgrader ≠ address
                else storage.authorizedUpgraders } := by
  simp only [revokeUpgradeAuth, Outcome.bind_eq_ok, requireAuth_eq_ok,
    requireUpgradeAdmin_eq_ok, Outcome.unwrapOr_eq_ok, Outcome.rejectIf_eq_ok,
    Outcome.pure_eq_ok]
  grind

theorem acceptUpgradeAdmin_eq_ok {caller : Address} :
    acceptUpgradeAdmin env storage caller = .ok after ↔
      env.authorized caller = true ∧ storage.pendingUpgradeAdmin = some caller ∧
        storage.admin.isSome = true ∧ after = { storage with
          admin := some caller
          auth := Function.update storage.auth caller (some (adminAuthorization env caller))
          authorizedUpgraders :=
            if caller ∈ storage.authorizedUpgraders then storage.authorizedUpgraders
            else storage.authorizedUpgraders ++ [caller]
          pendingUpgradeAdmin := none } := by
  simp only [acceptUpgradeAdmin, Outcome.bind_eq_ok, requireAuth_eq_ok, Outcome.unwrapOr_eq_ok,
    Outcome.rejectIf_eq_ok, Outcome.pure_eq_ok, ne_eq, Decidable.not_not,
    Option.isSome_iff_exists]
  grind

theorem executeUpgrade_eq_ok {executor newImplementation : Address} {proposalId : Option Nat} :
    executeUpgrade env storage executor newImplementation proposalId = .ok after ↔
      env.authorized executor = true ∧ isAuthorizedUpgrader env storage executor = true ∧
        ∃ marked, markExecuted storage newImplementation proposalId = .ok marked ∧
          ∃ currentImpl, marked.implementation = some currentImpl ∧
            newImplementation ≠ currentImpl ∧ after = { marked with
              history := marked.history ++ [{
                oldImplementation := currentImpl
                newImplementation
                executedAt := env.timestamp
                executedBy := executor
                proposalId }]
              implementation := some newImplementation } := by
  simp only [executeUpgrade, Outcome.bind_eq_ok, requireAuth_eq_ok, requireUpgradeAuth_eq_ok,
    Outcome.unwrapOr_eq_ok, Outcome.rejectIf_eq_ok, Outcome.pure_eq_ok]
  grind

/-- Marking a proposal writes nothing else. -/
theorem markExecuted_same {newImplementation : Address} {proposalId : Option Nat}
    (marked : markExecuted storage newImplementation proposalId = .ok after) :
    after = { storage with proposal := after.proposal } := by
  cases proposalId with
  | none =>
      obtain rfl := Outcome.pure_eq_ok.mp marked
      rfl
  | some proposalId =>
      simp only [markExecuted, Outcome.bind_eq_ok, Outcome.pure_eq_ok] at marked
      obtain ⟨proposal, -, -, -, -, -, rfl⟩ := marked
      rfl

/-- Who is authorised, and who grants it, stays as it was. -/
structure SameAuthority (before after : Storage) : Prop where
  auth : after.auth = before.auth
  authorizedUpgraders : after.authorizedUpgraders = before.authorizedUpgraders
  admin : after.admin = before.admin

/-- The ways a step changes the authorisations, the implementation and the history. -/
inductive UpgradeChange (env : Env) (before after : Storage) : Call → Prop where
  | initialized {admin : Address} (fresh : before.admin = none)
      (stored : after = { before with
        admin := some admin
        auth := Function.update before.auth admin (some (adminAuthorization env admin))
        authorizedUpgraders := [admin]
        nextProposalId := 1
        history := [] }) :
      UpgradeChange env before after (.initializeUpgradeAuth admin)
  | granted {admin address : Address} {role : UpgradeRole} {expiresAt : Nat}
      {authorization : UpgradeAuthorization} (started : before.admin = some admin)
      (absent : before.auth address = none)
      (ranked : authorization.role = role) (activated : authorization.active = true)
      (stored : after = { before with
        auth := Function.update before.auth address (some authorization)
        authorizedUpgraders :=
          if role = .upgrader then before.authorizedUpgraders ++ [address]
          else before.authorizedUpgraders }) :
      UpgradeChange env before after (.grantUpgradeAuth admin address role expiresAt)
  | revoked {admin address : Address} {authorization : UpgradeAuthorization}
      (started : before.admin = some admin)
      (found : before.auth address = some authorization)
      (others : authorization.role = .upgrader → 1 < before.authorizedUpgraders.length)
      (stored : after = { before with
        auth := Function.update before.auth address (some { authorization with active := false })
        authorizedUpgraders :=
          if authorization.role = .upgrader then
            before.authorizedUpgraders.filter fun upgrader => upgrader ≠ address
          else before.authorizedUpgraders }) :
      UpgradeChange env before after (.revokeUpgradeAuth admin address)
  | accepted {caller : Address} (started : before.admin.isSome = true)
      (stored : after = { before with
        admin := some caller
        auth := Function.update before.auth caller (some (adminAuthorization env caller))
        authorizedUpgraders :=
          if caller ∈ before.authorizedUpgraders then before.authorizedUpgraders
          else before.authorizedUpgraders ++ [caller]
        pendingUpgradeAdmin := none }) :
      UpgradeChange env before after (.acceptUpgradeAdmin caller)
  | executed {executor newImplementation : Address} {proposalId : Option Nat}
      (present : before.implementation.isSome = true) (same : SameAuthority before after) :
      UpgradeChange env before after (.executeUpgrade executor newImplementation proposalId)
  | elsewhere {call : Call} (same : SameAuthority before after)
      (implementation : after.implementation = before.implementation)
      (history : after.history = before.history) : UpgradeChange env before after call

theorem upgrade_change {call : Call} (stepped : Step strkey before ⟨env, call⟩ after) :
    UpgradeChange env before after call := by
  cases call with
  | initializeUpgradeAuth admin =>
      obtain ⟨fresh, stored⟩ := initializeUpgradeAuth_eq_ok.mp stepped
      exact .initialized fresh stored
  | grantUpgradeAuth admin address role expiresAt =>
      obtain ⟨-, started, absent, -, stored⟩ := grantUpgradeAuth_eq_ok.mp stepped
      exact .granted started absent rfl rfl stored
  | revokeUpgradeAuth admin address =>
      obtain ⟨-, started, authorization, found, others, stored⟩ :=
        revokeUpgradeAuth_eq_ok.mp stepped
      exact .revoked started found (fun upgrader => by simpa [upgrader] using others) stored
  | proposeUpgrade proposer newImplementation upgradeData requiredApprovals =>
      obtain ⟨rest, proposed, rfl⟩ := Outcome.map_eq_ok.mp stepped
      simp only [proposeUpgrade, Outcome.bind_eq_ok, Outcome.pure_eq_ok] at proposed
      obtain ⟨-, -, -, -, -, -, -, -, -, -, rfl⟩ := proposed
      exact .elsewhere ⟨rfl, rfl, rfl⟩ rfl rfl
  | approveUpgradeProposal approver proposalId =>
      change approveUpgradeProposal env before approver proposalId = .ok after at stepped
      simp only [approveUpgradeProposal, Outcome.bind_eq_ok, Outcome.pure_eq_ok] at stepped
      obtain ⟨-, -, -, -, -, -, -, -, -, -, rfl⟩ := stepped
      exact .elsewhere ⟨rfl, rfl, rfl⟩ rfl rfl
  | executeUpgrade executor newImplementation proposalId =>
      obtain ⟨-, -, marked, marks, currentImpl, current, -, stored⟩ :=
        executeUpgrade_eq_ok.mp stepped
      have same := markExecuted_same marks
      rw [same] at stored current
      exact .executed (by simp [show before.implementation = _ from current])
        ⟨by rw [stored], by rw [stored], by rw [stored]⟩
  | transferUpgradeAdmin admin newAdmin =>
      change transferUpgradeAdmin env before strkey admin newAdmin = .ok after at stepped
      simp only [transferUpgradeAdmin, Outcome.bind_eq_ok, Outcome.pure_eq_ok] at stepped
      obtain ⟨-, -, -, -, -, -, -, -, rfl⟩ := stepped
      exact .elsewhere ⟨rfl, rfl, rfl⟩ rfl rfl
  | acceptUpgradeAdmin caller =>
      obtain ⟨-, -, started, stored⟩ := acceptUpgradeAdmin_eq_ok.mp stepped
      exact .accepted started stored

end UpgradeAuth
