import CredenceContracts.Library.Run
import CredenceContracts.Soroban.Pausable

/-!
# The registry contract

The registry maps identities to their bond contracts and back.  The admin registers,
deactivates and removes pairs; a bond contract may also register itself once it has
reported the code hash that the admin pinned.  Published events are not recorded.
-/

namespace Registry

open Soroban
open Outcome (rejectIf unwrapOr)

/-- A registry entry mapping an identity to its bond contract. -/
structure RegistryEntry where
  identity : Address
  bondContract : Address
  registeredAt : Nat
  active : Bool
  deriving DecidableEq

/-- The stored entries. -/
structure Storage where
  admin : Option Address
  pause : Pausable.Storage
  identityToBond : Address → Option RegistryEntry
  bondToIdentity : Address → Option Address
  registeredIdentities : List Address
  allowNonInterface : Address → Bool
  /-- The hash the admin pinned; empty when none was. -/
  bondCodeHash : Bytes

/-- A contract in which nothing was stored yet. -/
def Storage.deployed : Storage where
  admin := none
  pause := .deployed
  identityToBond := fun _ => none
  bondToIdentity := fun _ => none
  registeredIdentities := []
  allowNonInterface := fun _ => false
  bondCodeHash := []

/-- What the other contracts are and answer during a call; an answer is absent where
the call into the contract fails. -/
structure Contracts where
  /-- The result of `supports_interface` at the bond interface. -/
  supportsInterface : Address → Option Bool
  /-- The result of `get_contract_code_hash`. -/
  reportedCodeHash : Address → Option Bytes
  /-- The hash of the code the contract is deployed with.  The registry never reads it. -/
  deployedCodeHash : Address → Option Bytes

/-- Whether two byte strings agree, comparing every byte. -/
def constantTimeEq (left right : Bytes) : Bool :=
  if left.length ≠ right.length then
    false
  else
    (left.zip right).foldl (fun acc pair => acc ||| (pair.1 ^^^ pair.2)) 0 == 0

/-- Store both halves of a new active pair and list its identity if it is not listed. -/
def storePair (env : Env) (storage : Storage) (identity bondContract : Address) :
    Storage × RegistryEntry :=
  let entry : RegistryEntry :=
    { identity, bondContract, registeredAt := env.timestamp, active := true }
  ({ storage with
    identityToBond := Function.update storage.identityToBond identity (some entry)
    bondToIdentity := Function.update storage.bondToIdentity bondContract (some identity)
    registeredIdentities :=
      if storage.registeredIdentities.any (fun listed => listed == identity) then
        storage.registeredIdentities
      else
        storage.registeredIdentities ++ [identity] }, entry)

section Calls

variable (env : Env) (storage : Storage)

def initializeRegistry (admin : Address) : Outcome Storage := do
  rejectIf (storage.admin.isSome = true) (.contract .alreadyInitialized)
  requireAuth env admin
  return { storage with
    admin := some admin
    pause := storage.pause.reset
    registeredIdentities := [] }

/-- The stored admin, who has to authorise the call. -/
def requireAdmin : Outcome Unit := do
  let admin ← unwrapOr storage.admin (.contract .notInitialized)
  requireAuth env admin

/-- Register a new pair; the admin may waive the interface check. -/
def register (contracts : Contracts) (identity bondContract : Address)
    (allowNonInterface : Bool) : Outcome (Storage × RegistryEntry) := do
  Pausable.requireNotPaused storage.pause
  requireAdmin env storage
  rejectIf (allowNonInterface = false ∧
    (contracts.supportsInterface bondContract).getD false = false)
    (.contract .unsupportedInterface)
  rejectIf ((storage.identityToBond identity).isSome = true)
    (.contract .identityAlreadyRegistered)
  rejectIf ((storage.bondToIdentity bondContract).isSome = true)
    (.contract .bondContractAlreadyRegistered)
  let (stored, entry) := storePair env storage identity bondContract
  return ({ stored with
    allowNonInterface :=
      if allowNonInterface then
        Function.update stored.allowNonInterface bondContract true
      else
        stored.allowNonInterface }, entry)

/-- Deactivate a registration, which stays stored. -/
def deactivate (identity : Address) : Outcome Storage := do
  Pausable.requireNotPaused storage.pause
  requireAdmin env storage
  let entry ← unwrapOr (storage.identityToBond identity) (.contract .identityNotRegistered)
  rejectIf (entry.active = false) (.contract .alreadyDeactivated)
  return { storage with
    identityToBond :=
      Function.update storage.identityToBond identity (some { entry with active := false }) }

/-- Remove a registration with both of its halves. -/
def remove (identity : Address) : Outcome Storage := do
  Pausable.requireNotPaused storage.pause
  requireAdmin env storage
  let entry ← unwrapOr (storage.identityToBond identity) (.contract .identityNotRegistered)
  return { storage with
    identityToBond := Function.update storage.identityToBond identity none
    bondToIdentity := Function.update storage.bondToIdentity entry.bondContract none
    registeredIdentities := storage.registeredIdentities.erase identity }

/-- Reactivate a deactivated registration. -/
def reactivate (identity : Address) : Outcome Storage := do
  Pausable.requireNotPaused storage.pause
  requireAdmin env storage
  let entry ← unwrapOr (storage.identityToBond identity) (.contract .identityNotRegistered)
  rejectIf (entry.active = true) (.contract .alreadyActive)
  return { storage with
    identityToBond :=
      Function.update storage.identityToBond identity (some { entry with active := true }) }

def transferAdmin (newAdmin : Address) : Outcome Storage := do
  Pausable.requireNotPaused storage.pause
  requireAdmin env storage
  return { storage with admin := some newAdmin }

/-- Pin the code hash that trustless registration expects, also while paused. -/
def setBondCodeHash (codeHash : Bytes) : Outcome Storage := do
  requireAdmin env storage
  return { storage with bondCodeHash := codeHash }

/-- A bond contract registers itself after reporting the pinned code hash.  Repeating the
registration of an active pair returns its entry. -/
def registerTrustless (contracts : Contracts) (caller identity : Address) :
    Outcome (Storage × RegistryEntry) := do
  Pausable.requireNotPaused storage.pause
  requireAuth env caller
  let expectedHash := storage.bondCodeHash
  rejectIf (expectedHash.isEmpty = true) (.contract .notInitialized)
  let callerCodeHash ← calling (contracts.reportedCodeHash caller)
  rejectIf (callerCodeHash.length ≠ 32 ∨ expectedHash.length ≠ 32)
    (.contract .contractCodeVerificationFailed)
  rejectIf (constantTimeEq callerCodeHash expectedHash = false)
    (.contract .contractCodeVerificationFailed)
  match storage.identityToBond identity with
  | some existing =>
      if existing.bondContract = caller ∧ existing.active = true then
        return (storage, existing)
      else
        .error (.contract .identityAlreadyRegistered)
  | none =>
      rejectIf ((storage.bondToIdentity caller).isSome = true)
        (.contract .bondContractAlreadyRegistered)
      return storePair env storage identity caller

end Calls

section Views

variable (storage : Storage)

def getBondContract (identity : Address) : Outcome RegistryEntry :=
  unwrapOr (storage.identityToBond identity) (.contract .identityNotRegistered)

def getIdentity (bondContract : Address) : Outcome Address :=
  unwrapOr (storage.bondToIdentity bondContract) (.contract .bondContractNotRegistered)

def isRegistered (identity : Address) : Bool :=
  match storage.identityToBond identity with
  | some entry => entry.active
  | none => false

end Views

/-- The entry points that write. -/
inductive Call where
  | initializeRegistry (admin : Address)
  | register (identity bondContract : Address) (allowNonInterface : Bool)
  | deactivate (identity : Address)
  | remove (identity : Address)
  | reactivate (identity : Address)
  | transferAdmin (newAdmin : Address)
  | setBondCodeHash (codeHash : Bytes)
  | registerTrustless (caller identity : Address)
  | pausable (call : Pausable.Call)

/-- The entries after an entry point. -/
def invoke (env : Env) (contracts : Contracts) (storage : Storage) : Call → Outcome Storage
  | .initializeRegistry admin => initializeRegistry env storage admin
  | .register identity bondContract allowNonInterface =>
      Prod.fst <$> register env storage contracts identity bondContract allowNonInterface
  | .deactivate identity => deactivate env storage identity
  | .remove identity => remove env storage identity
  | .reactivate identity => reactivate env storage identity
  | .transferAdmin newAdmin => transferAdmin env storage newAdmin
  | .setBondCodeHash codeHash => setBondCodeHash env storage codeHash
  | .registerTrustless caller identity =>
      Prod.fst <$> registerTrustless env storage contracts caller identity
  | .pausable call => do
      let pause ← Pausable.invoke env storage.admin storage.pause call
      return { storage with pause }

/-- One call, the environment it is made in and the contracts it meets. -/
structure Label where
  env : Env
  contracts : Contracts
  call : Call

/-- The successful steps; a failing call has no effect and is no step. -/
def Step (storage : Storage) (label : Label) (after : Storage) : Prop :=
  invoke label.env label.contracts storage label.call = .ok after

/-- The entries after a step, where there is one. -/
def next (storage : Storage) (label : Label) : Option Storage :=
  (invoke label.env label.contracts storage label.call).toOption

theorem step_of_next {storage after : Storage} {label : Label}
    (followed : next storage label = some after) : Step storage label after :=
  Outcome.toOption_eq_some.mp followed

end Registry
