import CredenceContracts.Bond.Storage
import CredenceContracts.Library.MachineInt
import CredenceContracts.Library.Run
import Mathlib.Logic.Function.Basic

/-!
# The liquidation scanner

Bond holders are kept in a registry that only grows; a holder that leaves keeps its slot
and is marked inactive.  Keepers scan the registry page by page for bonds that were
slashed enough.  The published events are left out.
-/

namespace LiquidationScanner

open Soroban MachineInt
open Outcome (rejectIf unwrapOr)
open CredenceBond (IdentityBond)

/-- Hard cap on the accounts that one call inspects. -/
def maxIterHardCap : Nat :=
  200

/-- Page size where the caller passes zero. -/
def defaultMaxIter : Nat :=
  50

def bpsDenominator : Int :=
  10000

/-- A candidate that a scan returns. -/
structure LiquidationCandidate where
  identity : Address
  bondedAmount : Int
  slashedAmount : Int
  netAmount : Int
  deriving DecidableEq, Repr

/-- Result of scanning one page. -/
structure ScanResult where
  candidates : List LiquidationCandidate
  /-- The cursor of the next call. -/
  nextCursor : Nat
  done : Bool
  registrySize : Nat
  deriving DecidableEq, Repr

/-- The stored entries. -/
structure Storage where
  bondHolderRegistry : List Address
  bondHolderActive : Address → Option Bool
  keeperCursor : Address → Nat
  registrySize : Nat
  bond : Address → Option IdentityBond

/-- The entries before anything was stored: every read yields its default. -/
def Storage.deployed : Storage where
  bondHolderRegistry := []
  bondHolderActive := fun _ => none
  keeperCursor := fun _ => 0
  registrySize := 0
  bond := fun _ => none

section Registry

variable (storage : Storage)

/-- The holder is active in the registry, if it is there. -/
def isActive (identity : Address) : Bool :=
  (storage.bondHolderActive identity).getD true

/-- Append to a host vector, whose length is a 32-bit word. -/
def pushBack (registry : List Address) (identity : Address) : Outcome (List Address) := do
  rejectIf (2 ^ 32 ≤ registry.length + 1) .trapped
  return registry ++ [identity]

/-- Enter a holder in a new slot, or activate it again in its old one. -/
def registerBondHolder (identity : Address) : Outcome Storage :=
  if identity ∈ storage.bondHolderRegistry then
    if isActive storage identity then
      return storage
    else do
      let size ← checkedU32 (storage.registrySize + 1) (.panicked "registry size overflow")
      return { storage with
        bondHolderActive := Function.update storage.bondHolderActive identity (some true)
        registrySize := size }
  else do
    let registry ← pushBack storage.bondHolderRegistry identity
    let size ← checkedU32 (storage.registrySize + 1) (.panicked "registry size overflow")
    return { storage with
      bondHolderRegistry := registry
      bondHolderActive := Function.update storage.bondHolderActive identity (some true)
      registrySize := size }

/-- Mark a holder inactive; its slot stays. -/
def deregisterBondHolder (identity : Address) : Storage :=
  if identity ∈ storage.bondHolderRegistry ∧ isActive storage identity = true then
    { storage with
      bondHolderActive := Function.update storage.bondHolderActive identity (some false)
      registrySize := storage.registrySize - 1 }
  else
    storage

end Registry

/-- Move a keeper's cursor forward within the registry, or back to the start. -/
def advanceKeeperCursor (storage : Storage) (keeper : Address) (nextCursor : Nat) :
    Outcome Storage := do
  let current := storage.keeperCursor keeper
  let registrySlots := storage.bondHolderRegistry.length
  rejectIf (¬(nextCursor = 0 ∨ nextCursor > current ∧ nextCursor ≤ registrySlots))
    (.panicked "keeper cursor: invalid advance")
  return { storage with
    keeperCursor := Function.update storage.keeperCursor keeper nextCursor }

section Scan

variable (storage : Storage)

/-- The page size that a call asks for. -/
def effectiveMax (maxIter : Nat) : Nat :=
  if maxIter = 0 then defaultMaxIter else min maxIter maxIterHardCap

/-- Where a page ends; the sum is not checked. -/
def pageEnd (cursor maxIter : Nat) : Nat :=
  min (wrappingU32 (cursor + effectiveMax maxIter)) storage.bondHolderRegistry.length

def pageDone (cursor maxIter : Nat) : Bool :=
  decide (pageEnd storage cursor maxIter ≥ storage.bondHolderRegistry.length)

def nextCursor (cursor maxIter : Nat) : Nat :=
  if pageDone storage cursor maxIter then 0 else pageEnd storage cursor maxIter

/-- The slots that a page goes through. -/
def pageSlots (cursor maxIter : Nat) : List Nat :=
  List.range' cursor (pageEnd storage cursor maxIter - cursor)

/-- The slashed share of a bond in basis points; a product that does not fit counts as
zero. -/
def slashRatioBps (bond : IdentityBond) : Int :=
  (i128OrZero (bond.slashedAmount * bpsDenominator)).tdiv bond.bondedAmount

/-- The candidate that a holder is, if it is one. -/
def candidate (minSlashRatioBps : Nat) (identity : Address) : Option LiquidationCandidate :=
  if isActive storage identity = false then
    none
  else do
    let bond ← storage.bond identity
    if bond.active = false then
      none
    else if bond.bondedAmount ≤ 0 then
      none
    else if slashRatioBps bond ≥ minSlashRatioBps then
      some {
        identity
        bondedAmount := bond.bondedAmount
        slashedAmount := bond.slashedAmount
        netAmount := wrappingI128 (bond.bondedAmount - bond.slashedAmount) }
    else
      none

/-- Scan one page of the registry and store where it ended. -/
def scanLiquidationCandidates (env : Env) (keeper : Address)
    (cursor maxIter minSlashRatioBps : Nat) : Outcome (Storage × ScanResult) := do
  requireAuth env keeper
  let registry := storage.bondHolderRegistry
  rejectIf (registry.length > 0 ∧ cursor ≥ registry.length) (.contract .cursorOutOfRange)
  let holders ← unwrapOr ((pageSlots storage cursor maxIter).mapM fun slot => registry[slot]?)
    (.panicked "called `Option::unwrap()` on a `None` value")
  let result : ScanResult := {
    candidates := holders.filterMap (candidate storage minSlashRatioBps)
    nextCursor := nextCursor storage cursor maxIter
    done := pageDone storage cursor maxIter
    registrySize := storage.registrySize }
  return ({ storage with
    keeperCursor := Function.update storage.keeperCursor keeper result.nextCursor }, result)

end Scan

/-- The calls of the module. -/
inductive Call where
  | registerBondHolder (identity : Address)
  | deregisterBondHolder (identity : Address)
  | advanceKeeperCursor (keeper : Address) (nextCursor : Nat)
  | scanLiquidationCandidates (keeper : Address) (cursor maxIter minSlashRatioBps : Nat)

/-- The entries after a call. -/
def invoke (env : Env) (storage : Storage) : Call → Outcome Storage
  | .registerBondHolder identity => registerBondHolder storage identity
  | .deregisterBondHolder identity => return deregisterBondHolder storage identity
  | .advanceKeeperCursor keeper nextCursor => advanceKeeperCursor storage keeper nextCursor
  | .scanLiquidationCandidates keeper cursor maxIter minSlashRatioBps =>
      Prod.fst <$> scanLiquidationCandidates storage env keeper cursor maxIter minSlashRatioBps

/-- What can happen next: a call of the module, or anything at all to the bonds. -/
inductive Act where
  | call (call : Call)
  | elsewhere (bond : Address → Option IdentityBond)

/-- One act and the environment it happens in. -/
structure Label where
  env : Env
  act : Act

/-- The successful steps; a failing call has no effect and is no step. -/
inductive Step : Storage → Label → Storage → Prop where
  | call {env : Env} {storage after : Storage} {call : Call} :
      invoke env storage call = .ok after → Step storage ⟨env, .call call⟩ after
  | elsewhere {env : Env} {storage : Storage} {bond : Address → Option IdentityBond} :
      Step storage ⟨env, .elsewhere bond⟩ { storage with bond }

/-- The entries after a step, where there is one. -/
def next (storage : Storage) (label : Label) : Option Storage :=
  match label.act with
  | .call call => (invoke label.env storage call).toOption
  | .elsewhere bond => some { storage with bond }

theorem step_of_next {storage after : Storage} {label : Label}
    (followed : next storage label = some after) : Step storage label after := by
  obtain ⟨env, act⟩ := label
  cases act with
  | call call => exact .call (Outcome.toOption_eq_some.mp followed)
  | elsewhere bond =>
      obtain rfl : { storage with bond } = after := by simpa [next] using followed
      exact .elsewhere

end LiquidationScanner
