import CredenceContracts.Bond.Views

/-!
# Several bonds at once

A batch is checked as a whole and then its bonds are stored one after the other, all
under the one key that the contract has for a bond.  The result lists every one of them;
what can be read back is the last.  The event of the whole batch is not recorded.
-/

namespace CredenceBond

open Soroban MachineInt
open Outcome (rejectIf unwrapOr)

/-- Conservative upper bound to keep batch execution below Soroban budget limits. -/
def maxBatchBondSize : Nat :=
  20

/-- Parameters for creating a single bond in a batch. -/
structure BatchBondParams where
  identity : Address
  amount : Int
  duration : Nat
  isRolling : Bool
  noticePeriodDuration : Nat
  deriving DecidableEq, Repr

/-- Result of a batch bond creation operation. -/
structure BatchBondResult where
  createdCount : Nat
  bonds : List IdentityBond
  deriving DecidableEq, Repr

section Calls

variable (env : Env) (storage : Storage)

def validateBatchSize (paramsList : List BatchBondParams) : Outcome Unit :=
  rejectIf (paramsList.length > maxBatchBondSize) (.contract .batchTooLarge)

def validateBatchParams (params : BatchBondParams) : Outcome Unit := do
  rejectIf (params.amount ≤ 0) (.panicked "invalid amount in batch")
  let _ ← checkedU64 (env.timestamp + params.duration) (.panicked "duration overflow in batch")
  rejectIf (params.isRolling = true ∧ params.noticePeriodDuration = 0)
    (.panicked "rolling bond requires notice period")

/-- Validate all bonds before any is created. -/
def validateBatchBonds (paramsList : List BatchBondParams) : Outcome Unit := do
  rejectIf (paramsList = []) (.contract .emptyBatch)
  validateBatchSize paramsList
  paramsList.forM (validateBatchParams env)

/-- The bond that parameters ask for. -/
def BatchBondParams.bond (params : BatchBondParams) : IdentityBond where
  identity := params.identity
  bondedAmount := params.amount
  bondStart := env.timestamp
  bondDuration := params.duration
  slashedAmount := 0
  active := true
  isRolling := params.isRolling
  withdrawalRequestedAt := 0
  noticePeriodDuration := params.noticePeriodDuration

/-- Store the bond of one element. -/
def storeBatchBond (storage : Storage) (params : BatchBondParams) : Storage :=
  emitTierChangeIfNeeded env { storage with bond := some (params.bond env) } params.identity
    .bronze (getTierForAmount storage params.amount)

def recordCollateralIncrease (storage : Storage) : Storage :=
  { storage with lastCollateralIncreaseLedger := some env.sequence }

/-- Create several bonds, where none is stored. -/
def createBatchBonds (paramsList : List BatchBondParams) :
    Outcome (Storage × BatchBondResult) := do
  validateBatchBonds env paramsList
  paramsList.forM fun _ =>
    rejectIf (storage.bond.isSome = true) (.panicked "bond already exists")
  let stored := recordCollateralIncrease env (paramsList.foldl (storeBatchBond env) storage)
  let bonds := paramsList.map (BatchBondParams.bond env)
  let result := { createdCount := bonds.length, bonds }
  assertSelfConsistent stored
  return (stored, result)

end Calls

section Storing

variable {env : Env} {storage : Storage}

/-- Storing a bond writes the one entry for a bond, whatever its identity. -/
theorem storeBatchBond_bond (params : BatchBondParams) :
    (storeBatchBond env storage params).bond = some (params.bond env) := by
  rw [storeBatchBond, emitTierChangeIfNeeded_events]

/-- After a batch the bond of its last element is stored. -/
theorem foldl_storeBatchBond_bond (earlier : List BatchBondParams) (last : BatchBondParams) :
    ((earlier ++ [last]).foldl (storeBatchBond env) storage).bond = some (last.bond env) := by
  rw [List.foldl_append]
  exact storeBatchBond_bond last

/-- Parameters are determined by the bond they ask for. -/
theorem bond_injective : Function.Injective (BatchBondParams.bond env) := by
  rintro ⟨_, _, _, _, _⟩ ⟨_, _, _, _, _⟩ same
  simpa [BatchBondParams.bond] using same

end Storing

section Batches

variable {env : Env} {storage stored : Storage} {paramsList : List BatchBondParams}
variable {result : BatchBondResult}

/-- Every bond of the result is read back under its identity. -/
def EveryBondStored (stored : Storage) (result : BatchBondResult) : Prop :=
  ∀ bond ∈ result.bonds,
    (describeBond stored bond.identity).map BondStateView.bond = some bond

/-- An accepted batch is not empty, and what it leaves is its last bond. -/
theorem createBatchBonds_ok
    (done : createBatchBonds env storage paramsList = .ok (stored, result)) :
    ∃ last, paramsList.getLast? = some last ∧ stored.bond = some (last.bond env) ∧
      result.bonds = paramsList.map (BatchBondParams.bond env) := by
  simp only [createBatchBonds, validateBatchBonds, Outcome.bind_eq_ok, Outcome.rejectIf_eq_ok,
    Outcome.pure_eq_ok, Prod.mk.injEq] at done
  obtain ⟨_, ⟨_, nonempty, -⟩, _, -, _, -, rfl, rfl⟩ := done
  obtain ⟨earlier, last, rfl⟩ := (List.eq_nil_or_concat paramsList).resolve_left nonempty
  rw [List.concat_eq_append] at *
  exact ⟨last, by simp, foldl_storeBatchBond_bond earlier last, rfl⟩

/-- A stored bond is read back under its own identity only. -/
theorem describeBond_eq_some_iff {other bond : IdentityBond}
    (found : stored.bond = some other) :
    (describeBond stored bond.identity).map BondStateView.bond = some bond ↔
      bond = other := by
  constructor
  · intro described
    by_cases owned : other.identity = bond.identity
    · obtain ⟨view, viewed, same, -⟩ := describeBond_of_bond found
      rw [← owned, viewed, Option.map_some, same] at described
      exact (Option.some.inj described).symm
    · simp [describeBond, found, owned] at described
  · rintro rfl
    obtain ⟨view, viewed, same, -⟩ := describeBond_of_bond found
    rw [viewed, Option.map_some, same]

/-- Every bond of an accepted batch is stored if and only if all elements of the batch have
the parameters of the last one. -/
theorem every_bond_stored_iff
    (done : createBatchBonds env storage paramsList = .ok (stored, result)) :
    EveryBondStored stored result ↔
      ∀ params ∈ paramsList, paramsList.getLast? = some params := by
  obtain ⟨last, final, kept, listed⟩ := createBatchBonds_ok done
  unfold EveryBondStored
  rw [listed, final]
  constructor
  · intro every params member
    have read := every _ (List.mem_map_of_mem member)
    rw [describeBond_eq_some_iff kept] at read
    rw [bond_injective read]
  · intro same bond member
    obtain ⟨params, inside, rfl⟩ := List.mem_map.mp member
    rw [describeBond_eq_some_iff kept, Option.some.inj (same params inside)]

end Batches

section Sample

def oneBond : BatchBondParams where
  identity := ⟨5⟩
  amount := 1000
  duration := 86400
  isRolling := false
  noticePeriodDuration := 0

def otherBond : BatchBondParams where
  identity := ⟨6⟩
  amount := 2000
  duration := 172800
  isRolling := true
  noticePeriodDuration := 3600

/-- A batch of one bond stores it. -/
theorem every_bond_stored_sample :
    ∃ stored result, createBatchBonds (.signedByAll ⟨0⟩ 3) .deployed [oneBond] =
        .ok (stored, result) ∧ EveryBondStored stored result := by
  obtain ⟨⟨stored, result⟩, done⟩ :
      ∃ reached, createBatchBonds (.signedByAll ⟨0⟩ 3) .deployed [oneBond] = .ok reached :=
    Outcome.exists_of_isOk (by decide +kernel)
  exact ⟨stored, result, done, (every_bond_stored_iff done).mpr (by simp)⟩

/-- Of two bonds for two identities the result lists both, and the first one cannot be
read back. -/
theorem first_bond_lost :
    ∃ stored result, createBatchBonds (.signedByAll ⟨0⟩ 3) .deployed [oneBond, otherBond] =
        .ok (stored, result) ∧ result.createdCount = 2 ∧
      oneBond.bond (.signedByAll ⟨0⟩ 3) ∈ result.bonds ∧
        describeBond stored ⟨5⟩ = none ∧ ¬EveryBondStored stored result := by
  refine ⟨_, _, rfl, rfl, by decide +kernel, by decide +kernel, ?_⟩
  intro every
  have read := every (oneBond.bond (.signedByAll ⟨0⟩ 3)) (by decide +kernel)
  revert read
  decide +kernel

end Sample

end CredenceBond
