import CredenceContracts.Library.MachineInt
import CredenceContracts.Library.Run
import CredenceContracts.Soroban.Host
import Mathlib.Logic.Function.Basic

/-!
# The emergency mode

A configuration with a mode that is on or off, an audit record for each change of the mode
that is made with approvals, and one for each emergency withdrawal.  Callers check the
approvals; published events are left out.
-/

namespace Emergency

open Soroban MachineInt
open Outcome (rejectIf unwrapOr)

structure EmergencyConfig where
  governance : Address
  treasury : Address
  emergencyFeeBps : Nat
  enabled : Bool
  deriving DecidableEq, Repr

/-- Audit record of an emergency withdrawal. -/
structure EmergencyWithdrawalRecord where
  id : Nat
  identity : Address
  grossAmount : Int
  feeAmount : Int
  netAmount : Int
  treasury : Address
  approvedAdmin : Address
  approvedGovernance : Address
  reason : String
  timestamp : Nat
  deriving DecidableEq, Repr

/-- Audit record of a change of the mode. -/
structure EmergencyModeTransition where
  id : Nat
  enabled : Bool
  approvedAdmin : Address
  approvedGovernance : Address
  reason : String
  timestamp : Nat
  deriving DecidableEq, Repr

/-- The stored entries. -/
structure Storage where
  emergencyConfig : Option EmergencyConfig
  record : Nat → Option EmergencyWithdrawalRecord
  transition : Nat → Option EmergencyModeTransition
  recordSeq : Nat
  transitionSeq : Nat

/-- A contract in which nothing was stored yet. -/
def Storage.deployed : Storage where
  emergencyConfig := none
  record := fun _ => none
  transition := fun _ => none
  recordSeq := 0
  transitionSeq := 0

def bpsDenominator : Int :=
  10000

section Functions

variable (env : Env) (storage : Storage)

/-- Set the whole configuration, with the mode. -/
def setConfig (governance treasury : Address) (emergencyFeeBps : Nat) (enabled : Bool) :
    Outcome Storage := do
  rejectIf ((emergencyFeeBps : Int) > bpsDenominator)
    (.panicked "emergency fee bps must be <= 10000")
  return { storage with
    emergencyConfig := some { governance, treasury, emergencyFeeBps, enabled } }

def getConfig : Outcome EmergencyConfig :=
  unwrapOr storage.emergencyConfig (.panicked "emergency config not set")

/-- The next number of a sequence. -/
def incrementSeq (seq : Nat) : Outcome Nat :=
  checkedU64 (seq + 1) (.panicked "sequence overflow")

/-- Change the mode and record the change; a mode that stays is no change. -/
def setEnabled (enabled : Bool) (admin governance : Address) (reason : String) :
    Outcome Storage := do
  let cfg ← getConfig storage
  if cfg.enabled = enabled then
    return storage
  else do
    let transitionId ← incrementSeq storage.transitionSeq
    let transition : EmergencyModeTransition := {
      id := transitionId
      enabled
      approvedAdmin := admin
      approvedGovernance := governance
      reason
      timestamp := env.timestamp }
    return { storage with
      emergencyConfig := some { cfg with enabled }
      transitionSeq := transitionId
      transition := Function.update storage.transition transitionId (some transition) }

def latestRecordId : Nat :=
  storage.recordSeq

def getRecord (id : Nat) : Outcome EmergencyWithdrawalRecord :=
  unwrapOr (storage.record id) (.panicked "record not found")

def latestTransitionId : Nat :=
  storage.transitionSeq

def getTransition (id : Nat) : Outcome EmergencyModeTransition :=
  unwrapOr (storage.transition id) (.panicked "transition not found")

/-- Record an emergency withdrawal, and return the number of the record. -/
def storeRecord (identity : Address) (grossAmount feeAmount netAmount : Int)
    (treasury approvedAdmin approvedGovernance : Address) (reason : String) :
    Outcome (Storage × Nat) := do
  let id ← incrementSeq storage.recordSeq
  let record : EmergencyWithdrawalRecord := {
    id
    identity
    grossAmount
    feeAmount
    netAmount
    treasury
    approvedAdmin
    approvedGovernance
    reason
    timestamp := env.timestamp }
  return ({ storage with
    recordSeq := id
    record := Function.update storage.record id (some record) }, id)

end Functions

/-- The calls that write. -/
inductive Call where
  | setConfig (governance treasury : Address) (emergencyFeeBps : Nat) (enabled : Bool)
  | setEnabled (enabled : Bool) (admin governance : Address) (reason : String)
  | storeRecord (identity : Address) (grossAmount feeAmount netAmount : Int)
      (treasury approvedAdmin approvedGovernance : Address) (reason : String)

/-- The entries after a call. -/
def invoke (env : Env) (storage : Storage) : Call → Outcome Storage
  | .setConfig governance treasury emergencyFeeBps enabled =>
      setConfig storage governance treasury emergencyFeeBps enabled
  | .setEnabled enabled admin governance reason =>
      setEnabled env storage enabled admin governance reason
  | .storeRecord identity grossAmount feeAmount netAmount treasury approvedAdmin
      approvedGovernance reason =>
      Prod.fst <$> storeRecord env storage identity grossAmount feeAmount netAmount treasury
        approvedAdmin approvedGovernance reason

/-- One call and the environment it is made in. -/
structure Label where
  env : Env
  call : Call

/-- The successful steps; a failing call has no effect and is no step. -/
def Step (storage : Storage) (label : Label) (after : Storage) : Prop :=
  invoke label.env storage label.call = .ok after

/-- The entries after a step, where there is one. -/
def next (storage : Storage) (label : Label) : Option Storage :=
  (invoke label.env storage label.call).toOption

theorem step_of_next {storage after : Storage} {label : Label}
    (followed : next storage label = some after) : Step storage label after :=
  Outcome.toOption_eq_some.mp followed

end Emergency
