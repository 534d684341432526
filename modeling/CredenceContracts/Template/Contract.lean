import CredenceContracts.Library.Run
import CredenceContracts.Soroban.Host
import Mathlib.Logic.Function.Basic

/-!
# The contract template

One record for each owner, written by the admin and with a time from which it has expired.
An expired record is removed when its presence is asked for.  Published events are left
out.
-/

namespace Template

open Soroban
open Outcome (rejectIf unwrapOr)

/-- A record; an expiry of zero is none. -/
structure Record where
  value : Int
  updatedAt : Nat
  expiresAt : Nat
  deriving DecidableEq, Repr

/-- The record has an expiry that has come. -/
def Record.Expired (record : Record) (now : Nat) : Prop :=
  record.expiresAt ≠ 0 ∧ record.expiresAt ≤ now

instance (record : Record) (now : Nat) : Decidable (record.Expired now) := by
  unfold Record.Expired
  infer_instance

/-- The stored entries. -/
structure Storage where
  admin : Option Address
  record : Address → Option Record

/-- A contract in which nothing was stored yet. -/
def Storage.deployed : Storage where
  admin := none
  record := fun _ => none

section EntryPoints

variable (env : Env) (storage : Storage)

def initializeTemplate (admin : Address) : Outcome Storage := do
  rejectIf (storage.admin.isSome = true) (.contract .alreadyInitialized)
  return { storage with admin := some admin }

def setRecord (owner : Address) (value : Int) (expiresAt : Nat) : Outcome Storage := do
  let admin ← unwrapOr storage.admin (.panicked "not initialized")
  requireAuth env admin
  let record : Record := { value, updatedAt := env.timestamp, expiresAt }
  return { storage with record := Function.update storage.record owner (some record) }

def removeRecord (owner : Address) : Outcome Storage := do
  let admin ← unwrapOr storage.admin (.panicked "not initialized")
  requireAuth env admin
  return { storage with record := Function.update storage.record owner none }

/-- The record of the owner.  The removal of an expired one is undone with the call,
which fails. -/
def getRecord (owner : Address) : Outcome Record := do
  let record ← unwrapOr (storage.record owner) (.panicked "record not found")
  rejectIf (record.Expired env.timestamp) (.contract .signatureExpired)
  return record

/-- Whether the owner has a record.  Anyone who asks removes one that has expired. -/
def hasRecord (owner : Address) : Outcome (Storage × Bool) :=
  match storage.record owner with
  | some record =>
      if record.Expired env.timestamp then
        return ({ storage with record := Function.update storage.record owner none }, false)
      else
        return (storage, true)
  | none => return (storage, false)

/-- Whether the owner has a record that has expired. -/
def isExpired (owner : Address) : Bool :=
  match storage.record owner with
  | some record => decide (record.Expired env.timestamp)
  | none => false

def getAdmin : Outcome Address :=
  unwrapOr storage.admin (.panicked "not initialized")

end EntryPoints

/-- The calls that may write. -/
inductive Call where
  | initializeTemplate (admin : Address)
  | setRecord (owner : Address) (value : Int) (expiresAt : Nat)
  | removeRecord (owner : Address)
  | hasRecord (owner : Address)

/-- The entries after a call. -/
def invoke (env : Env) (storage : Storage) : Call → Outcome Storage
  | .initializeTemplate admin => initializeTemplate storage admin
  | .setRecord owner value expiresAt => setRecord env storage owner value expiresAt
  | .removeRecord owner => removeRecord env storage owner
  | .hasRecord owner => Prod.fst <$> hasRecord env storage owner

/-- One call and the environment it is made in. -/
structure Label where
  env : Env
  call : Call

/-- The successful steps; a failing call has no effect and is no step. -/
def Step (storage : Storage) (label : Label) (after : Storage) : Prop :=
  invoke label.env storage label.call = .ok after

/-- The entries after a step, where there is one. -/
def next (storage : Storage) (label : Label) : Option Storage :=
  (invoke label.env storage label.call).toOption

theorem step_of_next {storage after : Storage} {label : Label}
    (followed : next storage label = some after) : Step storage label after :=
  Outcome.toOption_eq_some.mp followed

end Template
