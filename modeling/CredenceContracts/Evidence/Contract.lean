import CredenceContracts.Library.MachineInt
import CredenceContracts.Library.Run
import CredenceContracts.Soroban.Host
import Mathlib.Logic.Function.Basic

/-!
# Evidence for slash proposals

Hashes of evidence are stored under increasing ids, with a list of ids for each slash
proposal and a mark for each hash.  Published events are not recorded.
-/

namespace SlashEvidence

open Soroban MachineInt
open Outcome (rejectIf unwrapOr)

inductive EvidenceType where
  | ipfs
  | sha256
  | other
  deriving DecidableEq, Repr

/-- The metadata of a piece of evidence, and its hash. -/
structure Evidence where
  id : Nat
  proposalId : Nat
  hash : Bytes
  hashType : EvidenceType
  description : Option Bytes
  submittedBy : Address
  submittedAt : Nat
  deriving DecidableEq

/-- The stored entries. -/
structure Storage where
  evidenceCounter : Nat
  evidence : Nat → Option Evidence
  proposalEvidence : Nat → List Nat
  hashExists : Bytes → Bool

/-- A contract in which nothing was stored yet. -/
def Storage.deployed : Storage where
  evidenceCounter := 0
  evidence := fun _ => none
  proposalEvidence := fun _ => []
  hashExists := fun _ => false

def maxDescriptionLength : Nat :=
  500

section EntryPoints

variable (storage : Storage)

/-- Submit the hash of a piece of evidence for a slash proposal. -/
def submitEvidence (env : Env) (submitter : Address) (proposalId : Nat) (hash : Bytes)
    (hashType : EvidenceType) (description : Option Bytes) : Outcome (Storage × Nat) := do
  rejectIf (hash.isEmpty = true) (.panicked "hash cannot be empty")
  rejectIf (storage.hashExists hash = true) (.panicked "evidence hash already exists")
  rejectIf (∃ text ∈ description, text.length > maxDescriptionLength)
    (.panicked "description too long (max 500 chars)")
  let evidenceId := storage.evidenceCounter
  let nextId ← checkedU64 (evidenceId + 1) (.panicked "evidence counter overflow")
  let evidence : Evidence := {
    id := evidenceId
    proposalId
    hash
    hashType
    description
    submittedBy := submitter
    submittedAt := env.timestamp }
  return ({
    evidenceCounter := nextId
    evidence := Function.update storage.evidence evidenceId (some evidence)
    proposalEvidence := Function.update storage.proposalEvidence proposalId
      (storage.proposalEvidence proposalId ++ [evidenceId])
    hashExists := Function.update storage.hashExists hash true }, evidenceId)

def getEvidence (evidenceId : Nat) : Outcome Evidence :=
  unwrapOr (storage.evidence evidenceId) (.panicked "evidence not found")

def getProposalEvidence (proposalId : Nat) : List Nat :=
  storage.proposalEvidence proposalId

def getEvidenceCount : Nat :=
  storage.evidenceCounter

/-- The whole records of a proposal; it panics where one of them is missing. -/
def getProposalEvidenceDetails (proposalId : Nat) : Outcome (List Evidence) :=
  (getProposalEvidence storage proposalId).mapM (getEvidence storage)

end EntryPoints

/-- One submission and the environment it is made in. -/
structure Label where
  env : Env
  submitter : Address
  proposalId : Nat
  hash : Bytes
  hashType : EvidenceType
  description : Option Bytes

/-- The successful submissions; a failing one has no effect and is no step. -/
def Step (storage : Storage) (label : Label) (after : Storage) : Prop :=
  ∃ evidenceId, submitEvidence storage label.env label.submitter label.proposalId label.hash
    label.hashType label.description = .ok (after, evidenceId)

/-- The entries after a submission, where it succeeds. -/
def next (storage : Storage) (label : Label) : Option Storage :=
  (Prod.fst <$> submitEvidence storage label.env label.submitter label.proposalId label.hash
    label.hashType label.description).toOption

theorem step_of_next {storage after : Storage} {label : Label}
    (followed : next storage label = some after) : Step storage label after := by
  obtain ⟨⟨_, evidenceId⟩, done, rfl⟩ :=
    Outcome.map_eq_ok.mp (Outcome.toOption_eq_some.mp followed)
  exact ⟨evidenceId, done⟩

end SlashEvidence
