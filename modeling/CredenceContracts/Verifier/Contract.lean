import CredenceContracts.Bond.SafeToken
import CredenceContracts.Library.MachineInt
import CredenceContracts.Library.Run
import Mathlib.Logic.Function.Basic

/-!
# Verifiers

Verifiers stake tokens to attest, and withdraw the stake once they are inactive.  A
verifier's stake is stored in its own record and, for the weight of its attestations, as
attester stake.  Callers authenticate; the published events are left out.
-/

namespace Verifier

open Soroban MachineInt
open Outcome (rejectIf unwrapOr)
open SafeToken (safeTransfer safeTransferFrom)

/-- What is stored for a verifier. -/
structure VerifierInfo where
  stake : Int
  reputation : Int
  active : Bool
  registeredAt : Nat
  /-- When the verifier was deactivated; zero while it is active. -/
  deactivatedAt : Nat
  attestationsIssued : Nat
  attestationsRevoked : Nat
  deriving DecidableEq, Repr

/-- The stored entries. -/
structure Storage where
  minStake : Int
  verifierInfo : Address → Option VerifierInfo
  verifierRole : Address → Option Bool
  attester : Address → Bool
  attesterStake : Address → Option Int
  bondToken : Option Address

/-- The entries of a contract that has a token but no verifier yet. -/
def Storage.configured (bondToken : Address) : Storage where
  minStake := 0
  verifierInfo := fun _ => none
  verifierRole := fun _ => none
  attester := fun _ => false
  attesterStake := fun _ => none
  bondToken := some bondToken

/-- The entries together with the token ledger. -/
structure State (Ledger : Type) where
  storage : Storage
  ledger : Ledger

section Entries

variable (env : Env) (storage : Storage)

/-- The stake that the weight of an attester's word is computed from. -/
def getAttesterStake (attester : Address) : Int :=
  (storage.attesterStake attester).getD 0

def setAttesterStake (attester : Address) (amount : Int) : Outcome Storage := do
  rejectIf (amount < 0) (.panicked "attester stake cannot be negative")
  return { storage with
    attesterStake := Function.update storage.attesterStake attester (some amount) }

def putVerifierInfo (verifier : Address) (info : VerifierInfo) : Storage :=
  { storage with verifierInfo := Function.update storage.verifierInfo verifier (some info) }

/-- Set the role flag, and with it the flag that attestations are gated by. -/
def setVerifierRole (verifier : Address) (enabled : Bool) : Storage :=
  { storage with
    verifierRole := Function.update storage.verifierRole verifier (some enabled)
    attester := Function.update storage.attester verifier enabled }

/-- The record of an active verifier about whom nothing is known yet. -/
def newVerifierInfo (stake : Int) : VerifierInfo where
  stake
  reputation := 0
  active := true
  registeredAt := env.timestamp
  deactivatedAt := 0
  attestationsIssued := 0
  attestationsRevoked := 0

def setMinStake (minStake : Int) : Outcome Storage := do
  rejectIf (minStake < 0) (.panicked "min stake cannot be negative")
  return { storage with minStake }

/-- The record that a deposit leaves: a new one, one topped up or one reactivated. -/
def stakedInfo (minStake stakeDeposit : Int) : Option VerifierInfo → Outcome VerifierInfo
  | none => do
      rejectIf (stakeDeposit < minStake) (.panicked "insufficient verifier stake")
      return newVerifierInfo env stakeDeposit
  | some info =>
      if info.active then do
        rejectIf (stakeDeposit = 0) (.panicked "verifier already active")
        let stake ← checkedI128 (info.stake + stakeDeposit) (.panicked "stake overflow")
        return { info with stake }
      else do
        let stake ← checkedI128 (info.stake + stakeDeposit) (.panicked "stake overflow")
        rejectIf (stake < minStake) (.panicked "insufficient verifier stake")
        return { info with
          stake
          active := true
          deactivatedAt := 0 }

/-- Mark a verifier as registered, with its record and its stake. -/
def enroll (verifier : Address) (info : VerifierInfo) : Outcome Storage :=
  setAttesterStake (putVerifierInfo (setVerifierRole storage verifier true) verifier info)
    verifier info.stake

/-- Registration by the admin, without a stake. -/
def registerLegacy (verifier : Address) : Outcome (Storage × VerifierInfo) := do
  let existing := (storage.verifierInfo verifier).getD (newVerifierInfo env 0)
  let info : VerifierInfo := { existing with
    active := true
    deactivatedAt := 0 }
  let enrolled ← enroll storage verifier info
  return (enrolled, info)

def deactivateVerifier (verifier : Address) : Outcome (Storage × VerifierInfo) := do
  let found ← unwrapOr (storage.verifierInfo verifier) (.panicked "verifier not found")
  rejectIf (found.active = false) (.panicked "verifier already inactive")
  let info : VerifierInfo := { found with
    active := false
    deactivatedAt := env.timestamp }
  return (putVerifierInfo (setVerifierRole storage verifier false) verifier info, info)

/-- Deactivate an active verifier; of anyone else only the flags are cleared. -/
def deactivateIfExists (verifier : Address) : Outcome Storage :=
  match storage.verifierInfo verifier with
  | some info =>
      if info.active then
        Prod.fst <$> deactivateVerifier env storage verifier
      else
        return setVerifierRole storage verifier false
  | none => return setVerifierRole storage verifier false

def setReputation (verifier : Address) (newReputation : Int) : Outcome Storage := do
  let info ← unwrapOr (storage.verifierInfo verifier) (.panicked "verifier not found")
  return putVerifierInfo storage verifier { info with reputation := newReputation }

/-- Count an attestation, also of an address that is not registered. -/
def recordAttestationIssued (verifier : Address) (weight : Nat) : Outcome Storage := do
  let info := (storage.verifierInfo verifier).getD (newVerifierInfo env 0)
  let attestationsIssued ← checkedU32 (info.attestationsIssued + 1)
    (.panicked "attestation count overflow")
  let reputation ← checkedI128 (info.reputation + weight) (.panicked "reputation overflow")
  return putVerifierInfo storage verifier { info with attestationsIssued, reputation }

/-- Count a revocation, of registered verifiers only. -/
def recordAttestationRevoked (verifier : Address) (weight : Nat) : Outcome Storage :=
  match storage.verifierInfo verifier with
  | none => return storage
  | some info => do
      let attestationsRevoked ← checkedU32 (info.attestationsRevoked + 1)
        (.panicked "attestation count overflow")
      let reputation ← checkedI128 (info.reputation - weight) (.panicked "reputation overflow")
      return putVerifierInfo storage verifier { info with attestationsRevoked, reputation }

end Entries

section Staking

variable {Ledger : Type} (token : TokenInterface Ledger) (env : Env) (state : State Ledger)

/-- Register, top up or reactivate a verifier by a deposit. -/
def registerWithStake (verifier : Address) (stakeDeposit : Int) :
    Outcome (State Ledger × VerifierInfo) := do
  rejectIf (stakeDeposit < 0) (.panicked "stake deposit cannot be negative")
  let info ← stakedInfo env state.storage.minStake stakeDeposit
    (state.storage.verifierInfo verifier)
  let storage ← enroll state.storage verifier info
  if stakeDeposit > 0 then
    let ledger ← safeTransferFrom token env storage.bondToken state.ledger verifier stakeDeposit
    return ({ storage, ledger }, info)
  else
    return ({ state with storage }, info)

/-- Pay stake back to an inactive verifier. -/
def withdrawStake (verifier : Address) (amount : Int) :
    Outcome (State Ledger × VerifierInfo) := do
  rejectIf (amount ≤ 0) (.panicked "withdraw amount must be positive")
  let found ← unwrapOr (state.storage.verifierInfo verifier) (.panicked "verifier not found")
  rejectIf (found.active = true) (.panicked "verifier must be inactive to withdraw stake")
  rejectIf (amount > found.stake) (.panicked "insufficient staked balance")
  let stake ← checkedI128 (found.stake - amount) (.panicked "stake underflow")
  let info : VerifierInfo := { found with stake }
  let storage ← setAttesterStake (putVerifierInfo state.storage verifier info) verifier stake
  let _token ← unwrapOr storage.bondToken (.panicked "token not set")
  let ledger ← safeTransfer token env storage.bondToken state.ledger verifier amount
  return ({ storage, ledger }, info)

/-- Change the entries alone. -/
def State.storing (computation : Outcome Storage) : Outcome (State Ledger) := do
  let storage ← computation
  return { state with storage }

end Staking

/-- The calls of the module. -/
inductive Call where
  | setMinStake (minStake : Int)
  | registerWithStake (verifier : Address) (stakeDeposit : Int)
  | registerLegacy (verifier : Address)
  | deactivateVerifier (verifier : Address)
  | deactivateIfExists (verifier : Address)
  | withdrawStake (verifier : Address) (amount : Int)
  | setReputation (verifier : Address) (newReputation : Int)
  | recordAttestationIssued (verifier : Address) (weight : Nat)
  | recordAttestationRevoked (verifier : Address) (weight : Nat)

variable {Ledger : Type} (token : TokenInterface Ledger)

/-- The state after a call. -/
def invoke (env : Env) (state : State Ledger) : Call → Outcome (State Ledger)
  | .setMinStake minStake => state.storing (setMinStake state.storage minStake)
  | .registerWithStake verifier stakeDeposit =>
      Prod.fst <$> registerWithStake token env state verifier stakeDeposit
  | .registerLegacy verifier =>
      state.storing (Prod.fst <$> registerLegacy env state.storage verifier)
  | .deactivateVerifier verifier =>
      state.storing (Prod.fst <$> deactivateVerifier env state.storage verifier)
  | .deactivateIfExists verifier =>
      state.storing (deactivateIfExists env state.storage verifier)
  | .withdrawStake verifier amount => Prod.fst <$> withdrawStake token env state verifier amount
  | .setReputation verifier newReputation =>
      state.storing (setReputation state.storage verifier newReputation)
  | .recordAttestationIssued verifier weight =>
      state.storing (recordAttestationIssued env state.storage verifier weight)
  | .recordAttestationRevoked verifier weight =>
      state.storing (recordAttestationRevoked state.storage verifier weight)

/-- What can happen next: a call of the module, or anything at all on the token
ledger. -/
inductive Act (Ledger : Type) where
  | call (call : Call)
  | elsewhere (ledger : Ledger)

/-- One act and the environment it happens in. -/
structure Label (Ledger : Type) where
  env : Env
  act : Act Ledger

/-- The successful steps of the contract deployed at `self`; a failing call has no
effect and is no step. -/
inductive Step (self : Address) : State Ledger → Label Ledger → State Ledger → Prop where
  | call {env : Env} {state after : State Ledger} {call : Call} :
      env.currentContractAddress = self → invoke token env state call = .ok after →
      Step self state ⟨env, .call call⟩ after
  | elsewhere {env : Env} {state : State Ledger} {ledger : Ledger} :
      Step self state ⟨env, .elsewhere ledger⟩ { state with ledger }

/-- The state after a step, where there is one. -/
def next (self : Address) (state : State Ledger) (label : Label Ledger) :
    Option (State Ledger) :=
  match label.act with
  | .call call =>
      if label.env.currentContractAddress = self then
        (invoke token label.env state call).toOption
      else
        none
  | .elsewhere ledger => some { state with ledger }

theorem step_of_next {token : TokenInterface Ledger} {self : Address}
    {state after : State Ledger} {label : Label Ledger}
    (followed : next token self state label = some after) :
    Step token self state label after := by
  obtain ⟨env, act⟩ := label
  cases act with
  | call call =>
      simp only [next] at followed
      split at followed
      · rename_i addressed
        exact .call addressed (Outcome.toOption_eq_some.mp followed)
      · cases followed
  | elsewhere ledger =>
      obtain rfl : { state with ledger } = after := by simpa [next] using followed
      exact .elsewhere

end Verifier
