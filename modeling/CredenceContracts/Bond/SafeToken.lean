import CredenceContracts.Soroban.Token

/-!
# Safe token calls

Transfers of the configured token, out of the contract and into it.
-/

namespace SafeToken

open Soroban
open Outcome (rejectIf unwrapOr)

variable {Ledger : Type} (token : TokenInterface Ledger) (env : Env)
variable (bondToken : Option Address) (ledger : Ledger)

def getToken : Outcome Address :=
  unwrapOr bondToken (.panicked "token not configured - contract not properly initialized")

def validateAmount (amount : Int) : Outcome Unit :=
  rejectIf (amount < 0) (.panicked "amount must be non-negative")

def safeTransfer (recipient : Address) (amount : Int) : Outcome Ledger := do
  validateAmount amount
  if amount = 0 then
    return ledger
  else
    let asset ← getToken bondToken
    unwrapOr (token.transfer ledger asset env.currentContractAddress recipient amount)
      (.panicked "token transfer failed")

def safeTransferFrom (owner : Address) (amount : Int) : Outcome Ledger := do
  validateAmount amount
  if amount = 0 then
    return ledger
  else
    let asset ← getToken bondToken
    let contract := env.currentContractAddress
    rejectIf (token.allowance ledger asset owner contract < amount)
      (.panicked "insufficient token allowance")
    unwrapOr (token.transferFrom ledger asset contract owner contract amount)
      (.panicked "token transfer failed")

section Moves

variable {token : TokenInterface Ledger} {env : Env} {bondToken : Option Address}
variable {ledger after : Ledger} {amount : Int} {asset : Address}

/-- A transfer out pays the recipient. -/
theorem safeTransfer_moves {recipient : Address} (exact : token.Exact)
    (configured : bondToken = some asset)
    (paid : safeTransfer token env bondToken ledger recipient amount = .ok after) :
    token.Moves asset env.currentContractAddress recipient amount ledger after := by
  simp only [safeTransfer, Outcome.bind_eq_ok] at paid
  obtain ⟨-, -, paid⟩ := paid
  split at paid
  · rename_i zero
    obtain rfl := Outcome.pure_eq_ok.mp paid
    simp [TokenInterface.Moves, zero]
  · simp only [Outcome.bind_eq_ok, getToken, Outcome.unwrapOr_eq_ok, configured,
      Option.some.injEq] at paid
    obtain ⟨_, rfl, moved⟩ := paid
    exact exact.transfer moved

/-- A transfer in pays the contract. -/
theorem safeTransferFrom_moves {owner : Address} (exact : token.Exact)
    (configured : bondToken = some asset)
    (pulled : safeTransferFrom token env bondToken ledger owner amount = .ok after) :
    token.Moves asset owner env.currentContractAddress amount ledger after := by
  simp only [safeTransferFrom, Outcome.bind_eq_ok] at pulled
  obtain ⟨-, -, pulled⟩ := pulled
  split at pulled
  · rename_i zero
    obtain rfl := Outcome.pure_eq_ok.mp pulled
    simp [TokenInterface.Moves, zero]
  · simp only [Outcome.bind_eq_ok, getToken, Outcome.unwrapOr_eq_ok, configured,
      Option.some.injEq] at pulled
    obtain ⟨_, rfl, -, -, moved⟩ := pulled
    exact exact.transferFrom moved

end Moves

end SafeToken
