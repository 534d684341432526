import CredenceContracts.Library.MachineInt
import CredenceContracts.Soroban.Host

/-!
# The token interface

Tokens are contracts of their own, so a development about their callers takes
them as a parameter.  A ledger stands for the state of every token contract and
is changed only through the interface here.  What a caller relies on is stated
as a property of the interface, and a reference token has all of them.
-/

namespace Soroban

/-- The functions of the token interface; the first address after the ledger
names the token contract that is called. -/
structure TokenInterface (Ledger : Type) where
  balance : Ledger → Address → Address → Int
  allowance : Ledger → Address → Address → Address → Int
  decimals : Ledger → Address → Nat
  transfer : Ledger → Address → Address → Address → Int → Option Ledger
  transferFrom : Ledger → Address → Address → Address → Address → Int → Option Ledger

namespace TokenInterface

variable {Ledger : Type}

/-- A transfer out of `payer` credits its recipient with some part of the
amount, possibly none of it and possibly all of it. -/
def CreditsAtMost (token : TokenInterface Ledger) (payer : Address) : Prop :=
  ∀ {ledger after : Ledger} {asset recipient : Address} {amount : Int}, 0 ≤ amount →
    token.transfer ledger asset payer recipient amount = some after →
      0 ≤ token.balance after asset recipient - token.balance ledger asset recipient ∧
        token.balance after asset recipient - token.balance ledger asset recipient ≤ amount

/-- The balances of one token after an amount moved from payer to recipient. -/
def Moves (token : TokenInterface Ledger) (asset payer recipient : Address) (amount : Int)
    (before after : Ledger) : Prop :=
  ∀ account, token.balance after asset account = token.balance before asset account
    - (if account = payer then amount else 0) + (if account = recipient then amount else 0)

section Moves

variable {token : TokenInterface Ledger} {asset payer recipient : Address} {amount more : Int}
variable {before middle after : Ledger}

theorem Moves.refl (ledger : Ledger) : token.Moves asset payer recipient 0 ledger ledger := by
  intro account
  simp

/-- Two movements between the same accounts are one of the sum. -/
theorem Moves.trans (first : token.Moves asset payer recipient amount before middle)
    (second : token.Moves asset payer recipient more middle after) :
    token.Moves asset payer recipient (amount + more) before after := by
  intro account
  have earlier := first account
  have later := second account
  split_ifs at * <;> omega

end Moves

/-- The balances of payer and recipient after an amount left the one and another amount
reached the other. -/
def Delivers (token : TokenInterface Ledger) (asset payer recipient : Address)
    (amount credited : Int) (before after : Ledger) : Prop :=
  ∀ account, account = payer ∨ account = recipient →
    token.balance after asset account = token.balance before asset account
      - (if account = payer then amount else 0) + (if account = recipient then credited else 0)

/-- Transfers debit the payer with the whole amount and credit the recipient with some part
of it, possibly none of it and possibly all of it. -/
def Lossy (token : TokenInterface Ledger) : Prop :=
  ∀ {ledger after : Ledger} {asset payer recipient : Address} {amount : Int},
    token.transfer ledger asset payer recipient amount = some after →
      ∃ credited, 0 ≤ credited ∧ credited ≤ amount ∧
        token.Delivers asset payer recipient amount credited ledger after

/-- Transfers move exactly the amount they are asked to. -/
structure Exact (token : TokenInterface Ledger) : Prop where
  transfer : ∀ {ledger after : Ledger} {asset payer recipient : Address} {amount : Int},
    token.transfer ledger asset payer recipient amount = some after →
      token.Moves asset payer recipient amount ledger after
  transferFrom : ∀ {ledger after : Ledger} {asset spender payer recipient : Address}
    {amount : Int}, token.transferFrom ledger asset spender payer recipient amount = some after →
      token.Moves asset payer recipient amount ledger after

end TokenInterface

/-- One token contract's balances and allowances, for every token contract. -/
structure ReferenceLedger where
  holding : Address → Address → Int
  approved : Address → Address → Address → Int

namespace ReferenceLedger

/-- Everyone holds the same amount of every token and has approved nothing. -/
def uniform (amount : Int) : ReferenceLedger where
  holding := fun _ _ => amount
  approved := fun _ _ _ => 0

/-- Move an amount between two accounts of one token contract. -/
def move (ledger : ReferenceLedger) (asset payer recipient : Address) (amount : Int) :
    Option ReferenceLedger :=
  if amount < 0 ∨ ledger.holding asset payer < amount then
    none
  else
    let debited := Function.update (ledger.holding asset) payer
      (ledger.holding asset payer - amount)
    let credited := Function.update debited recipient (debited recipient + amount)
    some { ledger with holding := Function.update ledger.holding asset credited }

/-- Move an amount on behalf of its owner, within the allowance. -/
def moveFrom (ledger : ReferenceLedger) (asset spender payer recipient : Address)
    (amount : Int) : Option ReferenceLedger :=
  if ledger.approved asset payer spender < amount then
    none
  else do
    let moved ← ledger.move asset payer recipient amount
    let reduced := Function.update (moved.approved asset payer) spender
      (moved.approved asset payer spender - amount)
    return { moved with
      approved := Function.update moved.approved asset
        (Function.update (moved.approved asset) payer reduced) }

/-- The token whose transfers move exactly what they are asked to. -/
def token : TokenInterface ReferenceLedger where
  balance := ReferenceLedger.holding
  allowance := ReferenceLedger.approved
  decimals := fun _ _ => 18
  transfer := ReferenceLedger.move
  transferFrom := ReferenceLedger.moveFrom

theorem move_eq_some {ledger after : ReferenceLedger} {asset payer recipient : Address}
    {amount : Int} (moved : ledger.move asset payer recipient amount = some after) :
    0 ≤ amount ∧ amount ≤ ledger.holding asset payer ∧
      ∀ account, after.holding asset account = ledger.holding asset account
        - (if account = payer then amount else 0)
        + (if account = recipient then amount else 0) := by
  unfold move at moved
  split at moved
  · cases moved
  · rename_i allowed
    cases moved
    refine ⟨by omega, by omega, fun account => ?_⟩
    by_cases paying : account = payer <;> by_cases paid : account = recipient <;>
      simp_all [Function.update]

theorem creditsAtMost (payer : Address) : token.CreditsAtMost payer := by
  intro ledger after asset recipient amount nonnegative moved
  obtain ⟨-, -, holding⟩ := move_eq_some moved
  have credited := holding recipient
  simp only [token] at credited ⊢
  split at credited <;> simp_all

theorem exact : token.Exact where
  transfer moved := (move_eq_some moved).2.2
  transferFrom {ledger after asset spender payer recipient amount} moved := by
    simp only [token, moveFrom] at moved
    split at moved
    · cases moved
    · obtain ⟨middle, first, rest⟩ := Option.bind_eq_some_iff.mp moved
      cases rest
      exact (move_eq_some first).2.2

end ReferenceLedger

end Soroban
