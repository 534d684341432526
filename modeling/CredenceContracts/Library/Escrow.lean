import CredenceContracts.Library.Run
import Mathlib.Algebra.BigOperators.Group.List.Basic
import Mathlib.Data.Int.Order.Basic

/-!
# Escrow accounts

An account holds what its owner paid in, of which a part may be forfeited.  The owner
takes out no more than what is not forfeited, and settles an account of which nothing is.
Opening an account replaces the one before it.
-/

namespace Escrow

open Transition

structure Account (Owner : Type) where
  owner : Owner
  held : Int
  forfeited : Int
  active : Bool
  deriving DecidableEq

variable {Owner : Type}

/-- What the owner may take out. -/
def Account.free (account : Account Owner) : Int :=
  account.held - account.forfeited

/-- What a penalty leaves forfeited: the amount within what is free, and with it a rest
that is no more than dust. -/
def Account.penalized (account : Account Owner) (dust amount : Int) : Int :=
  if account.free - min account.free amount ≤ dust then
    account.held
  else
    account.forfeited + min account.free amount

/-- A penalty only adds to what is forfeited, and no more than what is free. -/
theorem Account.penalized_between (account : Account Owner) (dust : Int) {amount : Int}
    (within : account.forfeited ≤ account.held) (nonnegative : 0 ≤ amount) :
    account.forfeited ≤ account.penalized dust amount ∧
      account.penalized dust amount ≤ account.held := by
  unfold Account.penalized Account.free
  split <;> omega

/-- What is done to an account. -/
inductive Operation (Owner : Type) where
  | opened (owner : Owner) (amount : Int)
  | paidIn (amount : Int)
  | paidOut (amount : Int)
  | penalized (dust amount : Int)
  | charged (amount : Int)
  | settled
  | retired
  | unrelated

/-- No more is forfeited than is held, and nothing negative is. -/
structure Account.Sound (account : Account Owner) : Prop where
  nonnegative : 0 ≤ account.forfeited
  within : account.forfeited ≤ account.held

/-- The lawful operations; a charge may also be taken back. -/
inductive Step : Option (Account Owner) → Operation Owner → Option (Account Owner) → Prop where
  | opened {before : Option (Account Owner)} {owner : Owner} {amount : Int} : 0 ≤ amount →
      Step before (.opened owner amount) (some ⟨owner, amount, 0, true⟩)
  | paidIn {account : Account Owner} {amount : Int} :
      account.forfeited ≤ account.held + amount →
      Step (some account) (.paidIn amount)
        (some { account with held := account.held + amount })
  | paidOut {account : Account Owner} {amount : Int} : amount ≤ account.free →
      Step (some account) (.paidOut amount)
        (some { account with held := account.held - amount })
  | penalized {account : Account Owner} {dust amount : Int} : 0 ≤ amount →
      Step (some account) (.penalized dust amount)
        (some { account with forfeited := account.penalized dust amount })
  | charged {account : Account Owner} {amount : Int} : 0 ≤ account.forfeited + amount →
      account.forfeited + amount ≤ account.held →
      Step (some account) (.charged amount)
        (some { account with forfeited := account.forfeited + amount })
  | settled {account : Account Owner} : account.forfeited = 0 →
      Step (some account) .settled (some { account with held := 0, active := false })
  | retired {account : Account Owner} :
      Step (some account) .retired (some { account with active := false })
  | unrelated {before : Option (Account Owner)} : Step before .unrelated before

variable {before after start final : Option (Account Owner)} {operation : Operation Owner}
variable {trace : List (Event (Option (Account Owner)) (Operation Owner))}

/-- An account that is there is sound. -/
def Sound (state : Option (Account Owner)) : Prop :=
  ∀ account, state = some account → account.Sound

theorem Step.sound (stepped : Step before operation after) (sound : Sound before) :
    Sound after := by
  rintro _ rfl
  cases stepped with
  | opened nonnegative => exact ⟨le_rfl, nonnegative⟩
  | paidIn within => exact ⟨(sound _ rfl).nonnegative, within⟩
  | @paidOut account amount within =>
      refine ⟨(sound _ rfl).nonnegative, ?_⟩
      unfold Account.free at within
      simp only
      omega
  | @penalized account dust amount nonnegative =>
      obtain ⟨low, high⟩ := sound _ rfl
      obtain ⟨more, fits⟩ := account.penalized_between dust high nonnegative
      exact ⟨low.trans more, fits⟩
  | charged low high => exact ⟨low, high⟩
  | settled nothing => exact ⟨nothing.ge, nothing.le⟩
  | retired => exact ⟨(sound _ rfl).nonnegative, (sound _ rfl).within⟩
  | unrelated => exact sound _ rfl

theorem sound_of_run (run : Run Step start trace final) (sound : Sound start) : Sound final :=
  run.invariant Sound sound fun _ held stepped => stepped.sound held

section Balance

/-- What an operation pays in, less what it pays out. -/
def Operation.balance : Operation Owner → Int
  | .paidIn amount => amount
  | .paidOut amount => -amount
  | _ => 0

/-- The operation opens an account or settles it. -/
def Operation.bounds : Operation Owner → Bool
  | .opened .. | .settled => true
  | _ => false

def balance (operations : List (Operation Owner)) : Int :=
  (operations.map Operation.balance).sum

variable {account : Account Owner}

/-- Between opening and settling, an account stays with its owner, and what it holds
changes by what is paid. -/
theorem Step.balance (stepped : Step (some account) operation after)
    (within : operation.bounds = false) :
    ∃ later, after = some later ∧ later.owner = account.owner ∧
      later.held = account.held + operation.balance := by
  cases stepped with
  | opened | settled => cases within
  | paidIn | charged | penalized | retired | unrelated =>
      exact ⟨_, rfl, rfl, by simp [Operation.balance]⟩
  | paidOut => exact ⟨_, rfl, rfl, rfl⟩

theorem balance_of_run (run : Run Step (some account) trace final)
    (within : ∀ event ∈ trace, event.label.bounds = false) :
    ∃ later, final = some later ∧ later.owner = account.owner ∧
      later.held = account.held + Escrow.balance (trace.map Event.label) := by
  induction run with
  | nil => exact ⟨account, rfl, rfl, by simp [Escrow.balance]⟩
  | @snoc trace before after operation _ stepped ih =>
      obtain ⟨middle, rfl, same, sum⟩ :=
        ih fun event member => within event (List.mem_append_left _ member)
      obtain ⟨later, rfl, kept, change⟩ :=
        stepped.balance (within ⟨some middle, operation, after⟩ (by simp))
      refine ⟨later, rfl, kept.trans same, ?_⟩
      rw [change, sum]
      simp [Escrow.balance, add_assoc]

end Balance

end Escrow
