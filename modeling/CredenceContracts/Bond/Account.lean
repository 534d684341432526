import CredenceContracts.Bond.Linear
import CredenceContracts.Library.Escrow

/-!
# The bond as an escrow account

Beneath tokens, claims, tiers, schedules and callbacks, the bond contract keeps an escrow
account.  Every call is one lawful operation of it, and so is what a callback contract
achieves during the call, in its place.
-/

namespace CredenceBond

open Soroban MachineInt Transition Reentrancy

variable {Ledger : Type} {ext : Externals Ledger} {env : Env}
variable {before after start final : State Ledger}

section Abstraction

/-- What an escrow account keeps of a bond. -/
def IdentityBond.account (bond : IdentityBond) : Escrow.Account Address where
  owner := bond.identity
  held := bond.bondedAmount
  forfeited := bond.slashedAmount
  active := bond.active

/-- The escrow account that the contract keeps. -/
def State.account (state : State Ledger) : Option (Escrow.Account Address) :=
  state.storage.bond.map IdentityBond.account

/-- What a call is to the account. -/
def Call.operation : Call → Escrow.Operation Address
  | .createBond identity amount _ _ _ => .opened identity amount
  | .topUp _ amount => .paidIn amount
  | .withdraw _ amount => .paidOut amount
  | .withdrawEarly _ amount => .paidOut amount
  | .withdrawBond _ => .settled
  | .liquidate _ => .retired
  | .slash _ amount => .penalized dustThreshold amount
  | .slashBond _ slashAmount _ => .charged slashAmount
  | _ => .unrelated

def Action.operation : Action Ledger → Escrow.Operation Address
  | .call _ invoked => invoked.operation
  | .aside _ => .unrelated

/-- Amounts are signed words, and an action aside does not touch the bond. -/
def Action.Regular : Action Ledger → Prop
  | .call _ (.slashBond _ slashAmount _) => FitsI128 slashAmount
  | .call _ _ => True
  | .aside other => ∀ state after, other.perform state = .ok after →
      after.storage.bond = state.storage.bond

end Abstraction

section Simulation

variable {bond : IdentityBond} {amount : Int} {action : Action Ledger}

theorem account_of_bond (found : before.storage.bond = some bond) :
    before.account = some bond.account := by
  simp [State.account, found]

theorem account_of_same (same : before.storage.SameBond after.storage) :
    after.account = before.account := by
  simp [State.account, same.bond]

theorem sound_account (sound : before.storage.Sound) : Escrow.Sound before.account := by
  rintro _ found
  obtain ⟨bond, stands, rfl⟩ := Option.map_eq_some_iff.mp found
  exact ⟨(sound bond stands).nonnegative, (sound bond stands).within⟩

/-- The slash of a bond is a penalty of its account. -/
theorem penalized_account :
    bond.account.penalized dustThreshold amount =
      bond.slashedAmount + slashedPart bond amount + slashedDust bond amount := by
  have free : bond.account.free = bond.stake := rfl
  unfold Escrow.Account.penalized slashedDust slashedPart
  rw [free]
  by_cases small : bond.stake - min bond.stake amount ≤ dustThreshold
  · rw [if_pos small, if_pos small, add_assoc, add_sub_cancel, IdentityBond.stake,
      add_sub_cancel]
    rfl
  · rw [if_neg small, if_neg small, add_zero]
    rfl

/-- A sum of words that does not wrap below zero is exact. -/
theorem wrappingI128_add_of_nonneg {value : Int} (nonnegative : 0 ≤ value)
    (bounded : value < 2 ^ 127) (fits : FitsI128 amount)
    (low : 0 ≤ wrappingI128 (value + amount)) :
    wrappingI128 (value + amount) = value + amount := by
  unfold FitsI128 at fits
  unfold wrappingI128 at low ⊢
  omega

theorem Call.operation_of_spares {call : Call} (spares : call.Spares) :
    call.operation = .unrelated := by
  cases call with
  | createBond | topUp | withdraw | withdrawEarly | withdrawBond | liquidate | slash
  | slashBond => rcases spares with administers | bystands <;> contradiction
  | _ => rfl

/-- A call is a lawful operation of the account. -/
theorem Change.operates {call : Call} (change : Change ext env before after call)
    (sound : before.storage.Sound) (regular : (Action.call env call : Action Ledger).Regular) :
    Escrow.Step before.account call.operation after.account := by
  cases change with
  | initialized _ _ same | transferred _ _ same =>
      simp only [State.account, same]
      exact .unrelated
  | administered administers _ same =>
      rw [account_of_same same, Call.operation_of_spares (.inl administers)]
      exact .unrelated
  | unrelated bystands same =>
      rw [account_of_same same, Call.operation_of_spares (.inr bystands)]
      exact .unrelated
  | notRenewed same =>
      rw [account_of_same same]
      exact .unrelated
  | created _ low _ _ written =>
      rw [account_of_bond written.bond]
      have positive : 0 ≤ minBondAmount := by decide
      exact .opened (positive.trans low)
  | toppedUp found _ within _ _ written =>
      rw [account_of_bond found, account_of_bond written.bond]
      exact .paidIn within
  | withdrawn found _ _ _ within _ written =>
      rw [account_of_bond found, account_of_bond written.bond]
      exact .paidOut within
  | leftEarly found _ within written =>
      rw [account_of_bond found, account_of_bond written.bond]
      exact .paidOut within
  | closed found _ _ unslashed written =>
      rw [account_of_bond found, account_of_bond written.bond]
      exact .settled unslashed
  | requested found _ written | renewed found _ written | extended found _ written =>
      rw [account_of_bond found, account_of_bond written.bond]
      exact .unrelated
  | liquidated found _ written =>
      rw [account_of_bond found, account_of_bond written.bond]
      exact .retired
  | @slashed bond _ amount found nonnegative _ _ _ written =>
      rw [account_of_bond found, account_of_bond written.bond]
      have penalty : Escrow.Step (some bond.account) (.penalized dustThreshold amount) _ :=
        .penalized nonnegative
      rw [penalized_account] at penalty
      exact penalty
  | @slashBonded bond _ slashAmount _ found _ low high written =>
      rw [account_of_bond found, account_of_bond written.bond]
      obtain ⟨nonnegative, within, bounded⟩ := sound bond found
      have exact_sum := wrappingI128_add_of_nonneg nonnegative (within.trans_lt bounded)
        regular low
      rw [exact_sum] at low high ⊢
      exact .charged low high

/-- So is an action, which keeps the amounts sound. -/
theorem Action.operates (sound : before.storage.Sound) (regular : action.Regular)
    (stepped : SerialStep ext before action after) :
    Escrow.Step before.account action.operation after.account ∧ after.storage.Sound := by
  cases action with
  | aside other =>
      have same : after.storage.bond = before.storage.bond := regular before after stepped
      refine ⟨?_, sound.same same⟩
      simp only [State.account, same]
      exact .unrelated
  | call env call =>
      have change := invoke_change (guarded_silent ext env.currentContractAddress) stepped
      exact ⟨change.operates sound regular, change.sound sound⟩

/-- A schedule is a run of the account. -/
theorem account_run {history : List (Event (State Ledger) (Action Ledger))}
    (sound : start.storage.Sound) (regular : ∀ event ∈ history, event.label.Regular)
    (run : Run (SerialStep ext) start history final) :
    (∃ entries, Run Escrow.Step start.account entries final.account ∧
      entries.map Event.label = history.map fun event => event.label.operation) ∧
      final.storage.Sound := by
  induction run with
  | nil => exact ⟨⟨[], .nil, rfl⟩, sound⟩
  | @snoc trace before after action _ stepped ih =>
      obtain ⟨⟨entries, reached, labels⟩, held⟩ :=
        ih fun event member => regular event (List.mem_append_left _ member)
      obtain ⟨operated, kept⟩ := Action.operates held
        (regular ⟨before, action, after⟩ (by simp)) stepped
      refine ⟨⟨_, reached.snoc operated, ?_⟩, kept⟩
      rw [List.map_append, List.map_append, labels]
      rfl

end Simulation

section Refinement

variable {trace : List (Event (State Ledger) (ReentrantLabel Ledger))}

/-- A run with callbacks is, on the account, the run of the operations that its calls and
what was achieved during them stand for.  No more is ever forfeited than is held, and
between opening and settling the account, what it holds is what was paid in less what was
paid out. -/
theorem bond_refines_escrow (sound : start.storage.Sound)
    (regular : ∀ event ∈ trace, ∀ action ∈ scheduled ext event, action.Regular)
    (run : Run (ReentrantStep ext) start trace final) :
    (∃ entries, Run Escrow.Step start.account entries final.account ∧
      entries.map Event.label = (trace.flatMap (scheduled ext)).map Action.operation) ∧
    Escrow.Sound final.account ∧
    ∀ bond, start.storage.bond = some bond →
      (∀ event ∈ trace, ∀ action ∈ scheduled ext event, action.operation.bounds = false) →
      ∃ later, final.storage.bond = some later ∧ later.identity = bond.identity ∧
        later.bondedAmount = bond.bondedAmount +
          Escrow.balance ((trace.flatMap (scheduled ext)).map Action.operation) := by
  obtain ⟨history, serial, labels, regularly⟩ :=
    run_of_scheduled Action.Regular regular run
  obtain ⟨⟨entries, refined, operations⟩, -⟩ := account_run sound regularly serial
  have same : entries.map Event.label =
      (trace.flatMap (scheduled ext)).map Action.operation := by
    rw [operations, ← labels, List.map_map]
    rfl
  refine ⟨⟨entries, refined, same⟩, Escrow.sound_of_run refined (sound_account sound), ?_⟩
  intro bond found within
  rw [account_of_bond found] at refined
  have inside : ∀ entry ∈ entries, entry.label.bounds = false := by
    intro entry member
    have listed := List.mem_map_of_mem (f := Event.label) member
    rw [same] at listed
    obtain ⟨action, member, operates⟩ := List.mem_map.mp listed
    obtain ⟨source, from_trace, from_source⟩ := List.mem_flatMap.mp member
    rw [← operates]
    exact within source from_trace action from_source
  obtain ⟨account, reached, owner, held⟩ := Escrow.balance_of_run refined inside
  obtain ⟨later, stands, rfl⟩ := Option.map_eq_some_iff.mp reached
  exact ⟨later, stands, owner, same ▸ held⟩

end Refinement

section Sample

def heldBond : IdentityBond where
  identity := ⟨5⟩
  bondedAmount := 1000000000000000000
  bondStart := 0
  bondDuration := 60
  slashedAmount := 0
  active := true
  isRolling := false
  withdrawalRequestedAt := 0
  noticePeriodDuration := 0

def heldSample : State ReferenceLedger :=
  bondSample.store { bondSample.storage with bond := some heldBond, callback := some ⟨6⟩ }

/-- The admin slashes the bond, and its owner tops it up from the callback contract. -/
def slashedAndToppedUp : ReentrantLabel ReferenceLedger where
  action := .call (.signedByAll ⟨0⟩ 0) (.slashBond ⟨1⟩ 3 [])
  callbacks := fun _ =>
    .attempt (.call (.signedByAll ⟨0⟩ 0) (.topUp ⟨5⟩ 500000000000000000))
      (fun _ => .finish) fun _ => .finish

def slashedSchedule : List (Action ReferenceLedger) :=
  [ .call (.signedByAll ⟨0⟩ 0) (.slashBond ⟨1⟩ 3 []),
    .call (.signedByAll ⟨0⟩ 0) (.topUp ⟨5⟩ 500000000000000000) ]

theorem scheduled_slashedAndToppedUp (after : State ReferenceLedger) :
    scheduled Externals.reference ⟨heldSample, slashedAndToppedUp, after⟩ = slashedSchedule :=
  rfl

theorem slashedSchedule_regular : ∀ action ∈ slashedSchedule, action.Regular := by
  simp only [slashedSchedule, List.forall_mem_cons, Action.Regular]
  exact ⟨by decide, trivial, by simp⟩

theorem slashedSchedule_within :
    ∀ action ∈ slashedSchedule, action.operation.bounds = false := by
  simp only [slashedSchedule, List.forall_mem_cons]
  exact ⟨rfl, rfl, by simp⟩

theorem heldSample_sound : heldSample.storage.Sound := by
  rintro _ ⟨⟩
  exact ⟨le_rfl, by decide, by decide⟩

/-- The account is charged, and then paid into from within the charge. -/
theorem bond_refines_escrow_sample :
    ∃ trace final later, Run (ReentrantStep Externals.reference) heldSample trace final ∧
      final.storage.bond = some later ∧ later.identity = ⟨5⟩ ∧
      later.bondedAmount = heldBond.bondedAmount +
        Escrow.balance (slashedSchedule.map Action.operation) := by
  obtain ⟨final, performed⟩ : ∃ final, slashedAndToppedUp.action.perform Externals.reference
      (slashedAndToppedUp.callbacks.answer Externals.reference) heldSample = .ok final :=
    ⟨_, rfl⟩
  have run : Run (ReentrantStep Externals.reference) heldSample
      [⟨heldSample, slashedAndToppedUp, final⟩] final := .single (.done performed)
  have regular : ∀ event ∈ [⟨heldSample, slashedAndToppedUp, final⟩],
      ∀ action ∈ scheduled Externals.reference event, action.Regular := by
    simpa [scheduled_slashedAndToppedUp] using slashedSchedule_regular
  have within : ∀ event ∈ [⟨heldSample, slashedAndToppedUp, final⟩],
      ∀ action ∈ scheduled Externals.reference event, action.operation.bounds = false := by
    simpa [scheduled_slashedAndToppedUp] using slashedSchedule_within
  obtain ⟨-, -, balanced⟩ := bond_refines_escrow heldSample_sound regular run
  obtain ⟨later, stands, owner, held⟩ := balanced heldBond rfl within
  exact ⟨_, final, later, run, stands, owner, by simpa [scheduled_slashedAndToppedUp] using held⟩

end Sample

end CredenceBond
