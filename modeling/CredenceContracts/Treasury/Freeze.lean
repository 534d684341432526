import CredenceContracts.Soroban.PauseLift
import CredenceContracts.Treasury.Spec

/-!
# The paused treasury

A paused treasury keeps its books and moves no tokens.  This ends when the pause is lifted,
or when anyone initialises the treasury again.
-/

namespace Treasury

open Soroban Transition

variable {Ledger : Type} {token : TokenInterface Ledger} {self : Address}

def Paused (state : State Ledger) : Prop :=
  state.storage.pause.paused = true

/-- What a pause freezes: all entries but those of the pause module. -/
def frozenPart (state : State Ledger) : Storage :=
  { state.storage with pause := .deployed }

/-- The event ends the pause: as a call that lifts it, or as another initialisation. -/
inductive Reopens (event : Event (State Ledger) (Label Ledger)) : Prop where
  | lifted {call : Pausable.Call} : event.label.act = .call (.pausable call) →
      event.after.storage.pause.paused = false →
      Pausable.Lifts (Pausable.AdminAuth event.label.env event.before.storage.admin)
        event.before.storage.pause call →
      Reopens event
  | initialized {admin asset : Address} :
      event.label.act = .call (.initializeTreasury admin asset) →
      event.label.env.authorized admin = true → Reopens event

/-- A call of the treasury itself left the token ledger as it was. -/
def MovesNothing (event : Event (State Ledger) (Label Ledger)) : Prop :=
  ∀ call, event.label.act = .call call → event.after.ledger = event.before.ledger

/-- The calls that a pause does not forbid. -/
inductive Open : Call → Prop where
  | initializeTreasury {admin asset : Address} : Open (.initializeTreasury admin asset)
  | pausable {call : Pausable.Call} : Open (.pausable call)

section Pauses

variable {env : Env} {before after start final : State Ledger} {label : Label Ledger}
variable {trace : List (Event (State Ledger) (Label Ledger))}

/-- While the treasury is paused, no other call succeeds. -/
theorem open_of_invoke {call : Call} (paused : Paused before)
    (accepted : invoke token env before call = .ok after) : Open call := by
  unfold Paused at paused
  cases call with
  | initializeTreasury admin asset => exact .initializeTreasury
  | pausable call => exact .pausable
  | _ =>
      simp [invoke, State.storing, receiveFee, executeWithdrawal, withdrawalGuards, rescueNative,
        addDepositor, removeDepositor, addSigner, removeSigner, setThreshold, setToken,
        setMinLiquidity, setProposalTtl, proposeWithdrawal, approveWithdrawal, AdminCall, paused]
        at accepted

/-- A step of the paused treasury ends the pause, or keeps it and the books; and no call of
it moves a token. -/
theorem step_of_paused (paused : Paused before) (stepped : Step token self before label after) :
    (Reopens ⟨before, label, after⟩ ∨ Paused after ∧ frozenPart after = frozenPart before) ∧
      MovesNothing ⟨before, label, after⟩ := by
  cases stepped with
  | elsewhere => exact ⟨.inr ⟨paused, rfl⟩, nofun⟩
  | @call env _ _ call addressed accepted =>
      cases open_of_invoke paused accepted with
      | @initializeTreasury admin asset =>
          obtain ⟨initialized, kept⟩ := storing_eq_ok.mp accepted
          obtain ⟨signed, -⟩ := initializeTreasury_eq_ok.mp initialized
          exact ⟨.inl (.initialized rfl signed), fun _ _ => kept⟩
      | @pausable call =>
          obtain ⟨invoked, kept⟩ := storing_eq_ok.mp accepted
          obtain ⟨pause, invoked, stored⟩ := Outcome.bind_eq_ok.mp invoked
          have same : after.storage = { before.storage with pause } :=
            Outcome.pure_eq_ok.mp stored
          refine ⟨?_, fun _ _ => kept⟩
          cases lowered : pause.paused with
          | true => exact .inr ⟨by rw [Paused, same, lowered], by rw [frozenPart, same]; rfl⟩
          | false =>
              refine .inl (.lifted rfl (by rw [same]; exact lowered) ?_)
              exact (Pausable.lowered_iff paused invoked).mp lowered

theorem keeps_frozen : Freeze.Keeps (Step token self) Paused frozenPart Reopens :=
  fun _ _ _ paused stepped => (step_of_paused paused stepped).1

/-- The calls of a still part of a run move no tokens. -/
theorem movesNothing_of_still (paused : Paused start)
    (run : Run (Step token self) start trace final)
    (still : Freeze.Still Paused frozenPart start trace) : ∀ event ∈ trace, MovesNothing event := by
  intro event member
  obtain ⟨begins, -⟩ := still.begins paused run
  exact (step_of_paused (begins event member) (run.stepped_of_mem member)).2

/-- A treasury that is paused keeps all its entries but those of the pause module and moves
no tokens, whatever is called and by whom, up to the first call that lifts the pause or
initialises the treasury again. -/
theorem paused_treasury_frozen (paused : Paused start)
    (run : Run (Step token self) start trace final) :
    (Freeze.Still Paused frozenPart start trace ∧ (∀ event ∈ trace, MovesNothing event) ∧
      Paused final ∧ frozenPart final = frozenPart start) ∨
    ∃ quiet event later, trace = quiet ++ event :: later ∧
      Freeze.Still Paused frozenPart start quiet ∧ (∀ other ∈ quiet, MovesNothing other) ∧
        frozenPart event.before = frozenPart start ∧ Reopens event := by
  rcases keeps_frozen.run paused run with ⟨still, held, same⟩ | thawed
  · exact .inl ⟨still, movesNothing_of_still paused run still, held, same⟩
  · obtain ⟨quiet, event, later, rfl, still, -, same, reopens⟩ := thawed
    obtain ⟨reached, -⟩ := run.split rfl
    exact .inr ⟨quiet, event, later, rfl, still, movesNothing_of_still paused reached still,
      same, reopens⟩

/-- A treasury that holds a deposit is paused, a signer is added to the pause module and
anyone initialises the treasury again. -/
theorem paused_treasury_frozen_sample :
    ∃ start final : State ReferenceLedger, ∃ trace,
      Run (Step ReferenceLedger.token ⟨0⟩) start trace final ∧ Paused start ∧
        start.storage.totalBalance = 40 ∧ final.storage.totalBalance = 0 ∧
          ∃ quiet event later, trace = quiet ++ event :: later ∧ Reopens event := by
  obtain ⟨start, final, begun, followed, paused, held, emptied⟩ : ∃ start final,
      replay (next ReferenceLedger.token ⟨0⟩) ⟨.deployed, .uniform 100⟩
          [ ⟨.signedByAll ⟨0⟩ 1, .call (.initializeTreasury ⟨1⟩ ⟨9⟩)⟩,
            ⟨.signedByAll ⟨0⟩ 2, .call (.receiveFee ⟨1⟩ 40 .protocolFee)⟩,
            ⟨.signedByAll ⟨0⟩ 3, .call (.pausable (.pause ⟨1⟩))⟩ ] = some start ∧
        replay (next ReferenceLedger.token ⟨0⟩) start
          [ ⟨.signedByAll ⟨0⟩ 4, .call (.pausable (.setPauseSigner ⟨1⟩ ⟨2⟩ true))⟩,
            ⟨.signedBy ⟨7⟩ ⟨0⟩ 5, .call (.initializeTreasury ⟨7⟩ ⟨9⟩)⟩ ] = some final ∧
        start.storage.pause.paused = true ∧ start.storage.totalBalance = 40 ∧
        final.storage.totalBalance = 0 :=
    ⟨_, _, rfl, rfl, rfl, rfl, rfl⟩
  obtain ⟨trace, run, -⟩ := run_of_replay step_of_next followed
  refine ⟨start, final, trace, run, paused, held, emptied, ?_⟩
  rcases paused_treasury_frozen paused run with ⟨-, -, -, same⟩ | ⟨quiet, event, later, ends⟩
  · have kept : (frozenPart final).totalBalance = (frozenPart start).totalBalance := by rw [same]
    change final.storage.totalBalance = start.storage.totalBalance at kept
    rw [held, emptied] at kept
    cases kept
  · exact ⟨quiet, event, later, ends.1, ends.2.2.2.2⟩

end Pauses

end Treasury
