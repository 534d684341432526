import CredenceContracts.Library.Freeze
import CredenceContracts.Soroban.PauseSpec

/-!
# How a pause is lifted

A paused contract is unpaused by its admin as long as no threshold is set, and then by a
proposal to unpause that reached the threshold.  Nothing else lowers the flag, so a
contract that does nothing else while paused is frozen until then.
-/

namespace Pausable

open Soroban MachineInt

variable {env : Env} {storedAdmin : Option Address} {storage after : Storage}

/-- The call lifts a pause: that of an authority while no threshold is set, or the
execution of a proposal to unpause that has its approvals. -/
def Lifts (authority : Address → Prop) (storage : Storage) : Call → Prop
  | .unpause caller => storage.pauseThreshold = 0 ∧ authority caller
  | .executePauseProposal proposalId =>
      storage.pauseProposal proposalId = some PauseAction.unpause.code ∧
        storage.pauseThreshold ≤ storage.pauseApprovalCount proposalId
  | _ => False

theorem Lifts.mono {authority other : Address → Prop} {call : Call}
    (lifts : Lifts authority storage call) (empowers : ∀ caller, authority caller → other caller) :
    Lifts other storage call := by
  cases call with
  | unpause caller => exact ⟨lifts.1, empowers caller lifts.2⟩
  | executePauseProposal proposalId => exact lifts
  | _ => cases lifts

theorem Acted.paused_of_pause {caller : Address} (paused : storage.paused = true)
    (acted : Acted env storedAdmin storage caller .pause after) : after.paused = true := by
  rcases acted with ⟨-, -, rfl⟩ | ⟨-, id, proposed⟩
  · rfl
  · exact (proposeAction_paused proposed).trans paused

theorem unpause_lifts_iff {caller : Address} (paused : storage.paused = true)
    (acted : Acted env storedAdmin storage caller .unpause after) :
    after.paused = false ↔ storage.pauseThreshold = 0 ∧ AdminAuth env storedAdmin caller := by
  constructor
  · intro lowered
    apply acted.of_changed
    simp [lowered, paused]
  · rintro ⟨zero, -⟩
    rcases acted with ⟨-, -, rfl⟩ | ⟨positive, -⟩
    · rfl
    · exact absurd zero positive

theorem executePauseProposal_lifts_iff {proposalId : Nat}
    (executed : executePauseProposal storage proposalId = .ok after) :
    after.paused = false ↔
      storage.pauseProposal proposalId = some PauseAction.unpause.code ∧
        storage.pauseThreshold ≤ storage.pauseApprovalCount proposalId := by
  obtain ⟨action, found, reached, rfl⟩ := executePauseProposal_eq_ok.mp executed
  rw [found, Option.some_inj, PauseAction.code_injective.eq_iff]
  cases action <;> simp [PauseAction.leaves, reached]

/-- A call lowers a raised flag exactly where it lifts the pause. -/
theorem lowered_iff {call : Call} (paused : storage.paused = true)
    (invoked : invoke env storedAdmin storage call = .ok after) :
    after.paused = false ↔ Lifts (AdminAuth env storedAdmin) storage call := by
  cases call with
  | pause caller =>
      have raised := (pause_eq_ok.mp invoked).paused_of_pause paused
      simp [Lifts, raised]
  | unpause caller => exact unpause_lifts_iff paused (unpause_eq_ok.mp invoked)
  | setPauseSigner admin signer enabled =>
      obtain ⟨_, _, _, rfl⟩ := setPauseSigner_frame invoked
      simp [Lifts, paused]
  | setPauseThreshold admin threshold =>
      obtain ⟨-, -, rfl⟩ := setPauseThreshold_eq_ok.mp invoked
      simp [Lifts, paused]
  | approvePauseProposal signer proposalId =>
      obtain ⟨-, -, recorded⟩ := approvePauseProposal_eq_ok.mp invoked
      rw [recordApproval_frame recorded]
      simp [Lifts, paused]
  | executePauseProposal proposalId => exact executePauseProposal_lifts_iff invoked

/-- The pause is lifted by an authority while no threshold is set, or by a proposal to
unpause that as many addresses approved as the threshold asks for. -/
inductive Lifted (authority : Address → Prop) (storage : Storage) : Call → Prop where
  | byAuthority {caller : Address} : storage.pauseThreshold = 0 → authority caller →
      Lifted authority storage (.unpause caller)
  | byApproval {proposalId : Nat} :
      storage.pauseProposal proposalId = some PauseAction.unpause.code →
      (storage.pauseThreshold : ℕ∞) ≤
        (Flags.raised (storage.pauseApproval proposalId)).encard →
      Lifted authority storage (.executePauseProposal proposalId)

/-- Where the counts are exact, so many addresses approved what lifts a pause. -/
theorem Counted.lifted {authority : Address → Prop} {call : Call} (counted : Counted storage)
    (lifts : Lifts authority storage call) : Lifted authority storage call := by
  cases call with
  | unpause caller => exact .byAuthority lifts.1 lifts.2
  | executePauseProposal proposalId =>
      refine .byApproval lifts.1 ?_
      rw [counted.counted proposalId]
      exact_mod_cast lifts.2
  | _ => cases lifts

/-- Nothing happens to a module that nobody is in charge of. -/
theorem invoke_deployed {call : Call} : invoke env none .deployed call ≠ .ok after := by
  intro invoked
  cases call with
  | pause caller =>
      rcases pause_eq_ok.mp invoked with ⟨-, ⟨⟨⟩, -⟩, -⟩ | ⟨positive, -⟩
      exact positive rfl
  | unpause caller =>
      rcases unpause_eq_ok.mp invoked with ⟨-, ⟨⟨⟩, -⟩, -⟩ | ⟨positive, -⟩
      exact positive rfl
  | setPauseSigner admin signer enabled => cases invoked
  | setPauseThreshold admin threshold => cases invoked
  | approvePauseProposal signer proposalId =>
      obtain ⟨⟨-, ⟨⟩⟩, -⟩ := approvePauseProposal_eq_ok.mp invoked
  | executePauseProposal proposalId => cases invoked

section Carriers

open Transition

/-- How a contract carries the module: where its entries are, in which states nobody is in
charge yet, which labels call it, who may pause and unpause alone, and what a pause
freezes. -/
structure Carrier (State Label View : Type) where
  pause : State → Storage
  idle : State → Prop
  env : Label → Env
  call : Label → Option Call
  authority : State → Env → Address → Prop
  frozen : State → View

variable {State Label View : Type} {step : State → Label → State → Prop}
variable {sound : State → Prop} {deployed start final : State}
variable {past trace : List (Event State Label)}

namespace Carrier

/-- What a step of the contract is to the module. -/
inductive Effect (carrier : Carrier State Label View) (before : State) (label : Label)
    (after : State) : Prop where
  /-- A step that a pause forbids. -/
  | unpaused : (carrier.pause before).paused = false →
      carrier.pause after = carrier.pause before →
      (carrier.idle after → carrier.idle before) → Effect carrier before label after
  | initialized : carrier.idle before → ¬carrier.idle after →
      carrier.pause after = (carrier.pause before).reset → Effect carrier before label after
  /-- A step that touches nothing which a pause freezes. -/
  | aside : carrier.pause after = carrier.pause before →
      (carrier.idle after → carrier.idle before) →
      carrier.frozen after = carrier.frozen before → Effect carrier before label after
  | called (call : Call) (storedAdmin : Option Address) : carrier.call label = some call →
      (∀ caller, AdminAuth (carrier.env label) storedAdmin caller →
        carrier.authority before (carrier.env label) caller) →
      (carrier.idle before → storedAdmin = none) →
      invoke (carrier.env label) storedAdmin (carrier.pause before) call =
        .ok (carrier.pause after) →
      (carrier.idle after → carrier.idle before) →
      carrier.frozen after = carrier.frozen before → Effect carrier before label after

/-- Nothing was written while nobody was in charge, and the counts are exact. -/
structure Kept (carrier : Carrier State Label View) (state : State) : Prop where
  deployed : carrier.idle state → carrier.pause state = .deployed
  counted : Counted (carrier.pause state)

/-- Every step from a sound state is one of the effects and leaves a sound state. -/
def Effects (carrier : Carrier State Label View) (step : State → Label → State → Prop)
    (sound : State → Prop) : Prop :=
  ∀ before label after, sound before → step before label after →
    sound after ∧ carrier.Effect before label after

/-- A paused state in which the module is kept. -/
structure Paused (carrier : Carrier State Label View) (sound : State → Prop) (state : State) :
    Prop where
  paused : (carrier.pause state).paused = true
  kept : carrier.Kept state
  soundly : sound state

/-- The event lifts the pause. -/
def Lifts (carrier : Carrier State Label View) (event : Event State Label) : Prop :=
  (carrier.pause event.after).paused = false ∧ ∃ call, carrier.call event.label = some call ∧
    Pausable.Lifts (carrier.authority event.before (carrier.env event.label))
      (carrier.pause event.before) call

/-- The pause of the first state lasted with all that it freezes, or lasted up to the first
event that lifted it: one of an authority while no threshold was set, or the execution of a
proposal to unpause which as many addresses had approved as the threshold asked for. -/
inductive Holds (carrier : Carrier State Label View) (start : State)
    (trace : List (Event State Label)) (final : State) : Prop where
  | still : (∀ event ∈ trace, (carrier.pause event.after).paused = true ∧
        carrier.frozen event.after = carrier.frozen start) →
      (carrier.pause final).paused = true → carrier.frozen final = carrier.frozen start →
      Holds carrier start trace final
  | lifted (quiet : List (Event State Label)) (event : Event State Label)
      (later : List (Event State Label)) (call : Call) : trace = quiet ++ event :: later →
      (∀ other ∈ quiet, (carrier.pause other.after).paused = true ∧
        carrier.frozen other.after = carrier.frozen start) →
      carrier.frozen event.before = carrier.frozen start →
      (carrier.pause event.after).paused = false → carrier.call event.label = some call →
      Lifted (carrier.authority event.before (carrier.env event.label))
        (carrier.pause event.before) call →
      Holds carrier start trace final

variable {carrier : Carrier State Label View} {before after : State} {label : Label}

theorem Effect.kept (effect : carrier.Effect before label after) (kept : carrier.Kept before) :
    carrier.Kept after := by
  cases effect with
  | unpaused _ same idle | aside same idle =>
      constructor
      · intro quiet
        rw [same]
        exact kept.deployed (idle quiet)
      · rw [same]
        exact kept.counted
  | initialized fresh started reset =>
      constructor
      · intro quiet
        exact absurd quiet started
      · rw [reset, kept.deployed fresh]
        exact counted_deployed
  | called call storedAdmin _ _ nobody invoked idle =>
      constructor
      · intro quiet
        rw [nobody (idle quiet), kept.deployed (idle quiet)] at invoked
        exact absurd invoked invoke_deployed
      · exact kept.counted.invoke invoked

theorem kept_of_run (effects : carrier.Effects step sound) (soundly : sound deployed)
    (fresh : carrier.pause deployed = .deployed) (run : Run step deployed past start) :
    carrier.Kept start ∧ sound start := by
  apply run.invariant (fun state => carrier.Kept state ∧ sound state)
  · refine ⟨⟨fun _ => fresh, ?_⟩, soundly⟩
    rw [fresh]
    exact counted_deployed
  · rintro ⟨before, label, after⟩ ⟨kept, held⟩ stepped
    obtain ⟨stays, effect⟩ := effects before label after held stepped
    exact ⟨effect.kept kept, stays⟩

/-- A step of a paused contract lifts the pause, or keeps it and what it freezes. -/
theorem keeps_frozen (effects : carrier.Effects step sound) :
    Freeze.Keeps step (carrier.Paused sound) carrier.frozen carrier.Lifts := by
  intro before label after held stepped
  obtain ⟨stays, effect⟩ := effects before label after held.soundly stepped
  have kept := effect.kept held.kept
  cases effect with
  | unpaused lowered =>
      rw [held.paused] at lowered
      cases lowered
  | initialized fresh =>
      have paused := held.paused
      rw [held.kept.deployed fresh] at paused
      cases paused
  | aside same _ shows => exact .inr ⟨⟨same ▸ held.paused, kept, stays⟩, shows⟩
  | called call storedAdmin called empowers _ invoked _ shows =>
      cases lowered : (carrier.pause after).paused with
      | false =>
          have lifts := (lowered_iff held.paused invoked).mp lowered
          exact .inl ⟨lowered, call, called, lifts.mono empowers⟩
      | true => exact .inr ⟨⟨lowered, kept, stays⟩, shows⟩

theorem holds (effects : carrier.Effects step sound) (soundly : sound deployed)
    (fresh : carrier.pause deployed = .deployed) (reached : Run step deployed past start)
    (paused : (carrier.pause start).paused = true) (run : Run step start trace final) :
    carrier.Holds start trace final := by
  obtain ⟨kept, held⟩ := kept_of_run effects soundly fresh reached
  have initially : carrier.Paused sound start := ⟨paused, kept, held⟩
  rcases (keeps_frozen effects).run initially run with ⟨still, lasts, shows⟩ | thawed
  · refine .still (fun event member => ?_) lasts.paused shows
    obtain ⟨stays, same⟩ := still event member
    exact ⟨stays.paused, same⟩
  · obtain ⟨quiet, event, later, position, still, lasts, shows, lowered, call, called, lifts⟩ :=
      thawed
    refine .lifted quiet event later call position (fun other member => ?_) shows lowered called
      (lasts.kept.counted.lifted lifts)
    obtain ⟨stays, same⟩ := still other member
    exact ⟨stays.paused, same⟩

end Carrier

end Carriers

end Pausable
