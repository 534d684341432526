import CredenceContracts.Admin.Spec
import CredenceContracts.Soroban.PauseLift

/-!
# The paused admin contract

A pause freezes the admins, their roles and the ownership.  Any super admin may lift it
alone while no threshold is set, also one who is deactivated or suspended.
-/

namespace Admin

open Soroban Transition

section Pauses

variable {strkey : Address → String} {env : Env} {before after start final : Storage}
variable {past trace : List (Event Storage Label)}

/-- The address has the role of a super admin and authorised the call. -/
def SuperAdminAuth (storage : Storage) (env : Env) (caller : Address) : Prop :=
  storage.roleOf caller = some .superAdmin ∧ env.authorized caller = true

def Label.pauseCall (label : Label) : Option Pausable.Call :=
  match label.call with
  | .pausable call => some call
  | _ => none

/-- The contract as a carrier of the pause module. -/
def pauseCarrier : Pausable.Carrier Storage Label Storage where
  pause := Storage.pause
  idle storage := storage.initialized = false
  env := Label.env
  call := Label.pauseCall
  authority := SuperAdminAuth
  frozen storage := { storage with pause := .deployed }

/-- The request of a super admin or of a pause signer is one of the shared module. -/
theorem requestAction_shared {caller : Address} {pause : Pausable.Storage}
    (action : Pausable.PauseAction)
    (requested : Prod.fst <$> requestAction env before caller action action.leaves = .ok pause) :
    ∃ storedAdmin, (∀ admin, storedAdmin = some admin → SuperAdminAuth before env admin) ∧
      Pausable.Acted env storedAdmin before.pause caller action pause := by
  obtain ⟨⟨_, id⟩, requested, rfl⟩ := Outcome.map_eq_ok.mp requested
  unfold requestAction at requested
  split at requested
  · rename_i zero
    simp only [Outcome.bind_eq_ok, requireAdminAuth_eq_ok, Outcome.pure_eq_ok, Prod.mk.injEq]
      at requested
    obtain ⟨-, signed, rfl, -⟩ := requested
    refine ⟨some caller, ?_, .inl ⟨zero, ⟨rfl, signed.2⟩, rfl⟩⟩
    rintro _ ⟨⟩
    exact signed
  · rename_i positive
    exact ⟨none, by simp, .inr ⟨positive, id, requested⟩⟩

/-- A call of the module is one of the shared module under some super admin, or none. -/
theorem invokePause_shared {call : Pausable.Call} {pause : Pausable.Storage}
    (invoked : invokePause strkey env before call = .ok pause) :
    ∃ storedAdmin, (∀ admin, storedAdmin = some admin → SuperAdminAuth before env admin) ∧
      Pausable.invoke env storedAdmin before.pause call = .ok pause := by
  cases call with
  | pause caller =>
      obtain ⟨storedAdmin, empowers, acted⟩ :=
        requestAction_shared .pause invoked
      exact ⟨storedAdmin, empowers, Pausable.pause_eq_ok.mpr acted⟩
  | unpause caller =>
      obtain ⟨storedAdmin, empowers, acted⟩ :=
        requestAction_shared .unpause invoked
      exact ⟨storedAdmin, empowers, Pausable.unpause_eq_ok.mpr acted⟩
  | setPauseSigner admin signer enabled =>
      simp only [invokePause, setPauseSigner, Outcome.bind_eq_ok, requireAdminAuth_eq_ok]
        at invoked
      obtain ⟨-, signed, -, -, invoked⟩ := invoked
      refine ⟨some admin, ?_, invoked⟩
      rintro _ ⟨⟩
      exact signed
  | setPauseThreshold admin threshold =>
      simp only [invokePause, setPauseThreshold, Outcome.bind_eq_ok, requireAdminAuth_eq_ok]
        at invoked
      obtain ⟨-, signed, invoked⟩ := invoked
      refine ⟨some admin, ?_, invoked⟩
      rintro _ ⟨⟩
      exact signed
  | approvePauseProposal signer proposalId => exact ⟨none, by simp, invoked⟩
  | executePauseProposal proposalId => exact ⟨none, by simp, invoked⟩

theorem effect_of_step {label : Label} (sound : Sound before)
    (stepped : Step strkey before label after) : pauseCarrier.Effect before label after := by
  obtain ⟨env, call⟩ := label
  cases step_change stepped with
  | initialized fresh _ _ stored =>
      subst stored
      exact .initialized fresh nofun rfl
  | added admitted _ _ stored | removed admitted _ _ _ stored | roleUpdated admitted _ _ stored
  | deactivated admitted _ _ _ stored | reactivated admitted _ _ _ stored
  | suspended admitted _ _ _ stored | offered admitted _ _ _ _ stored
  | accepted admitted _ stored =>
      subst stored
      exact .unpaused admitted.1 rfl id
  | paused invoked stored =>
      subst stored
      obtain ⟨storedAdmin, empowers, shared⟩ := invokePause_shared invoked
      refine .called _ storedAdmin rfl ?_ ?_ shared id rfl
      · rintro caller ⟨named, -⟩
        exact empowers caller named
      · intro fresh
        cases storedAdmin with
        | none => rfl
        | some admin =>
            have nobody := sound.fresh fresh admin
            have role := (empowers admin rfl).1
            rw [Storage.roleOf, nobody] at role
            cases role

/-- From a paused state of the contract on, its admins, their roles and the ownership stay
as they are until the pause is lifted. -/
theorem paused_admins_frozen (reached : Run (Step strkey) .deployed past start)
    (paused : start.pause.paused = true) (run : Run (Step strkey) start trace final) :
    pauseCarrier.Holds start trace final := by
  have effects : pauseCarrier.Effects (Step strkey) Sound :=
    fun _ _ _ sound stepped => ⟨sound.step stepped, effect_of_step sound stepped⟩
  exact Pausable.Carrier.holds effects .deployed rfl reached paused run

/-- A super admin who is suspended lifts the pause that another one asked for. -/
theorem paused_admins_frozen_sample :
    ∃ start trace final, Run (Step fun _ => "") start trace final ∧
      start.pause.paused = true ∧ final.pause.paused = false ∧
        pauseCarrier.Holds start trace final := by
  obtain ⟨start, final, begun, followed, paused, lifted⟩ : ∃ start final,
      replay (next fun _ => "") .deployed
          [ ⟨.signedByAll ⟨0⟩ 1, .initializeAdmin ⟨1⟩ 1 5⟩,
            ⟨.signedByAll ⟨0⟩ 2, .addAdmin ⟨1⟩ ⟨2⟩ .superAdmin⟩,
            ⟨.signedByAll ⟨0⟩ 3, .suspendAdmin ⟨1⟩ ⟨2⟩ 9⟩,
            ⟨.signedByAll ⟨0⟩ 4, .pausable (.pause ⟨1⟩)⟩ ] = some start ∧
        replay (next fun _ => "") start
          [⟨.signedByAll ⟨0⟩ 5, .pausable (.unpause ⟨2⟩)⟩] = some final ∧
        start.pause.paused = true ∧ final.pause.paused = false :=
    ⟨_, _, rfl, rfl, rfl, rfl⟩
  obtain ⟨_, reached, -⟩ := run_of_replay step_of_next begun
  obtain ⟨trace, run, -⟩ := run_of_replay step_of_next followed
  exact ⟨start, trace, final, run, paused, lifted, paused_admins_frozen reached paused run⟩

end Pauses

end Admin
