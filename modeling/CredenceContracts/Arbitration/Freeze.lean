import CredenceContracts.Arbitration.Ballots
import CredenceContracts.Soroban.PauseLift

/-!
# The paused arbitration

A pause freezes every dispute, vote, arbitrator and quorum, also where the voting period
of a dispute begins or ends meanwhile.
-/

namespace Arbitration

open Soroban Transition

section Pauses

variable {env : Env} {before after start final : Storage} {label : Label}
variable {past trace : List (Event Storage Label)}

def Label.pauseCall (label : Label) : Option Pausable.Call :=
  match label.call with
  | .pausable call => some call
  | _ => none

/-- The contract as a carrier of the pause module. -/
def pauseCarrier : Pausable.Carrier Storage Label Storage where
  pause := Storage.pause
  idle storage := storage.admin = none
  env := Label.env
  call := Label.pauseCall
  authority storage env := Pausable.AdminAuth env storage.admin
  frozen storage := { storage with pause := .deployed }

theorem pausable_answer {call : Pausable.Call} {value : Value}
    (stepped : Step before ⟨env, .pausable call, .ok value⟩ after) :
    ∃ pause, Pausable.invoke env before.admin before.pause call = .ok pause ∧
      after = { before with pause } := by
  simp only [Step, invoke, Body.bind_eq_ok, Body.orPanic_eq_ok, Body.exec_get,
    Body.exec_modify, Body.exec_pure, Except.ok.injEq, Prod.mk.injEq] at stepped
  obtain ⟨_, _, ⟨rfl, rfl⟩, pause, _, ⟨invoked, rfl⟩, _, _, ⟨-, rfl⟩, -, rfl⟩ := stepped
  exact ⟨pause, invoked, rfl⟩

/-- A step that answers with an error touches nothing; every other one but those of the
pause module and the first of all needs the contract unpaused. -/
theorem pauseEffect_of_step (stepped : Step before label after) :
    pauseCarrier.Effect before label after := by
  obtain ⟨env, call, answer⟩ := label
  cases answer with
  | error raised =>
      obtain rfl : after = before := invoke_atomic stepped
      exact .aside rfl id rfl
  | ok value =>
      cases call with
      | initializeArbitration admin =>
          obtain ⟨_, done, -⟩ := Body.ok_of_answer stepped
          obtain ⟨unset, rfl⟩ := initializeArbitration_eq_ok.mp done
          exact .initialized unset nofun rfl
      | registerArbitrator arbitrator weight =>
          obtain ⟨_, done, -⟩ := Body.ok_of_answer stepped
          obtain ⟨⟨unpaused, -⟩, -, rfl⟩ := registerArbitrator_eq_ok.mp done
          exact .unpaused unpaused rfl id
      | unregisterArbitrator arbitrator =>
          obtain ⟨_, done, -⟩ := Body.ok_of_answer stepped
          obtain ⟨⟨unpaused, -⟩, rfl⟩ := unregisterArbitrator_eq_ok.mp done
          exact .unpaused unpaused rfl id
      | createDispute creator description duration =>
          obtain ⟨_, done, -⟩ := Body.ok_of_answer stepped
          obtain ⟨⟨unpaused, -⟩, -, -, -, rfl⟩ := createDispute_eq_ok.mp done
          exact .unpaused unpaused rfl id
      | cancelDispute caller disputeId reason =>
          obtain ⟨_, done, -⟩ := Body.ok_of_answer stepped
          obtain ⟨⟨unpaused, -⟩, -, _, _, _, -, -, -, -, rfl⟩ := cancelDispute_eq_ok.mp done
          exact .unpaused unpaused rfl id
      | vote voter disputeId outcome =>
          obtain ⟨_, done, -⟩ := Body.ok_of_answer stepped
          obtain ⟨⟨unpaused, -⟩, -, _, _, -, -, -, -, -, -, rfl⟩ := vote_eq_ok.mp done
          exact .unpaused unpaused rfl id
      | resolveDispute disputeId =>
          obtain ⟨_, done, -⟩ := Body.ok_of_answer stepped
          obtain ⟨unpaused, _, -, -, -, -, -, rfl⟩ := resolveDispute_eq_ok.mp done
          exact .unpaused unpaused rfl id
      | setQuorum admin minTotalWeight minVoters =>
          obtain ⟨_, done, -⟩ := Body.ok_of_answer stepped
          obtain ⟨⟨unpaused, -⟩, -, rfl⟩ := setQuorum_eq_ok.mp done
          exact .unpaused unpaused rfl id
      | pausable call =>
          obtain ⟨pause, invoked, rfl⟩ := pausable_answer stepped
          exact .called call before.admin rfl (fun _ => id) id invoked id rfl

/-- From a paused state of the contract on, its admin, arbitrators, disputes, votes and
quorum stay as they are until the pause is lifted. -/
theorem paused_arbitration_frozen (reached : Run Step .deployed past start)
    (paused : start.pause.paused = true) (run : Run Step start trace final) :
    pauseCarrier.Holds start trace final := by
  have effects : pauseCarrier.Effects Step fun _ => True :=
    fun _ _ _ _ stepped => ⟨trivial, pauseEffect_of_step stepped⟩
  exact Pausable.Carrier.holds effects trivial rfl reached paused run

/-- The admin pauses while a dispute is open, and unpauses after its voting period. -/
theorem paused_arbitration_frozen_sample :
    ∃ start trace final, Run Step start trace final ∧ start.pause.paused = true ∧
      final.pause.paused = false ∧ pauseCarrier.Holds start trace final := by
  obtain ⟨start, final, begun, followed, paused, lifted⟩ : ∃ start final,
      replay next .deployed
          [ votingLabel 1 (.initializeArbitration ⟨1⟩) .unit,
            votingLabel 2 (.registerArbitrator ⟨2⟩ 5) .unit,
            votingLabel 3 (.createDispute ⟨3⟩ [] 10) (.number 0),
            votingLabel 4 (.pausable (.pause ⟨1⟩)) .unit ] = some start ∧
        replay next start [votingLabel 20 (.pausable (.unpause ⟨1⟩)) .unit] = some final ∧
        start.pause.paused = true ∧ final.pause.paused = false :=
    ⟨_, _, rfl, rfl, rfl, rfl⟩
  obtain ⟨_, reached, -⟩ := run_of_replay step_of_next begun
  obtain ⟨trace, run, -⟩ := run_of_replay step_of_next followed
  exact ⟨start, trace, final, run, paused, lifted,
    paused_arbitration_frozen reached paused run⟩

end Pauses

end Arbitration
