import CredenceContracts.Registry.Bijection
import CredenceContracts.Soroban.PauseLift

/-!
# The paused registry

A pause freezes the tables, the list and the admin of the registry.  Only the hash that
the admin pins and the pause module itself change until the pause is lifted.
-/

namespace Registry

open Soroban Transition

section Pauses

variable {before after start final : Storage} {label : Label}
variable {past trace : List (Event Storage Label)}

def Label.pauseCall (label : Label) : Option Pausable.Call :=
  match label.call with
  | .pausable call => some call
  | _ => none

/-- The registry as a carrier of the pause module. -/
def pauseCarrier : Pausable.Carrier Storage Label Storage where
  pause := Storage.pause
  idle storage := storage.admin = none
  env := Label.env
  call := Label.pauseCall
  authority storage env := Pausable.AdminAuth env storage.admin
  frozen storage := { storage with pause := .deployed, bondCodeHash := [] }

theorem effect_of_step (stepped : Step before label after) :
    pauseCarrier.Effect before label after := by
  obtain ⟨env, contracts, call⟩ := label
  cases call with
  | initializeRegistry admin =>
      obtain ⟨unset, -, rfl⟩ := initializeRegistry_eq_ok.mp stepped
      exact .initialized unset nofun rfl
  | register identity bondContract waived =>
      obtain ⟨⟨_, _⟩, registered, rfl⟩ := Outcome.map_eq_ok.mp stepped
      obtain ⟨⟨unpaused, -⟩, -, -, -, -, rfl⟩ := register_eq_ok.mp registered
      exact .unpaused unpaused rfl id
  | deactivate identity =>
      obtain ⟨⟨unpaused, -⟩, _, -, -, rfl⟩ := deactivate_eq_ok.mp stepped
      exact .unpaused unpaused rfl id
  | remove identity =>
      obtain ⟨⟨unpaused, -⟩, _, -, rfl⟩ := remove_eq_ok.mp stepped
      exact .unpaused unpaused rfl id
  | reactivate identity =>
      obtain ⟨⟨unpaused, -⟩, _, -, -, rfl⟩ := reactivate_eq_ok.mp stepped
      exact .unpaused unpaused rfl id
  | transferAdmin newAdmin =>
      obtain ⟨⟨unpaused, -⟩, rfl⟩ := transferAdmin_eq_ok.mp stepped
      exact .unpaused unpaused rfl nofun
  | setBondCodeHash codeHash =>
      obtain ⟨-, rfl⟩ := setBondCodeHash_eq_ok.mp stepped
      exact .aside rfl id rfl
  | registerTrustless caller identity =>
      obtain ⟨⟨_, _⟩, registered, rfl⟩ := Outcome.map_eq_ok.mp stepped
      obtain ⟨⟨unpaused, -⟩, ⟨-, -, -, rfl⟩ | ⟨-, -, stored⟩⟩ :=
        registerTrustless_eq_ok.mp registered
      · exact .unpaused unpaused rfl id
      · obtain rfl : after = (storePair env before identity caller).1 :=
          congrArg Prod.fst stored
        exact .unpaused unpaused rfl id
  | pausable call =>
      obtain ⟨pause, invoked, stored⟩ := Outcome.bind_eq_ok.mp stepped
      obtain rfl := Outcome.pure_eq_ok.mp stored
      exact .called call before.admin rfl (fun _ => id) id invoked id rfl

/-- From a paused state of the registry on, its tables, its list and its admin stay as they
are until the pause is lifted. -/
theorem paused_registry_frozen (reached : Run Step .deployed past start)
    (paused : start.pause.paused = true) (run : Run Step start trace final) :
    pauseCarrier.Holds start trace final := by
  have effects : pauseCarrier.Effects Step fun _ => True :=
    fun _ _ _ _ stepped => ⟨trivial, effect_of_step stepped⟩
  exact Pausable.Carrier.holds effects trivial rfl reached paused run

/-- A pause signer pauses the registry, the admin pins a hash, and the signer unpauses. -/
theorem paused_registry_frozen_sample :
    ∃ start trace final, Run Step start trace final ∧ start.pause.paused = true ∧
      start.bondCodeHash = [] ∧ final.bondCodeHash = List.replicate 32 7 ∧
        final.pause.paused = false ∧ pauseCarrier.Holds start trace final := by
  obtain ⟨start, final, begun, followed, paused, unpinned, pinned, lifted⟩ : ∃ start final,
      replay next .deployed
          [ sampleLabel 1 (.initializeRegistry ⟨1⟩),
            sampleLabel 2 (.register ⟨2⟩ ⟨20⟩ false),
            sampleLabel 3 (.pausable (.setPauseSigner ⟨1⟩ ⟨7⟩ true)),
            sampleLabel 4 (.pausable (.setPauseThreshold ⟨1⟩ 1)),
            sampleLabel 5 (.pausable (.pause ⟨7⟩)),
            sampleLabel 6 (.pausable (.executePauseProposal 0)) ] = some start ∧
        replay next start
          [ sampleLabel 7 (.setBondCodeHash (List.replicate 32 7)),
            sampleLabel 8 (.pausable (.unpause ⟨7⟩)),
            sampleLabel 9 (.pausable (.executePauseProposal 1)) ] = some final ∧
        start.pause.paused = true ∧ start.bondCodeHash = [] ∧
        final.bondCodeHash = List.replicate 32 7 ∧ final.pause.paused = false :=
    ⟨_, _, rfl, rfl, rfl, rfl, rfl, rfl⟩
  obtain ⟨_, reached, -⟩ := run_of_replay step_of_next begun
  obtain ⟨trace, run, -⟩ := run_of_replay step_of_next followed
  exact ⟨start, trace, final, run, paused, unpinned, pinned, lifted,
    paused_registry_frozen reached paused run⟩

end Pauses

end Registry
