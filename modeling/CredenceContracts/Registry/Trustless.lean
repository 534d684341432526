import CredenceContracts.Registry.Spec

/-!
# Trustless registration

A registration without the admin is meant to authenticate the code of the bond contract
that asks for it.  What the registry compares with the pinned hash is the hash that the
contract reports of itself, so the code is authenticated exactly as long as the
contracts that register report the code they are deployed with.
-/

namespace Registry

open Soroban Transition

variable {env : Env} {contracts : Contracts} {storage after : Storage}
variable {trace : List (Event Storage Label)}

/-- The contract reports the hash of the code it is deployed with. -/
def Honest (contracts : Contracts) (caller : Address) : Prop :=
  contracts.reportedCodeHash caller = contracts.deployedCodeHash caller

/-- A trustless registration of the step came from the pinned code. -/
def Authenticated (event : Event Storage Label) : Prop :=
  ∀ caller identity, event.label.call = .registerTrustless caller identity →
    event.label.contracts.deployedCodeHash caller = some event.before.bondCodeHash

/-- An entry that a trustless registration of the step created names a bond contract
with the pinned code. -/
def NamesBondCode (event : Event Storage Label) : Prop :=
  ∀ caller identity, event.label.call = .registerTrustless caller identity →
    event.before.identityToBond identity = none →
      ∃ entry, event.after.identityToBond identity = some entry ∧
        event.label.contracts.deployedCodeHash entry.bondContract =
          some event.before.bondCodeHash

/-- A trustless registration of the step came from an honest contract. -/
def FromHonest (event : Event Storage Label) : Prop :=
  ∀ caller identity, event.label.call = .registerTrustless caller identity →
    Honest event.label.contracts caller

section Calls

/-- A caller that succeeds has the pinned code if and only if it is honest. -/
theorem deployed_iff_honest {caller identity : Address} {entry : RegistryEntry}
    (registered : registerTrustless env storage contracts caller identity =
      .ok (after, entry)) :
    contracts.deployedCodeHash caller = some storage.bondCodeHash ↔
      Honest contracts caller := by
  obtain ⟨⟨-, -, -, reported⟩, -⟩ := registerTrustless_eq_ok.mp registered
  unfold Honest
  rw [reported]
  exact eq_comm

/-- The entry under the identity names the caller afterwards. -/
theorem registerTrustless_stores {caller identity : Address} {entry : RegistryEntry}
    (registered : registerTrustless env storage contracts caller identity =
      .ok (after, entry)) :
    after.identityToBond identity = some entry ∧ entry.bondContract = caller := by
  obtain ⟨-, ⟨found, own, -, rfl⟩ | ⟨-, -, stored⟩⟩ := registerTrustless_eq_ok.mp registered
  · exact ⟨found, own⟩
  · obtain ⟨rfl, rfl⟩ := Prod.mk.inj stored
    exact ⟨Function.update_self _ _ _, rfl⟩

theorem authenticated_iff_of_step {event : Event Storage Label}
    (stepped : Step event.before event.label event.after) :
    Authenticated event ∧ NamesBondCode event ↔ FromHonest event := by
  constructor
  · rintro ⟨authenticated, -⟩ caller identity called
    obtain ⟨before, ⟨env, contracts, call⟩, after⟩ := event
    obtain rfl : call = .registerTrustless caller identity := called
    obtain ⟨⟨_, entry⟩, registered, -⟩ := Outcome.map_eq_ok.mp stepped
    exact (deployed_iff_honest registered).mp (authenticated caller identity rfl)
  · intro honest
    have deployed : Authenticated event := by
      intro caller identity called
      obtain ⟨before, ⟨env, contracts, call⟩, after⟩ := event
      obtain rfl : call = .registerTrustless caller identity := called
      obtain ⟨⟨_, entry⟩, registered, -⟩ := Outcome.map_eq_ok.mp stepped
      exact (deployed_iff_honest registered).mpr (honest caller identity rfl)
    refine ⟨deployed, fun caller identity called _ => ?_⟩
    have pinned := deployed caller identity called
    obtain ⟨before, ⟨env, contracts, call⟩, after⟩ := event
    obtain rfl : call = .registerTrustless caller identity := called
    obtain ⟨⟨stored, entry⟩, registered, same⟩ := Outcome.map_eq_ok.mp stepped
    obtain ⟨found, own⟩ := registerTrustless_stores registered
    refine ⟨entry, ?_, own ▸ pinned⟩
    rw [show after = stored from same]
    exact found

end Calls

/-- Along a run the code behind every trustless registration is the pinned code if and
only if every contract that registers itself is honest about its code. -/
theorem registerTrustless_authenticates_iff (run : Run Step .deployed trace storage) :
    (∀ event ∈ trace, Authenticated event ∧ NamesBondCode event) ↔
      ∀ event ∈ trace, FromHonest event := by
  constructor
  · intro every event member
    exact (authenticated_iff_of_step (run.stepped_of_mem member)).mp (every event member)
  · intro every event member
    exact (authenticated_iff_of_step (run.stepped_of_mem member)).mpr (every event member)

section Sample

/-- Every contract reports the pinned hash; only one of them has the code it stands for. -/
def impostorContracts : Contracts where
  supportsInterface := fun _ => some true
  reportedCodeHash := fun _ => some (List.replicate 32 7)
  deployedCodeHash := fun address =>
    some (if address = ⟨20⟩ then List.replicate 32 7 else List.replicate 32 9)

def trustlessLabel (timestamp : Nat) (call : Call) : Label where
  env := .signedByAll ⟨0⟩ timestamp
  contracts := impostorContracts
  call := call

/-- A genuine bond contract registers itself. -/
theorem registerTrustless_authenticates_iff_sample :
    ∃ trace storage, Run Step .deployed trace storage ∧
      ((∀ event ∈ trace, Authenticated event ∧ NamesBondCode event) ↔
        ∀ event ∈ trace, FromHonest event) ∧
      storage.bondToIdentity ⟨20⟩ = some ⟨2⟩ := by
  obtain ⟨storage, followed, owned⟩ : ∃ storage,
      replay next .deployed
          [ trustlessLabel 1 (.initializeRegistry ⟨1⟩),
            trustlessLabel 2 (.setBondCodeHash (List.replicate 32 7)),
            trustlessLabel 3 (.registerTrustless ⟨20⟩ ⟨2⟩) ] = some storage ∧
        storage.bondToIdentity ⟨20⟩ = some ⟨2⟩ :=
    ⟨_, rfl, rfl⟩
  obtain ⟨trace, run, _⟩ := run_of_replay step_of_next followed
  exact ⟨trace, storage, run, registerTrustless_authenticates_iff run, owned⟩

/-- A contract with other code registers itself by reporting the pinned hash. -/
theorem registerTrustless_admits_impostor :
    ¬∀ (trace : List (Event Storage Label)) (storage : Storage),
      Run Step .deployed trace storage →
        ∀ event ∈ trace, Authenticated event ∧ NamesBondCode event := by
  intro every
  obtain ⟨storage, followed⟩ : ∃ storage,
      replay next .deployed
          [ trustlessLabel 1 (.initializeRegistry ⟨1⟩),
            trustlessLabel 2 (.setBondCodeHash (List.replicate 32 7)),
            trustlessLabel 3 (.registerTrustless ⟨66⟩ ⟨2⟩) ] = some storage :=
    ⟨_, rfl⟩
  obtain ⟨trace, run, labels⟩ := run_of_replay step_of_next followed
  have recorded : trustlessLabel 3 (.registerTrustless ⟨66⟩ ⟨2⟩) ∈ trace.map Event.label := by
    rw [labels]
    simp
  obtain ⟨event, member, labelled⟩ := List.mem_map.mp recorded
  have stepped := run.stepped_of_mem member
  have honest := (authenticated_iff_of_step stepped).mp (every trace storage run event member)
  have same : Honest impostorContracts ⟨66⟩ := by
    simpa [labelled, trustlessLabel] using honest ⟨66⟩ ⟨2⟩ (by rw [labelled]; rfl)
  revert same
  unfold Honest
  decide

end Sample

end Registry
