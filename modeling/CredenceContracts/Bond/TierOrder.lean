import CredenceContracts.Bond.Parameters

/-!
# The order of the tier thresholds

Silver is to be no lower than bronze, gold no lower than silver and platinum no lower
than gold.  The setters compare each threshold with its own fixed bounds only, and
these overlap: the order is kept exactly by the updates that respect the thresholds
next to the one they set.
-/

namespace Parameters

open Soroban Transition

variable {storage after final : Storage} {label : Label}

/-- The thresholds in force are in the order of their tiers. -/
def Ordered (storage : Storage) : Prop :=
  getBronzeThreshold storage ≤ getSilverThreshold storage ∧
    getSilverThreshold storage ≤ getGoldThreshold storage ∧
      getGoldThreshold storage ≤ getPlatinumThreshold storage

instance : DecidablePred Ordered := fun storage => by
  unfold Ordered
  infer_instance

/-- A threshold that is set lies between the current thresholds of the tiers next to
its own. -/
def BetweenNeighbours (storage : Storage) (call : Call) : Prop :=
  match call.key with
  | .bronzeThreshold => call.value ≤ getSilverThreshold storage
  | .silverThreshold =>
      getBronzeThreshold storage ≤ call.value ∧ call.value ≤ getGoldThreshold storage
  | .goldThreshold =>
      getSilverThreshold storage ≤ call.value ∧ call.value ≤ getPlatinumThreshold storage
  | .platinumThreshold => getGoldThreshold storage ≤ call.value
  | _ => True

instance (storage : Storage) (call : Call) : Decidable (BetweenNeighbours storage call) := by
  unfold BetweenNeighbours
  split <;> infer_instance

theorem ordered_initialized (admin : Address) : Ordered (.initialized admin) := by
  refine ⟨?_, ?_, ?_⟩ <;>
  simp [getBronzeThreshold, getSilverThreshold, getGoldThreshold, getPlatinumThreshold,
    Parameter.get, Storage.initialized, bronzeThreshold, silverThreshold, goldThreshold,
    platinumThreshold]

/-- An update of ordered thresholds keeps their order if and only if the new value lies
between its neighbours. -/
theorem step_ordered_iff (ordered : Ordered storage) (stepped : Step storage label after) :
    Ordered after ↔ BetweenNeighbours storage label.call := by
  obtain ⟨low, middle, high⟩ := ordered
  have bronze := step_get stepped .bronzeThreshold
  have silver := step_get stepped .silverThreshold
  have gold := step_get stepped .goldThreshold
  have platinum := step_get stepped .platinumThreshold
  simp only [ParameterKey.parameter] at bronze silver gold platinum
  unfold Ordered BetweenNeighbours
  simp only [getBronzeThreshold, getSilverThreshold, getGoldThreshold,
    getPlatinumThreshold] at low middle high ⊢
  rw [bronze, silver, gold, platinum]
  cases label.call.key <;> simp <;> omega

/-- The thresholds are in order in every state of a run of updates from the defaults,
if and only if every threshold that is set lies between its current neighbours. -/
theorem thresholds_ordered_iff {admin : Address} {trace : List (Event Storage Label)}
    (run : Run Step (.initialized admin) trace final) :
    (∀ event ∈ trace, Ordered event.after) ↔
      ∀ event ∈ trace, BetweenNeighbours event.before event.label.call :=
  run.forall_after_iff Ordered (fun _ => True)
    (fun event => BetweenNeighbours event.before event.label.call)
    (ordered_initialized admin) trivial (fun _ _ _ => trivial)
    (fun _ _ ordered stepped => step_ordered_iff ordered stepped)

/-- An update that the admin signs. -/
def signedUpdate (call : Call) : Label where
  env := .signedBy ⟨1⟩ ⟨0⟩ 10
  call

/-- The silver threshold is raised, and then the bronze one within it. -/
theorem thresholds_ordered_sample :
    ∃ trace final, Run Step (.initialized ⟨1⟩) trace final ∧
      trace.length = 2 ∧ getBronzeThreshold final = 4000000000 ∧
        ∀ event ∈ trace, Ordered event.after := by
  let updates := [
    signedUpdate (.set .silverThreshold ⟨1⟩ 5000000000),
    signedUpdate (.set .bronzeThreshold ⟨1⟩ 4000000000)]
  have run : Run Step (.initialized ⟨1⟩) (record next (.initialized ⟨1⟩) updates)
      (updates.foldl (advance next) (.initialized ⟨1⟩)) :=
    run_of_record step_of_next (by decide +kernel)
  refine ⟨_, _, run, rfl, by decide +kernel, (thresholds_ordered_iff run).mpr ?_⟩
  simp only [record, updates, List.forall_mem_cons]
  exact ⟨by decide +kernel, by decide +kernel, by simp⟩

/-- The largest bronze threshold is accepted while silver has its default, a thousandth
of it. -/
theorem thresholds_cross :
    ∃ trace final, Run Step (.initialized ⟨1⟩) trace final ∧
      getBronzeThreshold final = 1000000000000 ∧ getSilverThreshold final = 1000000000 ∧
        ¬Ordered final := by
  let update := signedUpdate (.set .bronzeThreshold ⟨1⟩ 1000000000000)
  have run : Run Step (.initialized ⟨1⟩) (record next (.initialized ⟨1⟩) [update])
      ([update].foldl (advance next) (.initialized ⟨1⟩)) :=
    run_of_record step_of_next (by decide +kernel)
  exact ⟨_, _, run, by decide +kernel, by decide +kernel, by decide +kernel⟩

end Parameters
