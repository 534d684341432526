import CredenceContracts.Bond.Parameters

/-!
# The parameters in their events

Whoever reads the published updates in order, beginning with the defaults, knows every
parameter, and each update names the value that it replaced.
-/

namespace Parameters

open Soroban Transition

section Reader

/-- What a reader of the updates takes a parameter to be. -/
def Parameter.read (parameter : Parameter) (events : List ParameterUpdated) : Int :=
  events.foldl (fun value event => if event.key = parameter.symbol then event.newValue else value)
    parameter.default

/-- The update is one of its parameter: made by the admin, from what the earlier updates
left to a value within the bounds. -/
structure Accountable (admin : Address) (earlier : List ParameterUpdated)
    (event : ParameterUpdated) (key : ParameterKey) : Prop where
  named : event.key = key.parameter.symbol
  category : event.category = key.parameter.category
  admin : event.admin = admin
  old : event.oldValue = key.parameter.read earlier
  admitted : key.parameter.Admits event.newValue

/-- Every update of the list is accountable. -/
def Audited (admin : Address) (events : List ParameterUpdated) : Prop :=
  ∀ earlier event later, events = earlier ++ event :: later →
    ∃ key, Accountable admin earlier event key

variable {env : Env} {storage before after : Storage} {label : Label} {admin : Address}
variable {events : List ParameterUpdated} {event : ParameterUpdated}

theorem symbol_injective :
    Function.Injective fun key : ParameterKey => key.parameter.symbol := by
  intro first second same
  cases first <;> cases second <;> first | rfl | exact absurd same (by decide)

theorem read_append (parameter : Parameter) :
    parameter.read (events ++ [event]) =
      if event.key = parameter.symbol then event.newValue else parameter.read events := by
  simp [Parameter.read]

theorem Audited.append (audited : Audited admin events) (key : ParameterKey)
    (accountable : Accountable admin events event key) : Audited admin (events ++ [event]) := by
  intro earlier other later position
  rcases List.eq_nil_or_concat later with rfl | ⟨initial, last, rfl⟩
  · obtain ⟨rfl, same⟩ := List.append_inj' position rfl
    obtain rfl : event = other := by simpa using same
    exact ⟨key, accountable⟩
  · have shifted : events ++ [event] = (earlier ++ other :: initial) ++ [last] := by
      simpa using position
    obtain ⟨inside, -⟩ := List.append_inj' shifted rfl
    exact audited earlier other initial inside

/-- An accepted update publishes what it did. -/
theorem step_publishes (stepped : Step before label after) :
    ∃ author, before.admin = some author ∧ after.events = before.events ++ [{
      key := label.call.key.parameter.symbol
      category := label.call.key.parameter.category
      admin := author
      oldValue := label.call.key.parameter.get before
      newValue := label.call.value }] := by
  obtain ⟨env, call⟩ := label
  unfold Step at stepped
  cases call with
  | set key admin value =>
      simp only [invoke, ParameterKey.set_eq, Parameter.set] at stepped
      obtain ⟨⟨-, stored⟩, -, -, rfl⟩ := setWithApproval_eq_ok.mp stepped
      exact ⟨admin, stored, rfl⟩
  | setWithApproval key admin value approval =>
      simp only [invoke, ParameterKey.setWithApproval_eq] at stepped
      obtain ⟨⟨-, stored⟩, -, -, rfl⟩ := setWithApproval_eq_ok.mp stepped
      exact ⟨admin, stored, rfl⟩

/-- The published updates say all there is to know of the parameters. -/
structure Published (admin : Address) (storage : Storage) : Prop where
  stored : storage.admin = some admin
  read : ∀ key : ParameterKey, key.parameter.read storage.events = key.parameter.get storage
  audited : Audited admin storage.events

theorem published_initialized (admin : Address) : Published admin (.initialized admin) where
  stored := rfl
  read _ := rfl
  audited := by simp [Audited, Storage.initialized]

theorem Published.step (published : Published admin before) (stepped : Step before label after) :
    Published admin after := by
  obtain ⟨author, stored, events⟩ := step_publishes stepped
  obtain ⟨admitted, sameAdmin, -⟩ := step_writes stepped
  obtain rfl : author = admin := Option.some.inj (stored.symm.trans published.stored)
  constructor
  · exact sameAdmin.trans stored
  · intro key
    rw [events, read_append, step_get stepped]
    by_cases same : key = label.call.key
    · simp [same]
    · have other : label.call.key.parameter.symbol ≠ key.parameter.symbol :=
        fun equal => same (symbol_injective equal).symm
      rw [if_neg other, if_neg same, published.read]
  · rw [events]
    refine published.audited.append label.call.key ?_
    exact ⟨rfl, rfl, rfl, (published.read label.call.key).symm, admitted⟩

theorem length_events {trace : List (Event Storage Label)}
    (run : Run Step (.initialized admin) trace storage) :
    storage.events.length = trace.length := by
  induction run with
  | nil => rfl
  | snoc _ stepped ih =>
      obtain ⟨_, -, events⟩ := step_publishes stepped
      rw [events, List.length_append, List.length_append, ih]
      rfl

/-- In every run of updates a reader of the events knows every parameter; each of them is
within its bounds, and every event is accountable, one for each update. -/
theorem parameters_published {trace : List (Event Storage Label)}
    (run : Run Step (.initialized admin) trace storage) :
    (∀ key : ParameterKey, key.parameter.read storage.events = key.parameter.get storage ∧
      key.parameter.Admits (key.parameter.get storage)) ∧
    Audited admin storage.events ∧ storage.events.length = trace.length := by
  have published : Published admin storage :=
    run.invariant (Published admin) (published_initialized admin)
      fun _ held stepped => held.step stepped
  exact ⟨fun key => ⟨published.read key, values_admitted run key⟩, published.audited,
    length_events run⟩

/-- The fee is set twice and the leverage limit once, under an approval. -/
theorem parameters_published_sample :
    ∃ trace storage, Run Step (.initialized ⟨1⟩) trace storage ∧
      storage.events.map ParameterUpdated.oldValue = [50, 100000, 70] ∧
        protocolFeeBps.read storage.events = 80 ∧ Audited ⟨1⟩ storage.events := by
  obtain ⟨storage, followed, old, read⟩ : ∃ storage,
      replay next (.initialized ⟨1⟩)
          [ ⟨.signedByAll ⟨0⟩ 1, .set .protocolFeeBps ⟨1⟩ 70⟩,
            ⟨.signedByAll ⟨0⟩ 2, .setWithApproval .maxLeverage ⟨1⟩ 9 ⟨⟨1⟩, 5, "risk"⟩⟩,
            ⟨.signedByAll ⟨0⟩ 3, .set .protocolFeeBps ⟨1⟩ 80⟩ ] = some storage ∧
        storage.events.map ParameterUpdated.oldValue = [50, 100000, 70] ∧
        protocolFeeBps.read storage.events = 80 :=
    ⟨_, rfl, rfl, rfl⟩
  obtain ⟨trace, run, -⟩ := run_of_replay step_of_next followed
  exact ⟨trace, storage, run, old, read, (parameters_published run).2.1⟩

end Reader

end Parameters
