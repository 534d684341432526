import CredenceContracts.Bond.Lockup
import CredenceContracts.Bond.Published

/-!
# Replaying the events of a bond

An indexer sees the event stream alone and folds it into the bond it believes to
be stored.  Its fold starts with the genesis event of the bond, which no entry
point publishes: creating, topping up and withdrawing publish no event of the
second version, and slashing is the only operation that does.
-/

namespace CredenceBond

open Soroban Transition

/-- What the indexer decodes from the stream. -/
inductive IndexerEvent where
  | created (identity : Address) (amount : Int) (start duration : Nat) (isRolling : Bool)
  | increased (newTotal : Int)
  | withdrawn (remaining : Int)
  | slashed (totalSlashed : Int)
  | ignored
  deriving DecidableEq, Repr

/-- The replay step; events before the genesis are lost, and a second genesis is
malformed. -/
def IndexerEvent.apply (state : Option IdentityBond) (event : IndexerEvent) :
    Outcome (Option IdentityBond) :=
  match state, event with
  | none, .created identity amount start duration isRolling =>
      return some
        { identity
          bondedAmount := amount
          bondStart := start
          bondDuration := duration
          slashedAmount := 0
          active := true
          isRolling
          withdrawalRequestedAt := 0
          noticePeriodDuration := 0 }
  | some _, .created .. => .error (.panicked "duplicate bond_created_v2 in stream")
  | none, _ => return none
  | some bond, .increased newTotal => return some { bond with bondedAmount := newTotal }
  | some bond, .withdrawn remaining => return some { bond with bondedAmount := remaining }
  | some bond, .slashed totalSlashed => return some { bond with slashedAmount := totalSlashed }
  | some bond, .ignored => return some bond

/-- Decode one event of the stream; only the second versions count. -/
def BondEvent.capture : BondEvent → IndexerEvent
  | .bondCreatedV2 identity amount start duration isRolling _ =>
      .created identity amount start duration isRolling
  | .bondIncreasedV2 _ _ newTotal .. => .increased newTotal
  | .bondWithdrawnV2 _ _ remaining .. => .withdrawn remaining
  | .bondSlashedV2 _ _ totalSlashed .. => .slashed totalSlashed
  | _ => .ignored

/-- Fold the decoded stream. -/
def replayEvents (events : List BondEvent) : Outcome (Option IdentityBond) :=
  (events.map BondEvent.capture).foldlM IndexerEvent.apply none

section Replaying

/-- The event establishes a bond. -/
def BondEvent.isGenesis : BondEvent → Bool
  | .bondCreatedV2 .. => true
  | _ => false

theorem apply_none {event : BondEvent} (later : event.isGenesis = false) :
    IndexerEvent.apply none event.capture = .ok none := by
  cases event <;> first | rfl | cases later

/-- A stream without a genesis rebuilds nothing. -/
theorem replayEvents_of_no_genesis {events : List BondEvent}
    (later : ∀ event ∈ events, event.isGenesis = false) :
    replayEvents events = .ok none := by
  unfold replayEvents
  induction events with
  | nil => rfl
  | cons event rest ih =>
      rw [List.map_cons, List.foldlM_cons, apply_none (later event List.mem_cons_self)]
      exact ih fun other member => later other (List.mem_cons_of_mem event member)

/-- No call publishes a genesis. -/
theorem isGenesis_of_publishes {call : Call} {event : BondEvent}
    (publishes : call.publishes event = true) : event.isGenesis = false := by
  cases event with
  | bondCreatedV2 => cases call <;> cases publishes
  | _ => rfl

end Replaying

section Runs

variable {Ledger : Type} {ext : Externals Ledger} {self : Address}
variable {before after start final : State Ledger} {label : Label}

/-- The operations after the creation that an indexer follows; what happens
elsewhere may come in between. -/
def Act.indexed : Act → Bool
  | .call (.topUp ..) | .call (.withdraw ..) | .call (.withdrawEarly ..) | .call (.slash ..)
  | .elsewhere => true
  | _ => false

/-- The bond is stored and no genesis was published since. -/
structure Unseen (events : List BondEvent) (state : State Ledger) : Prop where
  stored : state.storage.bond.isSome = true
  published : ∃ later, state.storage.events = events ++ later ∧
    ∀ event ∈ later, event.isGenesis = false

theorem Unseen.of_logs {events : List BondEvent} {call : Call}
    (unseen : ∃ later, before.storage.events = events ++ later ∧
      ∀ event ∈ later, event.isGenesis = false)
    (logged : Logs call.publishes before.storage.events after.storage.events)
    (stored : after.storage.bond.isSome = true) : Unseen events after := by
  obtain ⟨later, grown, none⟩ := unseen
  obtain ⟨published, added, every⟩ := logged
  refine ⟨stored, later ++ published, by rw [added, grown, List.append_assoc], ?_⟩
  intro event member
  rcases List.mem_append.mp member with earlier | last
  · exact none event earlier
  · exact isGenesis_of_publishes (every event last)

theorem unseen_of_created (stepped : Step ext self before label after)
    (creates : label.act.creates = true) : Unseen before.storage.events after := by
  cases stepped with
  | elsewhere => cases creates
  | @call env _ _ call addressed done =>
      cases call with
      | createBond identity amount duration isRolling noticePeriodDuration =>
          have written := (createBond_ok done).2.2.2.2
          apply Unseen.of_logs ⟨[], by simp, by simp⟩ (createBond_logs done)
          rw [written]
          rfl
      | _ => cases creates

/-- Following a bond without a genesis never shows it. -/
theorem Unseen.step {events : List BondEvent} (unseen : Unseen events before)
    (stepped : Step ext self before label after) (indexed : label.act.indexed = true) :
    Unseen events after := by
  cases stepped with
  | elsewhere => exact ⟨unseen.stored, unseen.published⟩
  | @call env _ _ call addressed done =>
      cases call with
      | topUp identity amount =>
          obtain ⟨_, -, -, -, -, -, -, written⟩ := topUp_ok done
          exact .of_logs unseen.published (topUp_logs done) (by rw [written]; rfl)
      | withdraw identity amount =>
          obtain ⟨_, -, -, -, -, -, -, -, -, written⟩ := withdraw_ok done
          exact .of_logs unseen.published (withdraw_logs done) (by rw [written]; rfl)
      | withdrawEarly identity amount =>
          obtain ⟨_, _, _, -, -, -, -, -, -, -, -, written⟩ := withdrawEarly_ok done
          exact .of_logs unseen.published (withdrawEarly_logs done) (by rw [written]; rfl)
      | slash admin amount =>
          obtain ⟨_, -, -, -, -, -, -, -, written⟩ := slash_ok done
          exact .of_logs unseen.published (slash_logs done) (by rw [written]; rfl)
      | _ => cases indexed

/-- Every state of a run that creates a bond and goes on with the operations that an
indexer follows stores a bond of which no genesis was published. -/
theorem unseen_of_run {opening : Event (State Ledger) Label}
    {rest : List (Event (State Ledger) Label)}
    (run : Run (Step ext self) start (opening :: rest) final)
    (creates : opening.label.act.creates = true)
    (indexed : ∀ event ∈ rest, event.label.act.indexed = true) :
    ∀ event ∈ opening :: rest, Unseen start.storage.events event.after := by
  obtain ⟨-, stepped, onward⟩ := run.first
  have opened := unseen_of_created stepped creates
  intro event member
  rcases List.mem_cons.mp member with rfl | later
  · exact opened
  · refine onward.forall_after (fun event => event.label.act.indexed = true)
      (Unseen start.storage.events) indexed opened ?_ event later
    intro event followed unseen stepped
    exact unseen.step stepped followed

/-- In no run that creates a bond and goes on with the operations that an indexer
follows does the fold of the published events yield the stored bond, after
whichever operation. -/
theorem replay_never_matches {opening : Event (State Ledger) Label}
    {rest : List (Event (State Ledger) Label)}
    (run : Run (Step ext self) start (opening :: rest) final)
    (creates : opening.label.act.creates = true)
    (indexed : ∀ event ∈ rest, event.label.act.indexed = true) :
    ∀ event ∈ opening :: rest, ∃ published,
      event.after.storage.events = start.storage.events ++ published ∧
        replayEvents published ≠ .ok event.after.storage.bond := by
  intro event member
  obtain ⟨stored, published, grown, none⟩ := unseen_of_run run creates indexed event member
  refine ⟨published, grown, ?_⟩
  rw [replayEvents_of_no_genesis none]
  intro same
  rw [← Except.ok.inj same] at stored
  cases stored

end Runs

section Sample

/-- A user's bond is created, topped up and slashed. -/
def indexedRun : List Label :=
  [ ⟨.signedBy ⟨5⟩ ⟨0⟩ 0, .call (.createBond ⟨5⟩ 1000000000000000000 60 false 0)⟩,
    ⟨.signedBy ⟨5⟩ ⟨0⟩ 10, .call (.topUp ⟨5⟩ 1000000000000000000)⟩,
    ⟨.signedBy ⟨1⟩ ⟨0⟩ 20, .call (.slash ⟨1⟩ 500000000000000000)⟩ ]

def indexedTrace : List (Event (State ReferenceLedger) Label) :=
  record (next Externals.reference ⟨0⟩) bondSample indexedRun

theorem indexedTrace_run :
    Run (Step Externals.reference ⟨0⟩) bondSample indexedTrace
      (indexedRun.foldl (advance (next Externals.reference ⟨0⟩)) bondSample) :=
  run_of_record step_of_next (by decide +kernel)

/-- After a creation the stream rebuilds no bond and one is stored. -/
theorem created_bond_not_replayed :
    ∃ trace final event, Run (Step Externals.reference ⟨0⟩) bondSample trace final ∧
      trace = [event] ∧
        event.label.act = .call (.createBond ⟨5⟩ 1000000000000000000 60 false 0) ∧
          bondSample.storage.events = [] ∧
            replayEvents event.after.storage.events ≠ .ok event.after.storage.bond := by
  have stepped : Step Externals.reference ⟨0⟩ bondSample
      ⟨.signedBy ⟨5⟩ ⟨0⟩ 0, .call (.createBond ⟨5⟩ 1000000000000000000 60 false 0)⟩ _ :=
    .follow _ (.createBond ⟨5⟩ 1000000000000000000 60 false 0) rfl (by decide +kernel)
  refine ⟨_, _, _, .single stepped, rfl, rfl, rfl, ?_⟩
  decide +kernel

theorem replay_never_matches_sample :
    ∃ trace final, Run (Step Externals.reference ⟨0⟩) bondSample trace final ∧
      trace.map Event.label = indexedRun ∧ ∀ event ∈ trace, ∃ published,
        event.after.storage.events = [] ++ published ∧
          replayEvents published ≠ .ok event.after.storage.bond := by
  refine ⟨_, _, indexedTrace_run, rfl, ?_⟩
  apply replay_never_matches indexedTrace_run rfl
  decide +kernel

end Sample

end CredenceBond
