import CredenceContracts.Arbitration.Ballots
import CredenceContracts.Library.OffsetReading
import CredenceContracts.Library.Roster

/-!
# Pages of the registered arbitrators

The contract lists the arbitrators that have a weight.  A reader goes through the list by
the cursors that it is handed while the admin registers and unregisters arbitrators, and
misses at most one of them for each that is unregistered.
-/

namespace Arbitration

open Soroban MachineInt Transition OffsetReading

section Model

def maxIterHardCap : Nat :=
  200

def defaultMaxIter : Nat :=
  50

/-- How many arbitrators a page holds; zero asks for the default. -/
def effectiveLimit (limit : Nat) : Nat :=
  if limit = 0 then defaultMaxIter else min limit maxIterHardCap

/-- A page of the registered arbitrators, and where the next one begins. -/
def getArbitratorsPage (storage : Storage) (cursor limit : Nat) :
    List Address × Option Nat :=
  let registry := storage.arbitratorRegistry
  if cursor ≥ registry.length then
    ([], none)
  else
    let stop := min (wrappingU32 (cursor + effectiveLimit limit)) registry.length
    let page := (List.range' cursor (stop - cursor)).filterMap fun index => registry[index]?
    (page, if stop ≥ registry.length then none else some stop)

/-- The pages from cursor to cursor; the last one has no cursor after it. -/
def arbitratorsReader : Reader Storage Nat Address where
  page storage cursor limit := (getArbitratorsPage storage cursor limit).1
  last storage cursor limit := (getArbitratorsPage storage cursor limit).2.isNone

/-- The registered arbitrator that an event unregisters. -/
def unregistered (event : Event Storage Label) : List Address :=
  match event.label.call, event.label.answer with
  | .unregisterArbitrator arbitrator, .ok _ =>
      if arbitrator ∈ event.before.arbitratorRegistry then [arbitrator] else []
  | _, _ => []

end Model

section Registry

variable {storage after : Storage} {label : Label} {trace : List (Event Storage Label)}

/-- The addresses with a weight. -/
def Storage.arbitrators (storage : Storage) : Set Address :=
  {arbitrator | storage.arbitrator arbitrator ≠ none}

/-- What a step does to the arbitrators. -/
inductive RegistryChange (storage : Storage) (label : Label) (after : Storage) : Prop where
  | kept : unregistered ⟨storage, label, after⟩ = [] →
      after.arbitratorRegistry = storage.arbitratorRegistry →
      after.arbitrator = storage.arbitrator → RegistryChange storage label after
  | registered (arbitrator : Address) (weight : Int) :
      unregistered ⟨storage, label, after⟩ = [] →
      after.arbitratorRegistry = (if arbitrator ∈ storage.arbitratorRegistry then
        storage.arbitratorRegistry else storage.arbitratorRegistry ++ [arbitrator]) →
      after.arbitrator = Function.update storage.arbitrator arbitrator (some weight) →
      RegistryChange storage label after
  | unregistered (arbitrator : Address) :
      unregistered ⟨storage, label, after⟩ =
        (if arbitrator ∈ storage.arbitratorRegistry then [arbitrator] else []) →
      after.arbitratorRegistry = storage.arbitratorRegistry.filter (· ≠ arbitrator) →
      after.arbitrator = Function.update storage.arbitrator arbitrator none →
      RegistryChange storage label after

theorem registry_of_step (stepped : Step storage label after) :
    RegistryChange storage label after := by
  obtain ⟨env, call, answer⟩ := label
  cases answer with
  | error raised =>
      obtain rfl : after = storage := invoke_atomic stepped
      refine .kept ?_ rfl rfl
      cases call <;> rfl
  | ok value =>
      cases call with
      | initializeArbitration admin =>
          obtain ⟨_, done, -⟩ := Body.ok_of_answer stepped
          obtain ⟨-, rfl⟩ := initializeArbitration_eq_ok.mp done
          exact .kept rfl rfl rfl
      | registerArbitrator arbitrator weight =>
          obtain ⟨_, done, -⟩ := Body.ok_of_answer stepped
          obtain ⟨-, -, rfl⟩ := registerArbitrator_eq_ok.mp done
          exact .registered arbitrator weight rfl (by simp) rfl
      | unregisterArbitrator arbitrator =>
          obtain ⟨_, done, -⟩ := Body.ok_of_answer stepped
          obtain ⟨-, rfl⟩ := unregisterArbitrator_eq_ok.mp done
          exact .unregistered arbitrator rfl (by simp [bne, beq_eq_decide]) rfl
      | createDispute creator description duration =>
          obtain ⟨_, done, -⟩ := Body.ok_of_answer stepped
          obtain ⟨-, -, -, -, rfl⟩ := createDispute_eq_ok.mp done
          exact .kept rfl rfl rfl
      | cancelDispute caller disputeId reason =>
          obtain ⟨_, done, -⟩ := Body.ok_of_answer stepped
          obtain ⟨-, -, _, _, _, -, -, -, -, rfl⟩ := cancelDispute_eq_ok.mp done
          exact .kept rfl rfl rfl
      | vote voter disputeId outcome =>
          obtain ⟨_, done, -⟩ := Body.ok_of_answer stepped
          obtain ⟨-, -, _, _, -, -, -, -, -, -, rfl⟩ := vote_eq_ok.mp done
          exact .kept rfl rfl rfl
      | resolveDispute disputeId =>
          obtain ⟨_, done, -⟩ := Body.ok_of_answer stepped
          obtain ⟨-, _, -, -, -, -, -, rfl⟩ := resolveDispute_eq_ok.mp done
          exact .kept rfl rfl rfl
      | setQuorum admin minTotalWeight minVoters =>
          obtain ⟨_, done, -⟩ := Body.ok_of_answer stepped
          obtain ⟨-, -, rfl⟩ := setQuorum_eq_ok.mp done
          exact .kept rfl rfl rfl
      | pausable call =>
          simp only [Step, invoke, Body.bind_eq_ok, Body.orPanic_eq_ok, Body.exec_get,
            Body.exec_modify, Body.exec_pure, Except.ok.injEq, Prod.mk.injEq] at stepped
          obtain ⟨_, _, ⟨rfl, rfl⟩, pause, _, ⟨-, rfl⟩, _, _, ⟨-, rfl⟩, -, rfl⟩ := stepped
          exact .kept rfl rfl rfl

/-- A step keeps the list a roster of the arbitrators. -/
theorem lists_of_change (lists : Roster.Lists storage.arbitratorRegistry storage.arbitrators)
    (change : RegistryChange storage label after) :
    Roster.Lists after.arbitratorRegistry after.arbitrators := by
  cases change with
  | kept _ listed weights =>
      rw [listed, Storage.arbitrators, weights]
      exact lists
  | registered arbitrator weight _ listed weights =>
      rw [listed]
      by_cases old : arbitrator ∈ storage.arbitratorRegistry
      · rw [if_pos old]
        refine lists.of_eq ?_
        ext other
        by_cases same : other = arbitrator
        · have weighted : arbitrator ∈ storage.arbitrators := (lists.mem_iff arbitrator).mp old
          subst same
          simpa [Storage.arbitrators, weights] using weighted
        · simp [Storage.arbitrators, weights, same]
      · rw [if_neg old]
        refine (lists.enter (mt (lists.mem_iff arbitrator).mpr old)).of_eq ?_
        ext other
        by_cases same : other = arbitrator <;> simp [Storage.arbitrators, weights, same]
  | unregistered arbitrator _ listed weights =>
      rw [listed]
      refine lists.leave_filter.of_eq ?_
      ext other
      by_cases same : other = arbitrator <;> simp [Storage.arbitrators, weights, same]

/-- After every run the list is a roster of the arbitrators. -/
theorem lists_of_run (run : Run Step .deployed trace storage) :
    Roster.Lists storage.arbitratorRegistry storage.arbitrators := by
  refine run.invariant (fun storage =>
    Roster.Lists storage.arbitratorRegistry storage.arbitrators) ?_ ?_
  · refine Roster.Lists.empty.of_eq ?_
    ext arbitrator
    simp [Storage.arbitrators, Storage.deployed]
  · exact fun event lists stepped => lists_of_change lists (registry_of_step stepped)

/-- A step appends to the list or takes out the arbitrator that it unregisters. -/
theorem edit_of_step (nodup : storage.arbitratorRegistry.Nodup)
    (stepped : Step storage label after) :
    Edit storage.arbitratorRegistry (unregistered ⟨storage, label, after⟩)
      after.arbitratorRegistry := by
  cases registry_of_step stepped with
  | kept quiet listed =>
      rw [quiet, listed]
      exact .same nodup
  | registered arbitrator weight quiet listed =>
      rw [quiet, listed]
      split
      · exact .same nodup
      · rename_i new
        refine .append (nodup.append (List.nodup_singleton arbitrator) ?_)
        simpa using new
  | unregistered arbitrator leaves listed =>
      rw [leaves, listed]
      split
      · have erased : storage.arbitratorRegistry.filter (· ≠ arbitrator) =
            storage.arbitratorRegistry.erase arbitrator := by
          rw [nodup.erase_eq_filter]
          exact List.filter_congr fun other _ => decide_not
        rw [erased]
        exact .erase
      · rename_i absent
        rw [Roster.filter_of_not_mem absent]
        exact .same nodup

end Registry

section Walks

variable {start now storage : Storage} {history trace : List (Event Storage Label)}
variable {reads : List Storage} {shown : List Address} {ended : Bool}

theorem effectiveLimit_pos (limit : Nat) : 0 < effectiveLimit limit := by
  unfold effectiveLimit defaultMaxIter maxIterHardCap
  split <;> omega

theorem effectiveLimit_le (limit : Nat) : effectiveLimit limit ≤ maxIterHardCap := by
  unfold effectiveLimit defaultMaxIter maxIterHardCap
  split <;> omega

theorem getArbitratorsPage_page {cursor limit : Nat} :
    (getArbitratorsPage storage cursor limit).1 =
      slice storage.arbitratorRegistry cursor (effectiveLimit limit) := by
  unfold getArbitratorsPage slice
  dsimp only
  split <;> rfl

/-- The next page begins behind this one, and there is none where this one ends the
list. -/
theorem getArbitratorsPage_next {cursor limit : Nat}
    (few : storage.arbitratorRegistry.length + maxIterHardCap ≤ 2 ^ 32) :
    (getArbitratorsPage storage cursor limit).2 =
      if cursor + effectiveLimit limit < storage.arbitratorRegistry.length then
        some (cursor + effectiveLimit limit)
      else
        none := by
  have capped := effectiveLimit_le limit
  unfold getArbitratorsPage
  by_cases past : cursor ≥ storage.arbitratorRegistry.length
  · simp only [if_pos past]
    rw [if_neg (by omega)]
  · have stop : wrappingU32 (cursor + effectiveLimit limit) = cursor + effectiveLimit limit :=
      Nat.mod_eq_of_lt (by omega)
    simp only [if_neg past, stop]
    by_cases more : cursor + effectiveLimit limit < storage.arbitratorRegistry.length
    · rw [Nat.min_eq_left more.le, if_pos more, if_neg (Nat.not_le.mpr more)]
    · rw [Nat.min_eq_right (Nat.not_lt.mp more), if_neg more, if_pos le_rfl]

/-- Where the list is short of the range of its index, the reader reads it. -/
theorem arbitratorsReader_reads
    (few : storage.arbitratorRegistry.length + maxIterHardCap ≤ 2 ^ 32) :
    arbitratorsReader.Reads Storage.arbitratorRegistry effectiveLimit storage := by
  have shows : ∀ cursor limit, arbitratorsReader.page storage cursor limit =
      LogReading.page cursor (effectiveLimit limit) storage.arbitratorRegistry := by
    intro cursor limit
    have capped := effectiveLimit_le limit
    exact getArbitratorsPage_page.trans (slice_eq_page (by omega))
  constructor
  · exact shows
  · intro cursor limit more
    rw [shows, Ne, LogReading.page_eq_nil (effectiveLimit_pos limit)]
    simp only [arbitratorsReader, getArbitratorsPage_next few] at more
    split at more
    · omega
    · cases more
  · intro cursor limit last
    rw [shows, LogReading.page, List.length_take, List.length_drop]
    simp only [arbitratorsReader, getArbitratorsPage_next few] at last
    split at last
    · cases last
    · omega

/-- A reader of the arbitrators from cursor to cursor is sent on behind what it was
shown.  It sees no arbitrator twice, unless it was unregistered in between, and does not
read on for ever.  At the end it has missed at most one of those with a weight for each
that was unregistered since it began; without that it has seen just them. -/
theorem arbitrators_pages_stable (run : Run Step .deployed history start)
    (walk : Walk Step arbitratorsReader start reads trace now shown ended)
    (few : ∀ storage ∈ reads, storage.arbitratorRegistry.length + maxIterHardCap ≤ 2 ^ 32) :
    (∀ storage ∈ reads, ∀ cursor limit next,
      (getArbitratorsPage storage cursor limit).2 = some next →
        next = cursor + (getArbitratorsPage storage cursor limit).1.length) ∧
      (∀ arbitrator, arbitrator ∉ trace.flatMap unregistered → shown.count arbitrator ≤ 1) ∧
      reads.length ≤
        now.arbitratorRegistry.length + (trace.flatMap unregistered).length + 1 ∧
      (ended = true →
        {arbitrator | arbitrator ∈ now.arbitrators ∧ arbitrator ∉ shown}.encard ≤
            (trace.flatMap unregistered).length ∧
          (trace.flatMap unregistered = [] →
            ∀ arbitrator, arbitrator ∈ shown ↔ now.arbitrator arbitrator ≠ none)) := by
  have sound : ∀ storage ∈ reads, _ := fun storage member =>
    arbitratorsReader_reads (few storage member)
  have edited : Edited Storage.arbitratorRegistry unregistered trace := by
    intro event member
    obtain ⟨earlier, reached, stepped⟩ := walk.reached run member
    exact edit_of_step (lists_of_run reached).nodup stepped
  have nodup := (lists_of_run run).nodup
  have noted := edited.noted walk.run
  have lists := lists_of_run (run.append walk.run)
  refine ⟨?_, (walk.standing sound nodup edited noted).once,
    walk.bounded sound nodup edited noted, ?_⟩
  · intro storage member cursor limit next goes
    rw [getArbitratorsPage_next (few storage member)] at goes
    split at goes
    · rename_i more
      have page := (sound storage member).page cursor limit
      have length := congrArg List.length page
      rw [LogReading.page, List.length_take, List.length_drop] at length
      have on : cursor + effectiveLimit limit = next := Option.some.inj goes
      change next = cursor + (arbitratorsReader.page storage cursor limit).length
      omega
    · cases goes
  · rintro rfl
    obtain ⟨missed, exact⟩ := walk.missed_le sound nodup edited noted
    constructor
    · have left := lists.filter (fun arbitrator => decide (arbitrator ∉ shown))
      have few := left.encard_eq
      simp only [decide_eq_true_eq] at few
      rw [few]
      exact_mod_cast missed
    · intro nothing arbitrator
      rw [exact nothing]
      exact lists.mem_iff arbitrator

end Walks

section Sample

/-- One of three arbitrators is unregistered between two pages of one, and registered
again: it is shown twice, and the second is missed. -/
theorem arbitrators_pages_stable_sample :
    ∃ start now trace reads,
      Walk Step arbitratorsReader start reads trace now [⟨2⟩, ⟨4⟩, ⟨2⟩] true ∧
        now.arbitratorRegistry = [⟨3⟩, ⟨4⟩, ⟨2⟩] ∧
          {arbitrator | arbitrator ∈ now.arbitrators ∧
            arbitrator ∉ [(⟨2⟩ : Address), ⟨4⟩, ⟨2⟩]}.encard ≤
              (trace.flatMap unregistered).length := by
  obtain ⟨start, followed, gone⟩ : ∃ start,
      replay next .deployed
          [ votingLabel 1 (.initializeArbitration ⟨1⟩) .unit,
            votingLabel 2 (.registerArbitrator ⟨2⟩ 5) .unit,
            votingLabel 3 (.registerArbitrator ⟨3⟩ 7) .unit,
            votingLabel 4 (.registerArbitrator ⟨4⟩ 9) .unit ] = some start ∧
        start.arbitratorRegistry = [⟨2⟩, ⟨3⟩, ⟨4⟩] ∧
          ∃ now, replay next start
            [ votingLabel 5 (.unregisterArbitrator ⟨2⟩) .unit,
              votingLabel 6 (.registerArbitrator ⟨2⟩ 1) .unit ] = some now ∧
            now.arbitratorRegistry = [⟨3⟩, ⟨4⟩, ⟨2⟩] := by
    refine ⟨_, rfl, rfl, ?_⟩
    exact ⟨_, rfl, rfl⟩
  obtain ⟨before, now, again, after⟩ := gone
  obtain ⟨history, run, _⟩ := run_of_replay step_of_next followed
  obtain ⟨_, meanwhile, _⟩ := run_of_replay step_of_next again
  have shown : arbitratorsReader.page start 0 1 = [⟨2⟩] ∧
      arbitratorsReader.page now 1 1 = [⟨4⟩] ∧ arbitratorsReader.page now 2 1 = [⟨2⟩] ∧
        arbitratorsReader.last start 0 1 = false ∧ arbitratorsReader.last now 1 1 = false ∧
          arbitratorsReader.last now 2 1 = true := by
    simp only [arbitratorsReader, getArbitratorsPage, before, after]
    decide
  obtain ⟨first, second, third, more, further, last⟩ := shown
  have begun : Walk Step arbitratorsReader start [start] [] start [⟨2⟩] false := by
    simpa [first, more] using Walk.read 1
      (.start : Walk Step arbitratorsReader start [] [] start [] false)
  have middle := (begun.meanwhileAll meanwhile).read 1
  simp only [List.length_cons, List.length_nil, Nat.reduceAdd, second, further,
    List.cons_append, List.nil_append] at middle
  have walk := middle.read 1
  simp only [List.length_cons, List.length_nil, Nat.reduceAdd, third, last,
    List.cons_append, List.nil_append] at walk
  refine ⟨start, now, _, _, walk, after, ?_⟩
  refine ((arbitrators_pages_stable run walk ?_).2.2.2 rfl).1
  simp [before, after, maxIterHardCap]

end Sample

end Arbitration
