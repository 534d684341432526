import CredenceContracts.Library.OffsetReading
import CredenceContracts.Registry.Bijection

/-!
# Pages of the registered identities

A reader goes through the list of identities by offsets while the registry is in use.  A
removal moves the later identities up, so that one of them may be missed for each removal;
no other identity is shown twice, and without removals the pages are the list.
-/

namespace Registry

open Soroban Transition OffsetReading

section Model

def maxIdentitiesPageSize : Nat :=
  200

/-- The identities from an offset on, in the order of their registration. -/
def getIdentitiesPage (storage : Storage) (offset limit : Nat) : List Address :=
  slice storage.registeredIdentities offset (min limit maxIdentitiesPageSize)

/-- The pages with positive limits; an empty one is the last. -/
def identitiesReader : Reader Storage {limit : Nat // 0 < limit} Address where
  page storage offset limit := getIdentitiesPage storage offset limit
  last storage offset limit := (getIdentitiesPage storage offset limit).isEmpty

/-- The identities that an event removes. -/
def removedIdentities (event : Event Storage Label) : List Address :=
  match event.label.call with
  | .remove identity => [identity]
  | _ => []

end Model

section Walks

variable {start now : Storage} {history trace : List (Event Storage Label)}
variable {reads : List Storage} {shown : List Address} {ended : Bool}

/-- Where the list is short of the range of its index, the reader reads it. -/
theorem identitiesReader_reads {storage : Storage}
    (few : storage.registeredIdentities.length + maxIdentitiesPageSize ≤ 2 ^ 32) :
    identitiesReader.Reads Storage.registeredIdentities
      (fun limit => min limit.1 maxIdentitiesPageSize) storage := by
  refine .of_empty ?_ fun offset limit => slice_eq_page ?_
  · rintro ⟨limit, positive⟩
    exact Nat.lt_min.mpr ⟨positive, by decide⟩
  · have capped : min limit.1 maxIdentitiesPageSize ≤ maxIdentitiesPageSize := min_le_right _ _
    omega

/-- A step appends a new identity to the list or takes out the one that it removes. -/
theorem edit_of_step {before after : Storage} {label : Label} (fresh : before.Fresh)
    (sound : before.tables.Sound) (stepped : Step before label after) :
    Edit before.registeredIdentities (removedIdentities ⟨before, label, after⟩)
      after.registeredIdentities := by
  obtain ⟨env, contracts, call⟩ := label
  by_cases removes : ∃ identity, call = .remove identity
  · obtain ⟨identity, rfl⟩ := removes
    obtain ⟨-, entry, -, rfl⟩ := remove_eq_ok.mp stepped
    exact .erase
  · have nothing : removedIdentities ⟨before, ⟨env, contracts, call⟩, after⟩ = [] := by
      cases call <;> simp_all [removedIdentities]
    rw [nothing]
    cases step_tables fresh stepped with
    | kept same =>
        have listed : after.registeredIdentities = before.registeredIdentities :=
          congrArg Tables.listed same
        rw [listed]
        exact .same sound.nodup
    | stored identity bondContract _ absent free same =>
        have listed : after.registeredIdentities = before.registeredIdentities ++ [identity] :=
          (congrArg Tables.listed same).trans (sound.listed_store absent)
        have nodup := (sound.store absent free).nodup
        rw [sound.listed_store absent] at nodup
        rw [listed]
        exact .append nodup
    | removed identity _ called => exact absurd ⟨identity, called⟩ removes

/-- A reader of the identities by pages sees no identity twice, unless it was removed in
between, and does not read on for ever.  At the end it has missed at most one of those
that are registered for each removal since it began; without removals it has seen just
them, in their order. -/
theorem identities_pages_stable (run : Run Step .deployed history start)
    (walk : Walk Step identitiesReader start reads trace now shown ended)
    (few : ∀ storage ∈ reads,
      storage.registeredIdentities.length + maxIdentitiesPageSize ≤ 2 ^ 32) :
    (∀ identity, identity ∉ trace.flatMap removedIdentities → shown.count identity ≤ 1) ∧
      reads.length ≤
        now.registeredIdentities.length + (trace.flatMap removedIdentities).length + 1 ∧
      (ended = true →
        (now.registeredIdentities.filter (· ∉ shown)).length ≤
            (trace.flatMap removedIdentities).length ∧
          (trace.flatMap removedIdentities = [] → shown = now.registeredIdentities)) := by
  have sound : ∀ storage ∈ reads, _ := fun storage member =>
    identitiesReader_reads (few storage member)
  have edited : Edited Storage.registeredIdentities removedIdentities trace := by
    intro event member
    obtain ⟨earlier, reached, stepped⟩ := walk.reached run member
    obtain ⟨fresh, tables, -⟩ := sound_of_run reached
    exact edit_of_step fresh tables stepped
  have nodup : start.registeredIdentities.Nodup := (sound_of_run run).2.1.nodup
  have noted := edited.noted walk.run
  refine ⟨(walk.standing sound nodup edited noted).once,
    walk.bounded sound nodup edited noted, ?_⟩
  rintro rfl
  exact walk.missed_le sound nodup edited noted

/-- The first of four identities is removed between two pages of two: the reader misses
the third. -/
theorem identities_pages_stable_sample :
    ∃ start now trace reads,
      Walk Step identitiesReader start reads trace now [⟨2⟩, ⟨3⟩, ⟨5⟩] true ∧
        now.registeredIdentities = [⟨3⟩, ⟨4⟩, ⟨5⟩] ∧
          (now.registeredIdentities.filter (· ∉ [⟨2⟩, ⟨3⟩, ⟨5⟩])).length ≤
            (trace.flatMap removedIdentities).length := by
  let two : {limit : Nat // 0 < limit} := ⟨2, by decide⟩
  obtain ⟨start, now, followed, removed, before, after⟩ : ∃ start now,
      replay next .deployed
          [ sampleLabel 1 (.initializeRegistry ⟨1⟩),
            sampleLabel 2 (.register ⟨2⟩ ⟨20⟩ false),
            sampleLabel 3 (.register ⟨3⟩ ⟨30⟩ true),
            sampleLabel 4 (.register ⟨4⟩ ⟨40⟩ true),
            sampleLabel 5 (.register ⟨5⟩ ⟨50⟩ true) ] = some start ∧
        next start (sampleLabel 6 (.remove ⟨2⟩)) = some now ∧
        start.registeredIdentities = [⟨2⟩, ⟨3⟩, ⟨4⟩, ⟨5⟩] ∧
        now.registeredIdentities = [⟨3⟩, ⟨4⟩, ⟨5⟩] :=
    ⟨_, _, rfl, rfl, rfl, rfl⟩
  obtain ⟨history, run, _⟩ := run_of_replay step_of_next followed
  have shown : identitiesReader.page start 0 two = [⟨2⟩, ⟨3⟩] ∧
      identitiesReader.page now 2 two = [⟨5⟩] ∧ identitiesReader.page now 3 two = [] ∧
        identitiesReader.last start 0 two = false ∧ identitiesReader.last now 2 two = false ∧
          identitiesReader.last now 3 two = true := by
    simp only [identitiesReader, getIdentitiesPage, before, after]
    decide
  obtain ⟨first, second, third, more, again, none⟩ := shown
  have begun : Walk Step identitiesReader start [start] [] start [⟨2⟩, ⟨3⟩] false := by
    simpa [first, more] using Walk.read two
      (.start : Walk Step identitiesReader start [] [] start [] false)
  have followedUp := (begun.meanwhile (step_of_next removed)).read two
  simp only [List.length_cons, List.length_nil, Nat.reduceAdd, second, again,
    List.cons_append, List.nil_append] at followedUp
  have walk := followedUp.read two
  simp only [List.length_cons, List.length_nil, Nat.reduceAdd, third, none,
    List.append_nil] at walk
  refine ⟨start, now, _, _, walk, after, ?_⟩
  refine ((identities_pages_stable run walk ?_).2.2 rfl).1
  simp [before, after, maxIdentitiesPageSize]

end Walks

end Registry
