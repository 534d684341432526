import CredenceContracts.Attestation.Index
import CredenceContracts.Bond.SlashHistory
import CredenceContracts.Library.OffsetReading

/-!
# Pages of a subject's attestations

A reader goes through the live attestations of a subject by offsets while attesters attest
and revoke.  An id is never given out again, so no attestation is shown twice; but each
revocation moves the later ids up, and the reader may miss one of them for it.
-/

namespace Attestations

open Soroban Transition OffsetReading
open CredenceBond (Externals effectiveLimit maxQueryLimit)

variable {Ledger : Type}

section Model

/-- The ids of the live attestations of a subject from an offset on. -/
def getSubjectAttestationsPage (storage : Storage) (subject : Address) (offset limit : Nat) :
    List Nat :=
  slice (storage.subjectAttestations subject) offset (effectiveLimit limit)

abbrev State.listed (subject : Address) (state : State Ledger) : List Nat :=
  state.storage.subjectAttestations subject

/-- The pages of a subject; an empty one is the last. -/
def subjectReader (subject : Address) : Reader (State Ledger) Nat Nat where
  page state offset limit := getSubjectAttestationsPage state.storage subject offset limit
  last state offset limit :=
    (getSubjectAttestationsPage state.storage subject offset limit).isEmpty

/-- The attestation of the subject that an event revokes. -/
def revokedOf (subject : Address) (event : Event (State Ledger) Label) : List Nat :=
  match event.label.act.revokes with
  | some id => if id ∈ event.before.listed subject then [id] else []
  | none => []

end Model

section Walks

variable {ext : Externals Ledger} {self subject : Address}
variable {origin start now before after : State Ledger} {label : Label}
variable {history trace : List (Event (State Ledger) Label)} {reads : List (State Ledger)}
variable {shown : List Nat} {ended : Bool}

theorem effectiveLimit_pos (limit : Nat) : 0 < effectiveLimit limit := by
  unfold effectiveLimit maxQueryLimit
  split <;> omega

theorem effectiveLimit_le (limit : Nat) : effectiveLimit limit ≤ maxQueryLimit := by
  unfold effectiveLimit
  split
  · exact le_rfl
  · exact min_le_right _ _

/-- Where the list is short of the range of its index, the reader reads it. -/
theorem subjectReader_reads {state : State Ledger}
    (few : (state.listed subject).length + maxQueryLimit ≤ 2 ^ 32) :
    (subjectReader subject).Reads (State.listed subject) effectiveLimit state := by
  refine .of_empty effectiveLimit_pos fun offset limit => slice_eq_page ?_
  have capped := effectiveLimit_le limit
  change (state.listed subject).length + effectiveLimit limit ≤ 2 ^ 32
  omega

/-- A step appends new ids to the list of a subject or takes out the revoked one. -/
theorem edit_of_step (guarded : ext.Guarded self) (indexed : Indexed before.storage)
    (stepped : Step ext self before label after) :
    Edit (before.listed subject) (revokedOf subject ⟨before, label, after⟩)
      (after.listed subject) := by
  have change := step_change guarded stepped
  have nodup := (indexed.of_change change).nodup subject
  cases change with
  | added other added changed _ quiet =>
      have nothing : revokedOf subject ⟨before, label, after⟩ = [] := by simp [revokedOf, quiet]
      rw [changed.subjectAttestations_eq] at nodup
      rw [nothing, State.listed, State.listed, changed.subjectAttestations_eq]
      exact .append nodup
  | revoked attestation attestationId changed _ revokes =>
      rw [State.listed, State.listed, changed.subjectAttestations_eq indexed]
      simp only [revokedOf, revokes, State.listed]
      by_cases own : attestationId ∈ before.storage.subjectAttestations subject
      · rw [if_pos own]
        exact .erase
      · rw [if_neg own, List.erase_of_not_mem own]
        exact .same (indexed.nodup subject)
  | kept _ quiet _ _ _ rest =>
      have nothing : revokedOf subject ⟨before, label, after⟩ = [] := by simp [revokedOf, quiet]
      have same : after.listed subject = before.listed subject := by
        rw [State.listed, State.listed, Storage.subjectAttestations, rest.subjectAttestations]
      rw [nothing, same]
      exact .same (indexed.nodup subject)

/-- The ids that were given out. -/
def Issued (state : State Ledger) (id : Nat) : Prop :=
  id < state.storage.attestationCounter

theorem issued_of_listed {state : State Ledger} (indexed : Indexed state.storage) {id : Nat}
    (member : id ∈ state.listed subject) : Issued state id :=
  ((indexed.members subject id).mp member).lt_counter indexed

theorem counter_le (change : Change before.storage after.storage label.act) :
    before.storage.attestationCounter ≤ after.storage.attestationCounter := by
  cases change with
  | added subject added changed =>
      rw [changed.counter]
      exact Nat.le_add_right _ _
  | revoked attestation attestationId changed => exact changed.counter.ge
  | kept _ _ _ _ counter => exact counter.ge

/-- What a step lists anew was not given out before it. -/
theorem unissued_of_new (guarded : ext.Guarded self) (indexed : Indexed before.storage)
    (stepped : Step ext self before label after) {id : Nat} (present : id ∈ after.listed subject)
    (absent : id ∉ before.listed subject) : ¬Issued before id := by
  cases step_change guarded stepped with
  | added other added changed =>
      rw [State.listed, changed.subjectAttestations_eq, List.mem_append] at present
      have new := present.resolve_left absent
      split at new
      · exact Nat.not_lt.mpr (changed.mem_ids.mp new).1
      · cases new
  | revoked attestation attestationId changed =>
      rw [State.listed, changed.subjectAttestations_eq indexed] at present
      exact absurd (List.mem_of_mem_erase present) absent
  | kept _ _ _ _ _ rest =>
      rw [State.listed, Storage.subjectAttestations, rest.subjectAttestations] at present
      exact absurd present absent

/-- A reader of a subject's attestations by pages sees no attestation twice, whatever is
attested and revoked meanwhile, and does not read on for ever.  At the end it has missed
at most one of the live ones for each that was revoked since it began; without
revocations it has seen just them, in their order. -/
theorem subject_pages_stable (guarded : ext.Guarded self) (fresh : origin.storage.Unattested)
    (run : Run (Step ext self) origin history start)
    (walk : Walk (Step ext self) (subjectReader subject) start reads trace now shown ended)
    (few : ∀ state ∈ reads, (state.listed subject).length + maxQueryLimit ≤ 2 ^ 32) :
    shown.Nodup ∧
      reads.length ≤
        (now.listed subject).length + (trace.flatMap (revokedOf subject)).length + 1 ∧
      (ended = true →
        ((now.listed subject).filter (· ∉ shown)).length ≤
            (trace.flatMap (revokedOf subject)).length ∧
          (trace.flatMap (revokedOf subject) = [] → shown = now.listed subject)) := by
  have sound : ∀ state ∈ reads, _ := fun state member => subjectReader_reads (few state member)
  have indexed : Indexed start.storage := indexed_of_run guarded fresh.indexed run
  have reached : ∀ event ∈ trace, Indexed event.before.storage ∧
      Step ext self event.before event.label event.after := by
    intro event member
    obtain ⟨earlier, reaches, stepped⟩ := walk.reached run member
    exact ⟨indexed_of_run guarded fresh.indexed reaches, stepped⟩
  have edited : Edited (State.listed subject) (revokedOf subject) trace := by
    intro event member
    obtain ⟨held, stepped⟩ := reached event member
    exact edit_of_step guarded held stepped
  have noted : Noted (State.listed subject) start (fun _ => []) trace := by
    have first : ∀ id ∈ start.listed subject, Issued start id := fun id member =>
      issued_of_listed indexed member
    apply Noted.of_marks walk.run first
    · intro event member
      obtain ⟨held, stepped⟩ := reached event member
      have change := step_change guarded stepped
      refine ⟨fun id issued => lt_of_lt_of_le issued (counter_le change), fun id present => ?_⟩
      exact issued_of_listed (held.of_change change) present
    · intro event member id present absent
      obtain ⟨held, stepped⟩ := reached event member
      exact unissued_of_new guarded held stepped present absent
  have nodup := indexed.nodup subject
  have standing := walk.standing sound nodup edited noted
  refine ⟨List.nodup_iff_count_le_one.mpr fun id => standing.once id (by simp),
    walk.bounded sound nodup edited noted, ?_⟩
  rintro rfl
  exact walk.missed_le sound nodup edited noted

end Walks

section Sample

/-- An attester attests three times for a subject. -/
def pagedRun : List Label :=
  [ ⟨.signedByAll ⟨0⟩ 0, .call (.addAttestation ⟨2⟩ ⟨3⟩ "kyc" 0)⟩,
    ⟨.signedByAll ⟨0⟩ 1, .call (.addAttestation ⟨2⟩ ⟨3⟩ "aml" 1)⟩,
    ⟨.signedByAll ⟨0⟩ 2, .call (.addAttestation ⟨2⟩ ⟨3⟩ "pep" 2)⟩ ]

/-- The attester takes the first back and attests again. -/
def meanwhileRun : List Label :=
  [ ⟨.signedByAll ⟨0⟩ 3, .call (.revokeAttestation ⟨2⟩ 0 3)⟩,
    ⟨.signedByAll ⟨0⟩ 4, .call (.addAttestation ⟨2⟩ ⟨3⟩ "kyc" 4)⟩ ]

def pagedState : State ReferenceLedger :=
  pagedRun.foldl (advance (next Externals.reference ⟨0⟩)) attestersSample

def meanwhileState : State ReferenceLedger :=
  meanwhileRun.foldl (advance (next Externals.reference ⟨0⟩)) pagedState

/-- Two of three attestations are shown, the first is revoked and one more added: the
reader misses the third. -/
theorem subject_pages_stable_sample :
    ∃ trace reads,
      Walk (Step Externals.reference ⟨0⟩) (subjectReader ⟨3⟩) pagedState reads trace
        meanwhileState [0, 1, 3] true ∧
      meanwhileState.listed ⟨3⟩ = [1, 2, 3] ∧
      ((meanwhileState.listed ⟨3⟩).filter (· ∉ [0, 1, 3])).length ≤
        (trace.flatMap (revokedOf ⟨3⟩)).length := by
  have guarded : Externals.reference.Guarded ⟨0⟩ := CredenceBond.guarded_reference ⟨0⟩
  have paged : Run (Step Externals.reference ⟨0⟩) attestersSample
      (record (next Externals.reference ⟨0⟩) attestersSample pagedRun) pagedState :=
    run_of_record step_of_next (by decide +kernel)
  have meanwhile : Run (Step Externals.reference ⟨0⟩) pagedState
      (record (next Externals.reference ⟨0⟩) pagedState meanwhileRun) meanwhileState :=
    run_of_record step_of_next (by decide +kernel)
  have first : pagedState.listed ⟨3⟩ = [0, 1, 2] := by decide +kernel
  have second : meanwhileState.listed ⟨3⟩ = [1, 2, 3] := by decide +kernel
  have shown : (subjectReader ⟨3⟩).page pagedState 0 2 = [0, 1] ∧
      (subjectReader ⟨3⟩).page meanwhileState 2 2 = [3] ∧
        (subjectReader ⟨3⟩).page meanwhileState 3 2 = [] ∧
          (subjectReader ⟨3⟩).last pagedState 0 2 = false ∧
            (subjectReader ⟨3⟩).last meanwhileState 2 2 = false ∧
              (subjectReader ⟨3⟩).last meanwhileState 3 2 = true := by
    simp only [subjectReader, getSubjectAttestationsPage, first, second]
    decide
  obtain ⟨two, one, none, more, again, last⟩ := shown
  have begun : Walk (Step Externals.reference ⟨0⟩) (subjectReader ⟨3⟩) pagedState [pagedState] []
      pagedState [0, 1] false := by
    simpa [two, more] using Walk.read 2
      (.start : Walk (Step Externals.reference ⟨0⟩) (subjectReader ⟨3⟩) pagedState [] []
        pagedState [] false)
  have middle := (begun.meanwhileAll meanwhile).read 2
  simp only [List.length_cons, List.length_nil, Nat.reduceAdd, one, again, List.cons_append,
    List.nil_append] at middle
  have walk := middle.read 2
  simp only [List.length_cons, List.length_nil, Nat.reduceAdd, none, last,
    List.append_nil] at walk
  refine ⟨_, _, walk, second, ?_⟩
  refine ((subject_pages_stable guarded ⟨rfl, rfl, rfl, rfl⟩ paged walk ?_).2.2 rfl).1
  simp [first, second, maxQueryLimit]

end Sample

end Attestations
