import CredenceContracts.Evidence.Contract
import CredenceContracts.Library.IndexedLog

/-!
# The evidence as a log

What was submitted forms a log that only grows, and every view is one of this log: a
record by its id, the records of a proposal in the order of their submission, whether a
hash occurs, and the number of records.
-/

namespace SlashEvidence

open Soroban MachineInt Transition IndexedLog

section Abstract

/-- The record of a submission, at its place in the log. -/
def Label.record (label : Label) (id : Nat) : Evidence where
  id
  proposalId := label.proposalId
  hash := label.hash
  hashType := label.hashType
  description := label.description
  submittedBy := label.submitter
  submittedAt := label.env.timestamp

/-- What the log takes: a hash that is not empty and new, a description that is not too
long, and as many records as can be numbered. -/
structure Label.Admissible (label : Label) (log : List Evidence) : Prop where
  present : label.hash ≠ []
  new : ∀ evidence ∈ log, evidence.hash ≠ label.hash
  short : ∀ text ∈ label.description, text.length ≤ maxDescriptionLength
  room : log.length + 1 < 2 ^ 64

/-- The log of a history. -/
def logged : List (Event Storage Label) → List Evidence :=
  List.foldl (fun log event => log ++ [event.label.record log.length]) []

end Abstract

section Refinement

variable {storage after : Storage} {label : Label} {log : List Evidence} {evidenceId : Nat}
variable {trace : List (Event Storage Label)}

/-- The stored entries as the tables of a log. -/
def Storage.tables (storage : Storage) : Tables Evidence Bytes Nat where
  count := storage.evidenceCounter
  entry := storage.evidence
  group := storage.proposalEvidence
  used := storage.hashExists

/-- The stored entries hold this log. -/
def Storage.Holds (storage : Storage) (log : List Evidence) : Prop :=
  Represents Evidence.hash Evidence.proposalId storage.tables log

theorem submitEvidence_eq_ok :
    submitEvidence storage label.env label.submitter label.proposalId label.hash label.hashType
        label.description = .ok (after, evidenceId) ↔
      label.hash ≠ [] ∧ storage.hashExists label.hash = false ∧
        (∀ text ∈ label.description, text.length ≤ maxDescriptionLength) ∧
          storage.evidenceCounter + 1 < 2 ^ 64 ∧ evidenceId = storage.evidenceCounter ∧
            after.tables = storage.tables.append Evidence.hash Evidence.proposalId
              (label.record storage.evidenceCounter) := by
  obtain ⟨counter, entry, group, used⟩ := after
  simp only [submitEvidence, Outcome.bind_eq_ok, Outcome.rejectIf_eq_ok, checkedU64_eq_ok,
    Outcome.pure_eq_ok, List.isEmpty_iff, Bool.not_eq_true, not_exists, not_and, not_lt,
    Prod.mk.injEq, Storage.mk.injEq, Storage.tables, Tables.append, Tables.mk.injEq,
    Label.record]
  constructor
  · rintro ⟨_, present, _, unused, _, short, _, ⟨room, rfl⟩, ⟨rfl, rfl, rfl, rfl⟩, rfl⟩
    exact ⟨present, unused, short, room, rfl, rfl, rfl, rfl, rfl⟩
  · rintro ⟨present, unused, short, room, rfl, rfl, rfl, rfl, rfl⟩
    exact ⟨(), present, (), unused, (), short, _, ⟨room, rfl⟩, ⟨rfl, rfl, rfl, rfl⟩, rfl⟩

/-- A submission is taken exactly where the log takes it. -/
theorem step_iff (holds : storage.Holds log) :
    Step storage label after ↔
      label.Admissible log ∧ after.tables = storage.tables.append Evidence.hash
        Evidence.proposalId (label.record log.length) := by
  have count : storage.evidenceCounter = log.length := holds.count
  have fresh : storage.hashExists label.hash = false ↔
      ∀ evidence ∈ log, evidence.hash ≠ label.hash := by
    rw [← Bool.not_eq_true, show storage.hashExists = storage.tables.used from rfl, holds.used]
    simp
  simp only [Step, submitEvidence_eq_ok, count, fresh]
  constructor
  · rintro ⟨_, present, new, short, room, -, same⟩
    exact ⟨⟨present, new, short, room⟩, same⟩
  · rintro ⟨⟨present, new, short, room⟩, same⟩
    exact ⟨log.length, present, new, short, room, rfl, same⟩

/-- A submission adds its record to the log. -/
theorem holds_of_step (holds : storage.Holds log) (stepped : Step storage label after) :
    after.Holds (log ++ [label.record log.length]) := by
  obtain ⟨admissible, same⟩ := (step_iff holds).mp stepped
  have unused : storage.tables.used (label.record log.length).hash = false := by
    rw [← Bool.not_eq_true, holds.used, List.mem_map]
    rintro ⟨evidence, member, same⟩
    exact admissible.new evidence member same
  unfold Storage.Holds
  rw [same]
  exact holds.append unused

/-- The records are numbered, and each of them was admissible. -/
structure Sound (log : List Evidence) : Prop where
  numbered : log.map Evidence.id = List.range log.length
  present : ∀ evidence ∈ log, evidence.hash ≠ []
  short : ∀ evidence ∈ log, ∀ text ∈ evidence.description,
    text.length ≤ maxDescriptionLength

theorem Sound.append (sound : Sound log) (admissible : label.Admissible log) :
    Sound (log ++ [label.record log.length]) where
  numbered := by simp [sound.numbered, List.range_succ, Label.record]
  present := by
    intro evidence member
    rcases List.mem_append.mp member with earlier | last
    · exact sound.present evidence earlier
    · rw [List.mem_singleton.mp last]
      exact admissible.present
  short := by
    intro evidence member
    rcases List.mem_append.mp member with earlier | last
    · exact sound.short evidence earlier
    · rw [List.mem_singleton.mp last]
      exact admissible.short

theorem logged_snoc {event : Event Storage Label} :
    logged (trace ++ [event]) =
      logged trace ++ [event.label.record (logged trace).length] := by
  simp [logged]

theorem logged_isPrefix (earlier later : List (Event Storage Label)) :
    logged earlier <+: logged (earlier ++ later) := by
  induction later using List.reverseRecOn with
  | nil => simp
  | append_singleton later event ih =>
      rw [← List.append_assoc, logged_snoc]
      exact ih.trans (List.prefix_append _ _)

theorem holds_of_run (run : Run Step .deployed trace storage) :
    storage.Holds (logged trace) ∧ Sound (logged trace) := by
  apply run.history
    (motive := fun trace storage => storage.Holds (logged trace) ∧ Sound (logged trace))
  · exact ⟨represents_nil, ⟨rfl, by simp [logged], by simp [logged]⟩⟩
  · rintro trace event - ⟨holds, sound⟩ stepped
    rw [logged_snoc]
    exact ⟨holds_of_step holds stepped, sound.append ((step_iff holds).mp stepped).1⟩

/-- The details of a proposal are all there. -/
theorem getProposalEvidenceDetails_eq (holds : storage.Holds log) (proposalId : Nat) :
    getProposalEvidenceDetails storage proposalId =
      .ok (log.filter fun evidence => evidence.proposalId = proposalId) := by
  have group : getProposalEvidence storage proposalId =
      numbers Evidence.proposalId log proposalId := holds.group proposalId
  have entry : storage.evidence = (log[·]?) := funext holds.entry
  have found : ∀ id ∈ getProposalEvidence storage proposalId,
      (storage.evidence id).isSome = true := by
    intro id member
    obtain ⟨evidence, stored, -⟩ := holds.found member
    exact Option.isSome_iff_exists.mpr ⟨evidence, stored⟩
  calc getProposalEvidenceDetails storage proposalId
      = .ok ((getProposalEvidence storage proposalId).filterMap storage.evidence) :=
        Outcome.mapM_unwrapOr found
    _ = _ := by rw [group, entry, filterMap_numbers]

/-- What the views show of a log. -/
structure Shows (storage : Storage) (log : List Evidence) : Prop where
  counted : getEvidenceCount storage = log.length
  found : ∀ id evidence, getEvidence storage id = .ok evidence ↔ log[id]? = some evidence
  ids : ∀ proposalId, getProposalEvidence storage proposalId =
    (log.filter fun evidence => evidence.proposalId = proposalId).map Evidence.id
  details : ∀ proposalId, getProposalEvidenceDetails storage proposalId =
    .ok (log.filter fun evidence => evidence.proposalId = proposalId)
  hashes : ∀ hash, storage.hashExists hash = true ↔ ∃ evidence ∈ log, evidence.hash = hash
  distinct : (log.map Evidence.hash).Nodup
  sound : Sound log

/-- Every run of submissions keeps a log: the views show it, a further submission is taken
exactly where the log takes it, and what was logged earlier stays as it was. -/
theorem evidence_is_log (run : Run Step .deployed trace storage) :
    Shows storage (logged trace) ∧
      (∀ label, (∃ after, Step storage label after) ↔ label.Admissible (logged trace)) ∧
        ∀ earlier later, trace = earlier ++ later → logged earlier <+: logged trace := by
  obtain ⟨holds, sound⟩ := holds_of_run run
  refine ⟨⟨holds.count, ?_, ?_, getProposalEvidenceDetails_eq holds, ?_, holds.distinct,
    sound⟩, ?_, ?_⟩
  · intro id evidence
    rw [getEvidence, Outcome.unwrapOr_eq_ok, ← holds.entry]
    rfl
  · intro proposalId
    exact (holds.group proposalId).trans (numbers_eq_map sound.numbered proposalId)
  · intro hash
    rw [show storage.hashExists = storage.tables.used from rfl, holds.used, List.mem_map]
  · intro label
    constructor
    · rintro ⟨after, stepped⟩
      exact ((step_iff holds).mp stepped).1
    · intro admissible
      refine ⟨⟨_, _, _, _⟩, (step_iff holds).mpr ⟨admissible, rfl⟩⟩
  · rintro earlier later rfl
    exact logged_isPrefix earlier later

/-- Two pieces of evidence for one proposal and one for another. -/
theorem evidence_is_log_sample :
    ∃ trace storage, Run Step .deployed trace storage ∧
      (getProposalEvidenceDetails storage 7).toOption.map (List.map Evidence.hash) =
        some [[1], [3]] ∧
      Shows storage (logged trace) := by
  obtain ⟨storage, followed, shown⟩ : ∃ storage,
      replay next .deployed
          [ ⟨.signedByAll ⟨0⟩ 1, ⟨2⟩, 7, [1], .ipfs, none⟩,
            ⟨.signedByAll ⟨0⟩ 2, ⟨3⟩, 8, [2], .sha256, some [65]⟩,
            ⟨.signedByAll ⟨0⟩ 3, ⟨2⟩, 7, [3], .other, none⟩ ] = some storage ∧
        (getProposalEvidenceDetails storage 7).toOption.map (List.map Evidence.hash) =
          some [[1], [3]] :=
    ⟨_, rfl, rfl⟩
  obtain ⟨trace, run, _⟩ := run_of_replay step_of_next followed
  exact ⟨trace, storage, run, shown, (evidence_is_log run).1⟩

end Refinement

end SlashEvidence
