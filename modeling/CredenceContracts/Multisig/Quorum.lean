import CredenceContracts.Multisig.Spec
import Mathlib.Data.Finset.Card

/-!
# The quorum behind an execution

Execution counts the entries of the signer list whose signature is stored.  That
is a number of distinct signers only while the list has no repetition, and the
signatures are of this proposal only while no signature outlives its id.
Initialisation can break both: it takes a list with repetitions, and called
again it hands out the old ids again.
-/

namespace Multisig

open Soroban Transition

variable {storage after : Storage} {label : Label} {trace : List (Event Storage Label)}

/-- The event submits a proposal under the id. -/
def Submits (id : Nat) (event : Event Storage Label) : Prop :=
  (∃ proposer submission, event.label.call = .submitProposal proposer submission) ∧
    event.before.proposalCounter = id

/-- The trace has the signer sign the id, and no submission under it since. -/
def SignedSince (trace : List (Event Storage Label)) (id : Nat) (signer : Address) : Prop :=
  ∃ earlier event later, trace = earlier ++ event :: later ∧
    event.label.call = .signProposal signer id ∧ ∀ other ∈ later, ¬Submits id other

/-- As many distinct signers as the threshold asks for have signed the proposal
since it was submitted. -/
def SignedQuorum (trace : List (Event Storage Label)) (storage : Storage) (id : Nat) : Prop :=
  ∃ quorum : Finset Address, storage.threshold ≤ quorum.card ∧
    ∀ signer ∈ quorum, storage.signer signer = true ∧ SignedSince trace id signer

/-- The event initialises with a list without repetition, and submits under an
id for which no signature is stored. -/
structure Fair (event : Event Storage Label) : Prop where
  distinct : ∀ admin signers threshold,
    event.label.call = .initializeMultisig admin signers threshold → signers.Nodup
  unsigned : ∀ proposer submission,
    event.label.call = .submitProposal proposer submission →
      ∀ signer, event.before.signature event.before.proposalCounter signer = false

/-- The signer list lists signers, each once. -/
structure Listed (storage : Storage) : Prop where
  members : ∀ signer ∈ storage.signerList, storage.signer signer = true
  nodup : storage.signerList.Nodup

theorem Listed.of_same (listed : Listed storage)
    (same : signerEntries after = signerEntries storage) : Listed after := by
  obtain ⟨signer, signerList, -, -⟩ : after.signer = storage.signer ∧
      after.signerList = storage.signerList ∧ after.signerCount = storage.signerCount ∧
        after.threshold = storage.threshold := by
    simpa [signerEntries] using same
  constructor
  · rw [signer, signerList]
    exact listed.members
  · rw [signerList]
    exact listed.nodup

theorem step_listed (fair : Fair ⟨storage, label, after⟩) (listed : Listed storage)
    (stepped : Step storage label after) : Listed after := by
  cases signers_of_step stepped with
  | kept same => exact listed.of_same same
  | initialized admin signers threshold called done =>
      obtain ⟨_, _, _, _, rfl⟩ := initializeMultisig_eq_ok.mp done
      refine ⟨fun signer member => ?_, fair.distinct admin signers threshold called⟩
      exact (Flags.foldl_raise storage.signer signers signer).mpr (.inl member)
  | added admin signer done =>
      obtain ⟨_, _, absent, _, rfl⟩ := addSigner_eq_ok.mp done
      have unlisted : signer ∉ storage.signerList := by
        intro member
        simp [listed.members signer member] at absent
      constructor
      · intro other member
        rcases List.mem_append.mp member with old | new
        · have different : other ≠ signer := fun same => unlisted (same ▸ old)
          simpa [different] using listed.members other old
        · simp [List.mem_singleton.mp new]
      · exact listed.nodup.append (List.nodup_singleton signer) (by simpa using unlisted)
  | removed admin signer done =>
      obtain ⟨_, _, _, _, rfl⟩ := removeSigner_eq_ok.mp done
      constructor
      · intro other member
        obtain ⟨old, different⟩ := List.mem_filter.mp member
        simpa [show other ≠ signer by simpa using different] using listed.members other old
      · exact listed.nodup.filter _
  | thresholdSet admin threshold done =>
      obtain ⟨_, _, _, _, rfl⟩ := setThreshold_eq_ok.mp done
      exact ⟨listed.members, listed.nodup⟩

/-- A stored signature was there before the step or is given by it. -/
theorem signature_of_step (stepped : Step storage label after) {id : Nat} {signer : Address}
    (given : after.signature id signer = true) :
    storage.signature id signer = true ∨ label.call = .signProposal signer id := by
  obtain ⟨env, call⟩ := label
  cases call with
  | initializeMultisig admin signers threshold =>
      obtain ⟨_, _, _, _, rfl⟩ := initializeMultisig_eq_ok.mp stepped
      exact .inl given
  | addSigner admin signer =>
      obtain ⟨_, _, _, _, rfl⟩ := addSigner_eq_ok.mp stepped
      exact .inl given
  | removeSigner admin signer =>
      obtain ⟨_, _, _, _, rfl⟩ := removeSigner_eq_ok.mp stepped
      exact .inl given
  | setThreshold admin threshold =>
      obtain ⟨_, _, _, _, rfl⟩ := setThreshold_eq_ok.mp stepped
      exact .inl given
  | submitProposal proposer submission =>
      obtain ⟨⟨_, id⟩, submitted, rfl⟩ := Outcome.map_eq_ok.mp stepped
      obtain ⟨_, _, _, _, _, _, rfl⟩ := submitProposal_eq_ok.mp submitted
      exact .inl given
  | signProposal other proposalId =>
      obtain ⟨_, _, _, _, _, _, _, _, _, rfl⟩ := signProposal_eq_ok.mp stepped
      by_cases same : id = proposalId
      · subst same
        by_cases sameSigner : signer = other
        · exact .inr (by rw [sameSigner])
        · exact .inl (by simpa [sameSigner] using given)
      · exact .inl (by simpa [same] using given)
  | executeProposal proposalId =>
      obtain ⟨_, _, _, _, _, _, _, _, _, rfl⟩ := executeProposal_eq_ok.mp stepped
      exact .inl given
  | rejectProposal admin proposalId =>
      obtain ⟨_, _, _, _, _, rfl⟩ := rejectProposal_eq_ok.mp stepped
      exact .inl given
  | pruneExpiredProposals startId maxIter =>
      obtain ⟨_, _, _, rfl, raised⟩ := pruneExpiredProposals_frame stepped
      exact .inl (raised id signer given)
  | pausable call =>
      simp only [Step, invoke, Outcome.bind_eq_ok, Outcome.pure_eq_ok] at stepped
      obtain ⟨pause, _, rfl⟩ := stepped
      exact .inl given

/-- A signing stays a signing since the submission while no event submits the id
again. -/
theorem SignedSince.snoc {id : Nat} {signer : Address} {event : Event Storage Label}
    (signed : SignedSince trace id signer) (quiet : ¬Submits id event) :
    SignedSince (trace ++ [event]) id signer :=
  since_snoc.mpr (.inr ⟨quiet, signed⟩)

/-- In a fair run that starts without signatures, the stored ones are those given
since the submission. -/
theorem signedSince_of_run {initial : Storage} (run : Run Step initial trace storage)
    (unsigned : ∀ id signer, initial.signature id signer = false)
    (fair : ∀ event ∈ trace, Fair event) {id : Nat} {signer : Address}
    (given : storage.signature id signer = true) : SignedSince trace id signer := by
  induction run with
  | nil => simp [unsigned] at given
  | @snoc trace before after label run stepped ih =>
      have fairBefore : ∀ event ∈ trace, Fair event := fun event member =>
        fair event (List.mem_append_left _ member)
      have fairLast := fair ⟨before, label, after⟩
        (List.mem_append_right _ List.mem_cons_self)
      rcases signature_of_step stepped given with stored | signing
      · refine (ih fairBefore stored).snoc ?_
        rintro ⟨⟨proposer, submission, called⟩, rfl⟩
        have none := fairLast.unsigned proposer submission called signer
        exact Bool.false_ne_true (none.symm.trans stored)
      · exact since_snoc.mpr (.inl signing)

theorem listed_deployed : Listed .deployed where
  members := by simp [Storage.deployed]
  nodup := List.nodup_nil

theorem listed_of_run (run : Run Step .deployed trace storage)
    (fair : ∀ event ∈ trace, Fair event) : Listed storage :=
  (run.restrict Fair Listed fair listed_deployed
    fun _ fairEvent listed stepped => step_listed fairEvent listed stepped).2

/-- In a fair run every execution has a quorum of distinct signers who signed the
proposal since it was submitted. -/
theorem executes_with_signed_quorum (run : Run Step .deployed trace storage)
    (fair : ∀ event ∈ trace, Fair event) {earlier later : List (Event Storage Label)}
    {event : Event Storage Label} (position : trace = earlier ++ event :: later) {id : Nat}
    (called : event.label.call = .executeProposal id) :
    SignedQuorum earlier event.before id := by
  obtain ⟨before, stepped, _⟩ := run.split position
  have fairBefore : ∀ other ∈ earlier, Fair other := fun other member =>
    fair other (position ▸ List.mem_append_left _ member)
  have listed := listed_of_run before fairBefore
  unfold Step invoke at stepped
  rw [called] at stepped
  obtain ⟨_, _, signatures, _, _, _, counted, reached, _⟩ := executeProposal_eq_ok.mp stepped
  have count := countActiveSignatures_eq counted
  refine ⟨(event.before.signerList.filter (event.before.signature id)).toFinset, ?_, ?_⟩
  · rw [List.toFinset_card_of_nodup (listed.nodup.filter _), ← List.countP_eq_length_filter,
      ← count]
    exact reached
  · intro signer member
    obtain ⟨listedSigner, signed⟩ := List.mem_filter.mp (List.mem_toFinset.mp member)
    exact ⟨listed.members signer listedSigner,
      signedSince_of_run before (fun _ _ => rfl) fairBefore signed⟩

section Sample

/-- A proposal to do anything at all. -/
def sampleSubmission : Submission where
  actionType := .custom
  target := none
  functionName := none
  arguments := none
  description := "upgrade"
  expiresAt := 0
  metadata := none
  opHash := Vector.replicate 32 7

def sampleLabel (timestamp : Nat) (call : Call) : Label where
  env := .signedByAll ⟨0⟩ timestamp
  call := call

/-- Listing one signer twice lets its single signature meet a threshold of two. -/
theorem repeated_signer_executes :
    ¬∀ trace, ∀ storage : Storage, Run Step .deployed trace storage →
      ∀ earlier event later, trace = earlier ++ event :: later →
        ∀ id, event.label.call = .executeProposal id →
          SignedQuorum earlier event.before id := by
  intro claimed
  obtain ⟨before, after, followed, executed, threshold, only⟩ : ∃ before after,
      replay next .deployed
          [ sampleLabel 1 (.initializeMultisig ⟨1⟩ [⟨2⟩, ⟨2⟩] 2),
            sampleLabel 2 (.submitProposal ⟨2⟩ sampleSubmission),
            sampleLabel 3 (.signProposal ⟨2⟩ 0) ] = some before ∧
        next before (sampleLabel 4 (.executeProposal 0)) = some after ∧
          before.threshold = 2 ∧
            ∀ signer, before.signer signer = true → signer = ⟨2⟩ := by
    refine ⟨_, _, rfl, rfl, rfl, ?_⟩
    intro signer member
    by_contra different
    simp [Storage.deployed, different] at member
  obtain ⟨trace, run, _⟩ := run_of_replay step_of_next followed
  obtain ⟨quorum, reached, members⟩ := claimed _ _ (run.snoc (step_of_next executed)) trace _
    [] rfl 0 rfl
  have single : quorum ⊆ {⟨2⟩} := fun signer member =>
    Finset.mem_singleton.mpr (only signer (members signer member).1)
  have small := Finset.card_le_card single
  simp [threshold] at reached small
  omega

/-- An event that neither initialises nor submits is fair. -/
theorem fair_of_other {event : Event Storage Label}
    (notInitialize : ∀ admin signers threshold,
      event.label.call ≠ .initializeMultisig admin signers threshold)
    (notSubmit : ∀ proposer submission,
      event.label.call ≠ .submitProposal proposer submission) : Fair event where
  distinct := fun admin signers threshold called =>
    absurd called (notInitialize admin signers threshold)
  unsigned := fun proposer submission called =>
    absurd called (notSubmit proposer submission)

/-- Two of three signers sign a proposal, and it executes. -/
theorem executes_with_signed_quorum_sample :
    ∃ earlier storage event, Run Step .deployed (earlier ++ [event]) storage ∧
      event.label.call = .executeProposal 0 ∧ event.before.threshold = 2 ∧
        SignedQuorum earlier event.before 0 := by
  obtain ⟨initial, submitted, signed, after, started, submitting, signing, executed, none,
      threshold⟩ : ∃ initial submitted signed after,
      next .deployed (sampleLabel 1 (.initializeMultisig ⟨1⟩ [⟨2⟩, ⟨3⟩, ⟨4⟩] 2)) =
          some initial ∧
        next initial (sampleLabel 2 (.submitProposal ⟨2⟩ sampleSubmission)) =
            some submitted ∧
          replay next submitted
              [ sampleLabel 3 (.signProposal ⟨2⟩ 0), sampleLabel 4 (.signProposal ⟨4⟩ 0) ] =
                some signed ∧
            next signed (sampleLabel 5 (.executeProposal 0)) = some after ∧
              initial.signature = (fun _ _ => false) ∧ signed.threshold = 2 :=
    ⟨_, _, _, _, rfl, rfl, rfl, rfl, rfl, rfl⟩
  obtain ⟨trace, signingRun, labelled⟩ := run_of_replay step_of_next signing
  have run := ((Run.nil.snoc (step_of_next started)).snoc (step_of_next submitting)).append
    signingRun |>.snoc (step_of_next executed)
  refine ⟨_, after, _, run, rfl, threshold, ?_⟩
  refine executes_with_signed_quorum run ?_ rfl rfl
  intro event member
  simp only [List.nil_append, List.mem_append, List.mem_singleton] at member
  rcases member with ((rfl | rfl) | earlier) | rfl
  · constructor
    · intro admin signers threshold called
      cases called
      decide
    · intro proposer submission called
      cases called
  · constructor
    · intro admin signers threshold called
      cases called
    · intro proposer submission _ signer
      simp [none]
  · have listed : event.label ∈ _ := labelled ▸ List.mem_map_of_mem earlier
    simp only [List.mem_cons, List.not_mem_nil, or_false] at listed
    rcases listed with same | same <;>
      exact fair_of_other (by simp [same, sampleLabel]) (by simp [same, sampleLabel])
  · exact fair_of_other (by simp [sampleLabel]) (by simp [sampleLabel])

end Sample

end Multisig
