import CredenceContracts.Library.Roster
import CredenceContracts.Multisig.Quorum

/-!
# The signer set and its three representations

The signers are kept as flags, as a list and as a count, and a threshold depends on
the count.  While the three agree, the walk over the list counts the distinct
signers whose signature is stored.  Only initialisation can break the agreement.
-/

namespace Multisig

open Soroban MachineInt Transition

variable {storage after : Storage} {label : Label} {trace : List (Event Storage Label)}

/-- The flags, the list and the count of the signers agree, and the threshold lies
between one and the count. -/
structure SignerSet (storage : Storage) : Prop where
  nodup : storage.signerList.Nodup
  members : ∀ signer, signer ∈ storage.signerList ↔ storage.signer signer = true
  count : getSignerCount storage = storage.signerList.length
  /-- The count is a 32-bit word. -/
  fits : getSignerCount storage < 2 ^ 32
  positive : 1 ≤ storage.threshold
  reachable : storage.threshold ≤ getSignerCount storage

/-- The event is any call but an initialisation. -/
def Maintains (event : Event Storage Label) : Prop :=
  ∀ admin signers threshold, event.label.call ≠ .initializeMultisig admin signers threshold

/-- The signatures of current signers on a proposal. -/
def activeSignatures (storage : Storage) (proposalId : Nat) : Set Address :=
  {signer | storage.signer signer = true ∧ storage.signature proposalId signer = true}

namespace SignerSet

theorem of_same (set : SignerSet storage)
    (same : signerEntries after = signerEntries storage) : SignerSet after := by
  obtain ⟨signer, signerList, signerCount, threshold⟩ : after.signer = storage.signer ∧
      after.signerList = storage.signerList ∧ after.signerCount = storage.signerCount ∧
        after.threshold = storage.threshold := by
    simpa [signerEntries] using same
  obtain ⟨nodup, members, count, fits, positive, reachable⟩ := set
  unfold getSignerCount at count fits reachable
  constructor <;> simp only [getSignerCount, signer, signerList, signerCount, threshold] <;>
    assumption

theorem signerCount_eq (set : SignerSet storage) :
    storage.signerCount = some storage.signerList.length := by
  have count := set.count
  have positive := set.positive.trans set.reachable
  unfold getSignerCount at count positive
  cases stored : storage.signerCount with
  | none => simp [stored] at positive
  | some number =>
      rw [stored] at count
      exact congrArg some count

/-- The list is the roster of the raised flags. -/
theorem lists (set : SignerSet storage) :
    Roster.Lists storage.signerList (Flags.raised storage.signer) where
  nodup := set.nodup
  mem_iff := set.members

theorem addSigner {signer : Address} (set : SignerSet storage)
    (absent : storage.signer signer = false)
    (bounded : storage.signerCount.getD 0 + 1 < 2 ^ 32) :
    SignerSet { storage with
      signer := Function.update storage.signer signer true
      signerCount := some (storage.signerCount.getD 0 + 1)
      signerList := storage.signerList ++ [signer] } := by
  have count := set.count
  have reachable := set.reachable
  unfold getSignerCount at count reachable
  have entered := set.lists.enter (show signer ∉ Flags.raised storage.signer by simp [absent])
  rw [← Flags.raised_set] at entered
  constructor
  · exact entered.nodup
  · exact entered.mem_iff
  · simp [getSignerCount, count]
  · exact bounded
  · exact set.positive
  · exact reachable.trans (Nat.le_succ _)

theorem removeSigner {signer : Address} (set : SignerSet storage)
    (present : storage.signer signer = true) (several : 1 < storage.signerCount.getD 1) :
    SignerSet { storage with
      signer := Function.update storage.signer signer false
      signerCount := some (storage.signerCount.getD 1 - 1)
      signerList := storage.signerList.filter fun other => other ≠ signer
      threshold := min storage.threshold (storage.signerCount.getD 1 - 1) } := by
  have stored := set.signerCount_eq
  have fits := set.fits
  have positive := set.positive
  simp only [getSignerCount, stored, Option.getD_some] at fits several ⊢
  have listed : signer ∈ storage.signerList := (set.members signer).mpr present
  have erased : (storage.signerList.filter fun other => other ≠ signer) =
      storage.signerList.erase signer := by
    rw [set.nodup.erase_eq_filter]
    exact List.filter_congr fun other _ => by simp [bne, beq_eq_decide]
  have left : Roster.Lists (storage.signerList.filter fun other => other ≠ signer) _ :=
    set.lists.leave_filter
  rw [← Flags.raised_clear] at left
  constructor
  · exact left.nodup
  · exact left.mem_iff
  · simp only [getSignerCount, Option.getD_some]
    rw [erased, List.length_erase_of_mem listed]
  · simp only [getSignerCount, Option.getD_some]
    omega
  · exact le_min positive (by omega)
  · exact min_le_right _ _

/-- Every call but an initialisation keeps the agreement. -/
theorem step (maintains : Maintains ⟨storage, label, after⟩) (set : SignerSet storage)
    (stepped : Step storage label after) : SignerSet after := by
  cases signers_of_step stepped with
  | kept same => exact set.of_same same
  | initialized admin signers threshold called done =>
      exact absurd called (maintains admin signers threshold)
  | added admin signer done =>
      obtain ⟨_, _, absent, bounded, rfl⟩ := addSigner_eq_ok.mp done
      exact set.addSigner absent bounded
  | removed admin signer done =>
      obtain ⟨_, _, present, several, rfl⟩ := removeSigner_eq_ok.mp done
      exact set.removeSigner present several
  | thresholdSet admin threshold done =>
      obtain ⟨_, _, positive, reachable, rfl⟩ := setThreshold_eq_ok.mp done
      exact ⟨set.nodup, set.members, set.count, set.fits, positive, reachable⟩

/-- An initialisation with distinct signers, none of whom was one before it outside
the list, establishes the agreement. -/
theorem of_initialize {env : Env} {admin : Address} {signers : List Address}
    {threshold : Nat} (distinct : signers.Nodup) (fits : signers.length < 2 ^ 32)
    (fresh : ∀ signer, storage.signer signer = true → signer ∈ signers)
    (initialized : initializeMultisig env storage admin signers threshold = .ok after) :
    SignerSet after := by
  obtain ⟨_, _, positive, reachable, rfl⟩ := initializeMultisig_eq_ok.mp initialized
  constructor
  · exact distinct
  · intro signer
    rw [Flags.foldl_raise]
    exact ⟨.inl, fun raised => raised.elim id (fresh signer)⟩
  · rfl
  · exact fits
  · exact positive
  · exact reachable

/-- The walk over the list counts the distinct signers whose signature is stored. -/
theorem counts_active (set : SignerSet storage) (proposalId : Nat) :
    ∃ count, countActiveSignatures storage proposalId = .ok count ∧
      (activeSignatures storage proposalId).encard = count := by
  have fits := set.fits
  rw [set.count] at fits
  have active : Roster.Lists (storage.signerList.filter (storage.signature proposalId))
      (activeSignatures storage proposalId) := set.lists.filter (storage.signature proposalId)
  refine ⟨storage.signerList.countP (storage.signature proposalId), ?_, ?_⟩
  · have bounded : 0 + storage.signerList.length < 2 ^ 32 := by omega
    exact (foldlM_countSigned_of_fits bounded).trans (by rw [Nat.zero_add])
  · rw [active.encard_eq, List.countP_eq_length_filter]

end SignerSet

/-- From any state in which the three representations agree, every run without an
initialisation stays in such states, and in all of them the walk over the list counts
the distinct current signers whose signature is stored. -/
theorem signer_set_kept {initial : Storage} (agrees : SignerSet initial)
    (run : Run Step initial trace storage) (maintains : ∀ event ∈ trace, Maintains event) :
    SignerSet storage ∧ ∀ proposalId, ∃ count,
      countActiveSignatures storage proposalId = .ok count ∧
        (activeSignatures storage proposalId).encard = count := by
  have kept := (run.restrict Maintains SignerSet maintains agrees
    fun _ maintained set stepped => set.step maintained stepped).2
  exact ⟨kept, kept.counts_active⟩

section Sample

/-- The second of two signers is removed and added again between a signature and the
count. -/
theorem signer_set_kept_sample :
    ∃ initial trace storage, SignerSet initial ∧ Run Step initial trace storage ∧
      SignerSet storage ∧ countActiveSignatures storage 0 = .ok 1 ∧
        (activeSignatures storage 0).encard = 1 := by
  obtain ⟨initial, storage, started, followed, counted⟩ : ∃ initial storage,
      initializeMultisig (.signedByAll ⟨0⟩ 1) .deployed ⟨1⟩ [⟨2⟩, ⟨3⟩] 2 = .ok initial ∧
        replay next initial
            [ sampleLabel 2 (.submitProposal ⟨2⟩ sampleSubmission),
              sampleLabel 3 (.signProposal ⟨3⟩ 0),
              sampleLabel 4 (.removeSigner ⟨1⟩ ⟨3⟩),
              sampleLabel 5 (.addSigner ⟨1⟩ ⟨3⟩) ] = some storage ∧
          countActiveSignatures storage 0 = .ok 1 :=
    ⟨_, _, rfl, rfl, rfl⟩
  have agrees : SignerSet initial :=
    SignerSet.of_initialize (by decide) (by decide) (by simp [Storage.deployed]) started
  obtain ⟨trace, run, labelled⟩ := run_of_replay step_of_next followed
  have maintains : ∀ event ∈ trace, Maintains event := by
    intro event member admin signers threshold called
    have listed : event.label ∈ _ := labelled ▸ List.mem_map_of_mem member
    simp only [List.mem_cons, List.not_mem_nil, or_false] at listed
    rcases listed with same | same | same | same <;> simp [same, sampleLabel] at called
  obtain ⟨kept, counts⟩ := signer_set_kept agrees run maintains
  obtain ⟨count, again, number⟩ := counts 0
  obtain rfl : 1 = count := Except.ok.inj (counted.symm.trans again)
  exact ⟨initial, trace, storage, agrees, run, kept, counted, number⟩

end Sample

end Multisig
