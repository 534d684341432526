import CredenceContracts.Governance.Votes
import Mathlib.Tactic.Ring

/-!
# Is the quorum met?

The share of the governors that has to vote becomes a number of governors by a division
that drops the remainder.  A committee whose share is no whole number can so approve
with fewer votes than its share, unless the least number of governors makes up for it.
-/

namespace Governance

open Soroban MachineInt Transition

variable {storage : Storage} {proposalId : Nat} {governors : List Address}
variable {quorumBps minGovernors : Nat}

/-- The governors for whom a vote on the proposal is counted. -/
def voted (storage : Storage) (proposalId : Nat) : Nat :=
  (getGovernors storage).countP fun governor => (counted storage proposalId governor).isSome

/-- The governors for whom an approving vote is counted. -/
def approving (storage : Storage) (proposalId : Nat) : Nat :=
  (getGovernors storage).countP fun governor => counted storage proposalId governor = some true

/-- The configuration that is stored. -/
structure Committee (storage : Storage) (governors : List Address)
    (quorumBps minGovernors : Nat) : Prop where
  listed : storage.governanceGovernors = some governors
  quorum : storage.governanceQuorumBps = some quorumBps
  least : storage.governanceMinGovernors = some minGovernors

/-- The share of the governors has voted, and the least number of them, and more than
half of the votes approve. -/
structure QuorumMet (storage : Storage) (proposalId total quorumBps minGovernors : Nat) :
    Prop where
  share : total * quorumBps ≤ voted storage proposalId * 10000
  least : minGovernors ≤ voted storage proposalId
  majority : voted storage proposalId < 2 * approving storage proposalId

/-- The proposal is approved, or executed as approved, only with the quorum met. -/
def ApprovedByQuorum (storage : Storage) (proposalId total quorumBps minGovernors : Nat) :
    Prop :=
  (isApproved storage proposalId = .ok true →
      QuorumMet storage proposalId total quorumBps minGovernors) ∧
    ∀ after, executeSlashIfApproved storage proposalId = .ok (after, true) →
      QuorumMet storage proposalId total quorumBps minGovernors

/-- The share is a whole number of governors, or the least number covers it, or the
product leaves its word, where nothing is ever approved. -/
def ShareCovered (total quorumBps minGovernors : Nat) : Prop :=
  10000 ∣ total * quorumBps ∨ total * quorumBps ≤ 10000 * max 1 minGovernors ∨
    2 ^ 32 ≤ total * quorumBps

section Approval

theorem isApproved_eq_true (committee : Committee storage governors quorumBps minGovernors) :
    isApproved storage proposalId = .ok true ↔
      governors.length ≠ 0 ∧ governors.length * quorumBps < 2 ^ 32 ∧
        governors.length * quorumBps / 10000 ≤ voted storage proposalId ∧
          minGovernors ≤ voted storage proposalId ∧ 0 < voted storage proposalId ∧
            voted storage proposalId < 2 * approving storage proposalId := by
  have halves : ∀ approve total : Nat, total / 2 < approve ↔ total < 2 * approve := by omega
  have names : getGovernors storage = governors := by simp [getGovernors, committee.listed]
  by_cases nobody : governors.length = 0
  · simp [isApproved, names, nobody]
  · simp only [isApproved, countVotes_eq, names, if_neg nobody, committee.quorum,
      committee.least, Option.getD_some, bpsDenominator, Outcome.bind_eq_ok, checkedU32_eq_ok,
      Outcome.pure_eq_ok]
    simp only [voted, approving, names]
    grind

/-- Only what is approved is executed. -/
theorem approved_of_executed {after : Storage}
    (executed : executeSlashIfApproved storage proposalId = .ok (after, true)) :
    isApproved storage proposalId = .ok true := by
  simp only [executeSlashIfApproved, Outcome.bind_eq_ok, Outcome.pure_eq_ok,
    Prod.mk.injEq] at executed
  obtain ⟨-, -, -, -, approved, verdict, -, rfl⟩ := executed
  exact verdict

/-- A covered share is met by any number of votes that reaches the thresholds. -/
theorem share_met {total votes : Nat} (covered : ShareCovered total quorumBps minGovernors)
    (fits : total * quorumBps < 2 ^ 32) (reached : total * quorumBps / 10000 ≤ votes)
    (least : minGovernors ≤ votes) (some : 0 < votes) :
    total * quorumBps ≤ votes * 10000 := by
  rcases covered with divides | small | wide
  · obtain ⟨share, exact⟩ := divides
    omega
  · have votes_ge : max 1 minGovernors ≤ votes := max_le some least
    omega
  · omega

theorem approvedByQuorum_of_covered
    (committee : Committee storage governors quorumBps minGovernors)
    (covered : ShareCovered governors.length quorumBps minGovernors) :
    ApprovedByQuorum storage proposalId governors.length quorumBps minGovernors := by
  have met : isApproved storage proposalId = .ok true →
      QuorumMet storage proposalId governors.length quorumBps minGovernors := by
    intro approved
    obtain ⟨-, fits, reached, least, some, majority⟩ := (isApproved_eq_true committee).mp approved
    exact ⟨share_met covered fits reached least some, least, majority⟩
  exact ⟨met, fun after executed => met (approved_of_executed executed)⟩

end Approval

section Ballots

/-- The proposal that is voted on. -/
def tabled : SlashProposal where
  id := 0
  amount := 1
  proposedBy := ⟨0⟩
  proposedAt := 0
  status := .open

/-- A committee with one open proposal that some governors have approved. -/
def convened (governors : List Address) (quorumBps minGovernors : Nat)
    (voters : List Address) : Storage where
  governanceNextProposalId := 1
  governanceProposal := Function.update (fun _ => none) 0 (some tabled)
  governanceVote := Function.update (fun _ _ => none) 0 fun voter =>
    if voter ∈ voters then some true else none
  governanceDelegate := fun _ => none
  governanceGovernors := some governors
  governanceQuorumBps := some quorumBps
  governanceMinGovernors := some minGovernors

theorem convened_committee (voters : List Address) :
    Committee (convened governors quorumBps minGovernors voters) governors quorumBps
      minGovernors :=
  ⟨rfl, rfl, rfl⟩

theorem convened_opened (bounded : quorumBps ≤ 10000) :
    ∃ trace, Run Step .deployed trace (convened governors quorumBps minGovernors []) := by
  have initialized : Step .deployed
      ⟨.signedByAll ⟨0⟩ 0, .initializeGovernance governors quorumBps minGovernors⟩
      { Storage.deployed with
        governanceGovernors := some governors
        governanceQuorumBps := some quorumBps
        governanceMinGovernors := some minGovernors } := by
    simp [Step, invoke, initializeGovernance, bpsDenominator, bounded, Storage.deployed]
  have proposed : Step
      { Storage.deployed with
        governanceGovernors := some governors
        governanceQuorumBps := some quorumBps
        governanceMinGovernors := some minGovernors }
      ⟨.signedByAll ⟨0⟩ 0, .proposeSlash ⟨0⟩ 1⟩
      (convened governors quorumBps minGovernors []) := by
    simp [Step, invoke, proposeSlash, convened, tabled, Storage.deployed, Env.signedByAll]
  exact ⟨_, (Run.single initialized).snoc proposed⟩

theorem counted_convened {voters : List Address} (governor : Address) :
    counted (convened governors quorumBps minGovernors voters) 0 governor =
      if governor ∈ voters then some true else none := by
  simp [counted, effectiveVoter, convened]

/-- One more governor approves. -/
theorem convened_vote {voters : List Address} {voter : Address} (member : voter ∈ governors)
    (fresh : voter ∉ voters) :
    Step (convened governors quorumBps minGovernors voters)
      ⟨.signedByAll ⟨0⟩ 0, .vote voter 0 true⟩
      (convened governors quorumBps minGovernors (voters ++ [voter])) := by
  refine vote_eq_ok.mpr ⟨⟨tabled, ?_, rfl⟩, ⟨governors, rfl, ?_⟩, ?_, ?_⟩
  · simp [convened]
  · simp [member]
  · simp [convened, fresh]
  · simp only [convened, Function.update_self, Function.update_idem, Storage.mk.injEq,
      true_and, and_true]
    congr 1
    funext other
    by_cases same : other = voter <;> simp [same]

/-- The first governors of the list can approve one after the other. -/
theorem convened_reached (nodup : governors.Nodup) (bounded : quorumBps ≤ 10000) (number : Nat)
    (fits : number ≤ governors.length) :
    ∃ trace, Run Step .deployed trace
      (convened governors quorumBps minGovernors (governors.take number)) := by
  induction number with
  | zero => simpa using convened_opened bounded
  | succ number ih =>
      obtain ⟨trace, run⟩ := ih (Nat.le_of_succ_le fits)
      have fresh : governors[number] ∉ governors.take number := by
        rw [List.mem_take_iff_getElem]
        rintro ⟨earlier, inside, same⟩
        have position := (nodup.getElem_inj_iff).mp same
        omega
      rw [List.take_succ_eq_append_getElem fits]
      exact ⟨_, run.snoc (convened_vote (List.getElem_mem fits) fresh)⟩

theorem voted_convened (nodup : governors.Nodup) {number : Nat}
    (fits : number ≤ governors.length) :
    voted (convened governors quorumBps minGovernors (governors.take number)) 0 = number := by
  have votes : (fun governor => (counted (convened governors quorumBps minGovernors
      (governors.take number)) 0 governor).isSome) =
        fun governor => decide (governor ∈ governors.take number) := by
    funext governor
    rw [counted_convened]
    by_cases voter : governor ∈ governors.take number <;> simp [voter]
  rw [voted, votes]
  exact Roster.countP_mem_take nodup fits

theorem approving_convened (nodup : governors.Nodup) {number : Nat}
    (fits : number ≤ governors.length) :
    approving (convened governors quorumBps minGovernors (governors.take number)) 0 =
      number := by
  have votes : (fun governor => decide (counted (convened governors quorumBps minGovernors
      (governors.take number)) 0 governor = some true)) =
        fun governor => decide (governor ∈ governors.take number) := by
    funext governor
    simp [counted_convened]
  rw [approving, votes]
  exact Roster.countP_mem_take nodup fits

end Ballots

/-- Where the share is not covered, some reachable state approves below it. -/
theorem approved_below_share (nodup : governors.Nodup) (bounded : quorumBps ≤ 10000)
    (broken : ¬ShareCovered governors.length quorumBps minGovernors) :
    ∃ trace final, Run Step .deployed trace final ∧
      Committee final governors quorumBps minGovernors ∧ isApproved final 0 = .ok true ∧
        voted final 0 * 10000 < governors.length * quorumBps := by
  simp only [ShareCovered, not_or, not_le] at broken
  obtain ⟨rest, uncovered, fits⟩ := broken
  have product : governors.length * quorumBps ≤ governors.length * 10000 :=
    Nat.mul_le_mul_left _ bounded
  -- The least number of votes that reaches all three thresholds.
  let number := max (governors.length * quorumBps / 10000) (max 1 minGovernors)
  have short : number * 10000 < governors.length * quorumBps := by omega
  have present : number ≤ governors.length := by omega
  let final := convened governors quorumBps minGovernors (governors.take number)
  have committee : Committee final governors quorumBps minGovernors := convened_committee _
  have votes : voted final 0 = number := voted_convened nodup present
  have approvals : approving final 0 = number := approving_convened nodup present
  obtain ⟨trace, run⟩ := convened_reached nodup bounded number present
  refine ⟨trace, final, run, committee, (isApproved_eq_true committee).mpr ?_, ?_⟩
  · rw [votes, approvals]
    omega
  · rw [votes]
    exact short

/-- A committee of governors that are listed once approves only with its quorum met, in
all states that it reaches and on all proposals, exactly where its share is covered. -/
theorem quorum_met_iff (nodup : governors.Nodup) (bounded : quorumBps ≤ 10000) :
    (∀ trace final, Run Step .deployed trace final →
        Committee final governors quorumBps minGovernors → ∀ proposalId,
          ApprovedByQuorum final proposalId governors.length quorumBps minGovernors) ↔
      ShareCovered governors.length quorumBps minGovernors := by
  constructor
  · intro always
    by_contra broken
    obtain ⟨trace, final, run, committee, approved, short⟩ :=
      approved_below_share nodup bounded broken
    have met := (always trace final run committee 0).1 approved
    exact absurd met.share (not_le.mpr short)
  · intro covered trace final run committee proposalId
    exact approvedByQuorum_of_covered committee covered

section Sample

/-- Half of four governors is a whole number of them. -/
theorem quorum_met_sample :
    (∀ trace final, Run Step .deployed trace final →
        Committee final [⟨1⟩, ⟨2⟩, ⟨3⟩, ⟨4⟩] 5000 1 → ∀ proposalId,
          ApprovedByQuorum final proposalId 4 5000 1) ∧ ShareCovered 4 5000 1 := by
  have covered : ShareCovered 4 5000 1 := by
    unfold ShareCovered
    decide
  exact ⟨(quorum_met_iff (by decide) (by decide)).mpr covered, covered⟩

/-- One of three governors votes where more than half of them must. -/
def loneVote : List Label :=
  [ ⟨.signedByAll ⟨0⟩ 10, .initializeGovernance [⟨1⟩, ⟨2⟩, ⟨3⟩] 5001 1⟩,
    ⟨.signedByAll ⟨0⟩ 20, .proposeSlash ⟨1⟩ 50⟩,
    ⟨.signedByAll ⟨0⟩ 30, .vote ⟨1⟩ 0 true⟩ ]

theorem lone_vote_approves :
    ¬∀ governors quorumBps minGovernors, governors.Nodup → quorumBps ≤ 10000 →
      ∀ trace final, Run Step .deployed trace final →
        Committee final governors quorumBps minGovernors → ∀ proposalId,
          ApprovedByQuorum final proposalId governors.length quorumBps minGovernors := by
  intro always
  have run : Run Step .deployed (record next .deployed loneVote)
      (loneVote.foldl (advance next) .deployed) :=
    run_of_record step_of_next rfl
  have met := (always _ _ _ (by decide) (by decide) _ _ run ⟨rfl, rfl, rfl⟩ 0).1
    (by decide +kernel)
  exact absurd met.share (by decide +kernel)

end Sample

end Governance
