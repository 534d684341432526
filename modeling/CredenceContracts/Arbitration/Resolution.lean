import CredenceContracts.Arbitration.Winner

/-!
# Which disputes can be resolved

A vote is checked against the tally of its own outcome, while the quorum is checked
against the sum over all outcomes.  The accepted votes can therefore have a sum that is
no longer a 128-bit word, and while a quorum is configured a dispute with such votes
cannot be resolved: the call panics, and the dispute stays in its voting status.
-/

namespace Arbitration

open Soroban Transition

variable {storage : Storage} {trace : List (Event Storage Label)} {disputeId : Nat}
variable {dispute : Dispute} {cast : List Ballot} {env : Env}

section Endings

/-- A resolution ends the dispute where its quorum is met, and is refused where it is
not. -/
def Concludes (env : Env) (storage : Storage) (disputeId : Nat) (cast : List Ballot) : Prop :=
  QuorumMet storage disputeId cast ∧
      (∃ outcome after,
        (resolveDispute env disputeId).exec storage = .ok (.ok outcome, after)) ∨
    ¬QuorumMet storage disputeId cast ∧
      (resolveDispute env disputeId).exec storage = .ok (.error .quorumNotMet, storage)

theorem Concludes.ne_panic {panicked : Failure}
    (concludes : Concludes env storage disputeId cast) :
    (resolveDispute env disputeId).exec storage ≠ .error panicked := by
  rcases concludes with ⟨-, outcome, after, done⟩ | ⟨-, refused⟩
  · simp [done]
  · simp [refused]

theorem resolveDispute_paused (paused : storage.pause.paused = true) :
    (resolveDispute env disputeId).exec storage = .error (.contract .contractPaused) := by
  have stopped : (Body.orPanic (Pausable.requireNotPaused storage.pause) :
      Entry Unit).exec storage = .error (.contract .contractPaused) := by
    rw [Pausable.requireNotPaused, paused]
    rfl
  unfold resolveDispute
  rw [Body.exec_bind_of_ok Body.exec_get, Body.exec_bind_of_panic stopped]

theorem Finished.concludes (finished : Finished env storage disputeId dispute)
    (counted : Counted storage cast) (sound : Sound storage cast)
    (unpaused : storage.pause.paused = false) (summable : Summable storage disputeId cast) :
    Concludes env storage disputeId cast := by
  have checked : (requireQuorumIn Std.TreeMap.toList storage disputeId).exec storage =
      .ok (if QuorumMet storage disputeId cast then .ok () else .error .quorumNotMet,
        storage) :=
    exec_requireQuorumIn counted sound (.refl _) summable
  unfold Concludes
  rw [resolveDispute_eq_in, exec_resolveDisputeIn unpaused finished]
  by_cases met : QuorumMet storage disputeId cast
  · rw [if_pos met] at checked
    rw [Body.exec_bind_of_ok checked]
    exact .inl ⟨met, _, _, exec_conclude⟩
  · rw [if_neg met] at checked
    exact .inr ⟨met, Body.exec_bind_of_error checked⟩

theorem Finished.overflows (finished : Finished env storage disputeId dispute)
    (counted : Counted storage cast) (sound : Sound storage cast)
    (unpaused : storage.pause.paused = false) (beyond : ¬Summable storage disputeId cast) :
    (resolveDispute env disputeId).exec storage = .error (.contract .overflow) := by
  rw [resolveDispute_eq_in, exec_resolveDisputeIn unpaused finished]
  exact Body.exec_bind_of_panic (requireQuorumIn_overflow counted sound (.refl _) beyond)

/-- A finished dispute of a run is concluded exactly where the contract is not paused and
the ballots can be added up as far as a quorum asks for it; otherwise the sum
overflows. -/
theorem dispute_concludes_iff (run : Run Step .deployed trace storage)
    (finished : Finished env storage disputeId dispute) :
    (Concludes env storage disputeId (ballots trace) ↔
        storage.pause.paused = false ∧ Summable storage disputeId (ballots trace)) ∧
      ((resolveDispute env disputeId).exec storage = .error (.contract .overflow) ↔
        storage.pause.paused = false ∧ ¬Summable storage disputeId (ballots trace)) := by
  have counted := counted_of_run run
  have sound := sound_of_run run
  cases paused : storage.pause.paused with
  | true =>
      have stopped : (resolveDispute env disputeId).exec storage =
          .error (.contract .contractPaused) := resolveDispute_paused paused
      constructor
      · simpa using fun concludes => Concludes.ne_panic concludes stopped
      · simp [stopped]
  | false =>
      by_cases summable : Summable storage disputeId (ballots trace)
      · have concludes := finished.concludes counted sound paused summable
        simp [concludes, summable, concludes.ne_panic]
      · have panics := finished.overflows counted sound paused summable
        have unending : ¬Concludes env storage disputeId (ballots trace) :=
          fun concludes => concludes.ne_panic panics
        simp [panics, summable, unending]

end Endings

section Samples

/-- Two arbitrators with small weights miss the quorum of three voters, and the call says
so. -/
theorem dispute_concludes_sample :
    ∃ trace storage, Run Step .deployed trace storage ∧
      getQuorum storage = (10, 3) ∧ storage.voterCounter 0 = 2 ∧
        Concludes (.signedByAll ⟨0⟩ 104) storage 0 (ballots trace) := by
  obtain ⟨storage, dispute, followed, paused, found, voting, ended, quorum, total, counter⟩ :
      ∃ storage dispute,
        replay next .deployed
            [ votingLabel 1 (.initializeArbitration ⟨1⟩) .unit,
              votingLabel 1 (.setQuorum ⟨1⟩ 10 3) .unit,
              votingLabel 2 (.registerArbitrator ⟨2⟩ 5) .unit,
              votingLabel 2 (.registerArbitrator ⟨3⟩ 7) .unit,
              votingLabel 3 (.createDispute ⟨5⟩ [] 100) (.number 0),
              votingLabel 4 (.vote ⟨2⟩ 0 1) .unit,
              votingLabel 5 (.vote ⟨3⟩ 0 2) .unit ] = some storage ∧
          storage.pause.paused = false ∧ storage.dispute 0 = some dispute ∧
            dispute.status = .voting ∧ dispute.votingEnd < 104 ∧
              getQuorum storage = (10, 3) ∧ Tally.total (storage.disputeVotes 0) = 12 ∧
                storage.voterCounter 0 = 2 := by
    refine ⟨_, _, rfl, rfl, rfl, rfl, by decide, rfl, rfl, rfl⟩
  obtain ⟨trace, run, _⟩ := run_of_replay step_of_next followed
  have summable : Summable storage 0 (ballots trace) := by
    intro _
    rw [← (counted_of_run run).total, total]
    decide
  have finished : Finished (.signedByAll ⟨0⟩ 104) storage 0 dispute := ⟨found, voting, ended⟩
  exact ⟨trace, storage, run, quorum, counter,
    (dispute_concludes_iff run finished).1.mpr ⟨paused, summable⟩⟩

/-- Two arbitrators of the greatest weight vote for two outcomes.  Each vote is accepted
and the quorum is met, but the sum over the outcomes overflows. -/
theorem resolution_overflows :
    ∃ trace storage dispute, Run Step .deployed trace storage ∧
      storage.pause.paused = false ∧ Finished (.signedByAll ⟨0⟩ 104) storage 0 dispute ∧
        QuorumMet storage 0 (ballots trace) ∧
          (resolveDispute (.signedByAll ⟨0⟩ 104) 0).exec storage =
            .error (.contract .overflow) := by
  obtain ⟨storage, dispute, followed, paused, found, voting, ended, quorum, total, counter,
      panics⟩ : ∃ storage dispute,
      replay next .deployed
          [ votingLabel 1 (.initializeArbitration ⟨1⟩) .unit,
            votingLabel 1 (.setQuorum ⟨1⟩ 0 1) .unit,
            votingLabel 2 (.registerArbitrator ⟨2⟩ (2 ^ 127 - 1)) .unit,
            votingLabel 2 (.registerArbitrator ⟨3⟩ (2 ^ 127 - 1)) .unit,
            votingLabel 3 (.createDispute ⟨5⟩ [] 100) (.number 0),
            votingLabel 4 (.vote ⟨2⟩ 0 1) .unit,
            votingLabel 5 (.vote ⟨3⟩ 0 2) .unit ] = some storage ∧
        storage.pause.paused = false ∧ storage.dispute 0 = some dispute ∧
          dispute.status = .voting ∧ dispute.votingEnd < 104 ∧ getQuorum storage = (0, 1) ∧
            Tally.total (storage.disputeVotes 0) = 2 ^ 128 - 2 ∧
              storage.voterCounter 0 = 2 ∧
                (resolveDispute (.signedByAll ⟨0⟩ 104) 0).exec storage =
                  .error (.contract .overflow) := by
    refine ⟨_, _, rfl, rfl, rfl, rfl, by decide, rfl, rfl, rfl, rfl⟩
  obtain ⟨trace, run, _⟩ := run_of_replay step_of_next followed
  have counted := counted_of_run run
  have met : QuorumMet storage 0 (ballots trace) := by
    rw [QuorumMet, ← counted.total, ← counted.counter, quorum, total, counter]
    decide
  exact ⟨trace, storage, dispute, run, paused, ⟨found, voting, ended⟩, met, panics⟩

end Samples

end Arbitration
