import CredenceContracts.Governance.Contract
import CredenceContracts.Library.Roster

/-!
# What becomes of a vote

A vote stays stored for whoever cast it, but it counts for a governor only while the
governor's delegation leads to it.  A governor that delegates again takes its vote away
unless the new delegate has voted too, and turns it unless the delegate voted alike.
-/

namespace Governance

open Soroban MachineInt Transition

variable {env : Env} {storage before after : Storage} {proposalId : Nat} {governor : Address}
variable {governors : List Address}

/-- The vote that counts for a governor. -/
def counted (storage : Storage) (proposalId : Nat) (governor : Address) : Option Bool :=
  storage.governanceVote proposalId (effectiveVoter storage governor)

/-- The number of votes on a proposal that are counted. -/
def totalVotes (storage : Storage) (proposalId : Nat) : Nat :=
  (countVotes storage proposalId).2.2

/-- Some call of the history cast a vote that counted for the governor then. -/
def Credited (proposalId : Nat) (governor : Address) (approve : Bool)
    (trace : List (Event Storage Label)) : Prop :=
  ∃ event ∈ trace,
    event.label.call = .vote (effectiveVoter event.before governor) proposalId approve

/-- The call neither sets the governors nor closes the proposal. -/
def Deliberates (proposalId : Nat) (event : Event Storage Label) : Prop :=
  match event.label.call with
  | .initializeGovernance _ _ _ => False
  | .executeSlashIfApproved closed => closed ≠ proposalId
  | _ => True

/-- A governor for whom a vote is counted delegates only to a voter on the proposal, who
voted alike where a vote was cast for the governor before. -/
def KeepsVotes (proposalId : Nat) (earlier : List (Event Storage Label))
    (event : Event Storage Label) : Prop :=
  match event.label.call with
  | .delegate governor delegatee =>
      ((counted event.before proposalId governor).isSome →
        (event.before.governanceVote proposalId delegatee).isSome) ∧
      ∀ approve, Credited proposalId governor approve earlier →
        event.before.governanceVote proposalId delegatee = some approve
  | _ => True

section Operations

theorem vote_eq_ok {voter : Address} {approve : Bool} :
    vote storage voter proposalId approve = .ok after ↔
      (∃ proposal, storage.governanceProposal proposalId = some proposal ∧
        proposal.status = .open) ∧
        (∃ governors, storage.governanceGovernors = some governors ∧
          (governors.contains voter || isDelegateOfSome storage governors voter) = true) ∧
          storage.governanceVote proposalId voter = none ∧
            after = { storage with
              governanceVote := Function.update storage.governanceVote proposalId
                (Function.update (storage.governanceVote proposalId) voter (some approve)) } := by
  simp only [vote, Outcome.bind_eq_ok, Outcome.unwrapOr_eq_ok, Outcome.rejectIf_eq_ok,
    Outcome.pure_eq_ok, ne_eq, Decidable.not_not, Bool.not_eq_false, Bool.not_eq_true,
    Option.isSome_eq_false_iff, Option.isNone_iff_eq_none]
  grind

theorem delegate_eq_ok {delegatee : Address} :
    delegate storage env governor delegatee = .ok after ↔
      env.authorized governor = true ∧
        (∃ governors, storage.governanceGovernors = some governors ∧ governor ∈ governors) ∧
          after = { storage with
            governanceDelegate :=
              Function.update storage.governanceDelegate governor (some delegatee) } := by
  simp only [delegate, Outcome.bind_eq_ok, requireAuth_eq_ok, Outcome.unwrapOr_eq_ok,
    Outcome.rejectIf_eq_ok, Outcome.pure_eq_ok, Decidable.not_not]
  grind

/-- A tally that looks at one verdict for each entry counts the verdicts. -/
theorem foldl_tally {tally : Nat × Nat × Nat → Address → Nat × Nat × Nat}
    (verdict : Address → Option Bool)
    (step : ∀ governor approve reject voted, tally (approve, reject, voted) governor =
      (approve + (decide (verdict governor = some true)).toNat,
        reject + (decide (verdict governor = some false)).toNat,
        voted + (verdict governor).isSome.toNat))
    (governors : List Address) (approve reject voted : Nat) :
    governors.foldl tally (approve, reject, voted) =
      (approve + governors.countP fun governor => verdict governor = some true,
        reject + governors.countP fun governor => verdict governor = some false,
        voted + governors.countP fun governor => (verdict governor).isSome) := by
  induction governors generalizing approve reject voted with
  | nil => simp
  | cons governor rest ih =>
      rw [List.foldl_cons, step, ih]
      cases found : verdict governor with
      | none => simp [found]
      | some approving => cases approving <;> simp [found] <;> omega

/-- The count goes through the governors and looks at the vote counted for each. -/
theorem countVotes_eq (storage : Storage) (proposalId : Nat) :
    countVotes storage proposalId =
      ((getGovernors storage).countP fun governor =>
          counted storage proposalId governor = some true,
        (getGovernors storage).countP fun governor =>
          counted storage proposalId governor = some false,
        (getGovernors storage).countP fun governor =>
          (counted storage proposalId governor).isSome) := by
  unfold countVotes
  refine (foldl_tally (counted storage proposalId) ?_ (getGovernors storage) 0 0 0).trans ?_
  · intro governor approve reject voted
    cases verdict : storage.governanceVote proposalId (effectiveVoter storage governor) with
    | none => simp [counted, verdict]
    | some approving => cases approving <;> simp [counted, verdict]
  · simp only [Nat.zero_add]

theorem totalVotes_eq (listed : storage.governanceGovernors = some governors) :
    totalVotes storage proposalId =
      governors.countP fun governor => (counted storage proposalId governor).isSome := by
  simp [totalVotes, countVotes_eq, getGovernors, listed]

end Operations

section Steps

variable {event : Event Storage Label} {earlier : List (Event Storage Label)}

/-- Every vote that counted for a governor when it was cast counts alike. -/
def Kept (governors : List Address) (proposalId : Nat) (trace : List (Event Storage Label))
    (storage : Storage) : Prop :=
  ∀ governor ∈ governors, ∀ approve, Credited proposalId governor approve trace →
    counted storage proposalId governor = some approve

/-- The ways a deliberating step changes what is counted. -/
inductive VotesChange (proposalId : Nat) (before after : Storage) : Call → Prop where
  | voted {voter : Address} {approve : Bool}
      (fresh : before.governanceVote proposalId voter = none)
      (counts : ∀ governor, counted after proposalId governor =
        if effectiveVoter before governor = voter then some approve
        else counted before proposalId governor) :
      VotesChange proposalId before after (.vote voter proposalId approve)
  | delegated {governor delegatee : Address} {governors : List Address}
      (listed : before.governanceGovernors = some governors) (member : governor ∈ governors)
      (counts : counted after proposalId =
        Function.update (counted before proposalId) governor
          (before.governanceVote proposalId delegatee)) :
      VotesChange proposalId before after (.delegate governor delegatee)
  | untouched {call : Call} (elsewhere : ∀ voter approve, call ≠ .vote voter proposalId approve)
      (standing : ∀ governor delegatee, call ≠ .delegate governor delegatee)
      (counts : counted after proposalId = counted before proposalId) :
      VotesChange proposalId before after call

theorem counted_congr (votes : after.governanceVote = before.governanceVote)
    (delegates : after.governanceDelegate = before.governanceDelegate) :
    counted after proposalId = counted before proposalId := by
  funext governor
  simp [counted, effectiveVoter, votes, delegates]

theorem votes_change {label : Label} (deliberating : Deliberates proposalId ⟨before, label, after⟩)
    (stepped : Step before label after) :
    after.governanceGovernors = before.governanceGovernors ∧
      VotesChange proposalId before after label.call := by
  obtain ⟨env, call⟩ := label
  cases call with
  | initializeGovernance governors quorumBps minGovernors => exact absurd deliberating id
  | proposeSlash proposer amount =>
      obtain ⟨rest, proposed, rfl⟩ := Outcome.map_eq_ok.mp stepped
      simp only [proposeSlash, Outcome.bind_eq_ok, Outcome.pure_eq_ok] at proposed
      obtain ⟨-, -, nextId, -, rfl⟩ := proposed
      exact ⟨rfl, .untouched (by simp) (by simp) (counted_congr rfl rfl)⟩
  | vote voter target approve =>
      obtain ⟨-, -, fresh, rfl⟩ := vote_eq_ok.mp stepped
      refine ⟨rfl, ?_⟩
      by_cases same : target = proposalId
      · subst same
        refine .voted fresh fun governor => ?_
        simp only [counted, effectiveVoter, Function.update_self, Function.update_apply]
        exact if_congr Iff.rfl rfl rfl
      · refine .untouched ?_ (by simp) ?_
        · rintro _ _ ⟨⟩
          exact same rfl
        · funext governor
          simp [counted, effectiveVoter, Function.update_of_ne (Ne.symm same)]
  | delegate governor delegatee =>
      obtain ⟨-, ⟨governors, listed, member⟩, rfl⟩ := delegate_eq_ok.mp stepped
      refine ⟨rfl, .delegated listed member ?_⟩
      funext other
      by_cases same : other = governor
      · simp [counted, effectiveVoter, same]
      · simp [counted, effectiveVoter, Function.update_of_ne same]
  | executeSlashIfApproved closed =>
      obtain ⟨rest, executed, rfl⟩ := Outcome.map_eq_ok.mp stepped
      simp only [executeSlashIfApproved, Outcome.bind_eq_ok, Outcome.pure_eq_ok] at executed
      obtain ⟨proposal, -, -, -, approved, -, rfl⟩ := executed
      exact ⟨rfl, .untouched (by simp) (by simp) (counted_congr rfl rfl)⟩

theorem credited_snoc {approve : Bool} :
    Credited proposalId governor approve (earlier ++ [event]) ↔
      Credited proposalId governor approve earlier ∨
        event.label.call = .vote (effectiveVoter event.before governor) proposalId approve := by
  simp [Credited, or_and_right, exists_or]

/-- The part of the condition that keeps the total. -/
def KeepsTotal (proposalId : Nat) (event : Event Storage Label) : Prop :=
  match event.label.call with
  | .delegate governor delegatee =>
      (counted event.before proposalId governor).isSome →
        (event.before.governanceVote proposalId delegatee).isSome
  | _ => True

/-- The part of the condition that keeps the votes of a governor. -/
def KeepsVerdict (proposalId : Nat) (earlier : List (Event Storage Label))
    (event : Event Storage Label) : Prop :=
  match event.label.call with
  | .delegate governor delegatee =>
      ∀ approve, Credited proposalId governor approve earlier →
        event.before.governanceVote proposalId delegatee = some approve
  | _ => True

theorem keepsVotes_iff :
    KeepsVotes proposalId earlier event ↔
      KeepsTotal proposalId event ∧ KeepsVerdict proposalId earlier event := by
  unfold KeepsVotes KeepsTotal KeepsVerdict
  split <;> simp

theorem totalVotes_le_iff (listed : event.before.governanceGovernors = some governors)
    (nodup : governors.Nodup) (deliberating : Deliberates proposalId event)
    (stepped : Step event.before event.label event.after) :
    totalVotes event.before proposalId ≤ totalVotes event.after proposalId ↔
      KeepsTotal proposalId event := by
  obtain ⟨before, ⟨env, call⟩, after⟩ := event
  obtain ⟨same, change⟩ := votes_change deliberating stepped
  simp only [KeepsTotal] at listed same change ⊢
  rw [totalVotes_eq listed, totalVotes_eq (same.trans listed)]
  cases change with
  | voted fresh counts =>
      refine iff_of_true (List.countP_mono_left fun governor _ voted => ?_) trivial
      rw [counts governor]
      split
      · rfl
      · exact voted
  | @delegated governor delegatee others found member counts =>
      obtain rfl : others = governors := Option.some.inj (found.symm.trans listed)
      simp only [counts]
      rw [Roster.countP_le_countP_iff nodup member]
      · simp
      · intro other different
        rw [Function.update_of_ne different]
  | untouched elsewhere standing counts =>
      rw [counts]
      refine iff_of_true le_rfl ?_
      split
      · exact absurd rfl (standing _ _)
      · trivial

theorem kept_snoc_iff (listed : event.before.governanceGovernors = some governors)
    (kept : Kept governors proposalId earlier event.before)
    (deliberating : Deliberates proposalId event)
    (stepped : Step event.before event.label event.after) :
    Kept governors proposalId (earlier ++ [event]) event.after ↔
      KeepsVerdict proposalId earlier event := by
  obtain ⟨before, ⟨env, call⟩, after⟩ := event
  obtain ⟨-, change⟩ := votes_change deliberating stepped
  simp only [KeepsVerdict, Kept, credited_snoc] at listed kept change ⊢
  cases change with
  | @voted voter approve fresh counts =>
      refine iff_of_true ?_ trivial
      rintro governor member verdict (credited | cast)
      · have before := kept governor member verdict credited
        rw [counts governor, if_neg, before]
        rintro rfl
        exact absurd (before.symm.trans fresh) (by simp)
      · injection cast with same _ agrees
        rw [counts governor, if_pos same.symm, agrees]
  | @delegated governor delegatee others found member counts =>
      obtain rfl : others = governors := Option.some.inj (found.symm.trans listed)
      simp only [counts, reduceCtorEq, or_false]
      constructor
      · intro keeps approve credited
        simpa using keeps governor member approve credited
      · intro keeps other listed approve credited
        by_cases same : other = governor
        · subst same
          simpa using keeps approve credited
        · rw [Function.update_of_ne same]
          exact kept other listed approve credited
  | untouched elsewhere standing counts =>
      simp only [counts, elsewhere, or_false]
      exact iff_of_true kept trivial

end Steps

/-- On an open proposal the votes of governors that are listed once are neither lost nor
moved in any call of a run if and only if every governor for whom a vote is counted
delegates to voters only, who voted alike where the vote was cast for it. -/
theorem votes_kept_iff {trace : List (Event Storage Label)} {start final : Storage}
    (run : Run Step start trace final) (listed : start.governanceGovernors = some governors)
    (nodup : governors.Nodup) (deliberating : ∀ event ∈ trace, Deliberates proposalId event) :
    (∀ event ∈ trace,
        totalVotes event.before proposalId ≤ totalVotes event.after proposalId) ∧
      (∀ earlier event later, trace = earlier ++ event :: later →
        Kept governors proposalId (earlier ++ [event]) event.after) ↔
      ∀ earlier event later, trace = earlier ++ event :: later →
        KeepsVotes proposalId earlier event := by
  obtain ⟨narrowed, -⟩ := run.restrict (Deliberates proposalId)
    (fun storage => storage.governanceGovernors = some governors) deliberating listed
    fun event allowed fixed stepped => (votes_change allowed stepped).1.trans fixed
  have totals : (∀ event ∈ trace,
      totalVotes event.before proposalId ≤ totalVotes event.after proposalId) ↔
        ∀ event ∈ trace, KeepsTotal proposalId event := by
    refine forall₂_congr fun event member => ?_
    obtain ⟨stepped, allowed, fixed⟩ := narrowed.stepped_of_mem member
    exact totalVotes_le_iff fixed nodup allowed stepped
  have verdicts := narrowed.forall_history_iff_at (Kept governors proposalId)
    (fun _ _ => True) (KeepsVerdict proposalId) (by simp [Kept, Credited]) trivial
    (fun _ _ _ _ _ => trivial)
    fun earlier event _ kept ⟨stepped, allowed, fixed⟩ =>
      kept_snoc_iff fixed kept allowed stepped
  rw [totals, forall_mem_iff_at, verdicts]
  simp only [keepsVotes_iff, forall_and]

section Sample

/-- Two governors and an open proposal. -/
def sampleOpen : Storage :=
  [ (⟨.signedByAll ⟨0⟩ 10, .initializeGovernance [⟨1⟩, ⟨2⟩] 5100 1⟩ : Label),
    ⟨.signedByAll ⟨0⟩ 20, .proposeSlash ⟨1⟩ 500⟩ ].foldl (advance next) .deployed

/-- The first governor votes and delegates to the second, who has not voted. -/
def voteThenDelegate : List Label :=
  [ ⟨.signedByAll ⟨0⟩ 30, .vote ⟨1⟩ 0 true⟩,
    ⟨.signedByAll ⟨0⟩ 40, .delegate ⟨1⟩ ⟨2⟩⟩ ]

def lostVoteTrace : List (Event Storage Label) :=
  record next sampleOpen voteThenDelegate

theorem delegated_vote_lost :
    ∃ trace final, Run Step sampleOpen trace final ∧
      (∀ event ∈ trace, Deliberates 0 event) ∧ Credited 0 ⟨1⟩ true trace ∧
        counted final 0 ⟨1⟩ = none ∧
          ¬((∀ event ∈ trace, totalVotes event.before 0 ≤ totalVotes event.after 0) ∧
            ∀ earlier event later, trace = earlier ++ event :: later →
              Kept [⟨1⟩, ⟨2⟩] 0 (earlier ++ [event]) event.after) := by
  have run : Run Step sampleOpen lostVoteTrace
      (voteThenDelegate.foldl (advance next) sampleOpen) :=
    run_of_record step_of_next rfl
  refine ⟨_, _, run, ?_, ?_, by decide +kernel, ?_⟩
  · simp [lostVoteTrace, record, voteThenDelegate, Deliberates]
  · exact ⟨lostVoteTrace.get ⟨0, by decide⟩, List.get_mem _ _, rfl⟩
  · rintro ⟨grows, -⟩
    have last := grows (lostVoteTrace.get ⟨1, by decide⟩) (List.get_mem _ _)
    exact absurd last (by decide +kernel)

/-- The second governor delegates to the first, who has voted. -/
def delegateToVoter : List Label :=
  [ ⟨.signedByAll ⟨0⟩ 30, .vote ⟨1⟩ 0 true⟩,
    ⟨.signedByAll ⟨0⟩ 40, .delegate ⟨2⟩ ⟨1⟩⟩ ]

/-- A run that counts one vote for both governors keeps the votes. -/
theorem votes_kept_sample :
    ∃ trace final, Run Step sampleOpen trace final ∧ totalVotes final 0 = 2 ∧
      ∀ event ∈ trace, totalVotes event.before 0 ≤ totalVotes event.after 0 := by
  have run : Run Step sampleOpen (record next sampleOpen delegateToVoter)
      (delegateToVoter.foldl (advance next) sampleOpen) :=
    run_of_record step_of_next rfl
  have listed : sampleOpen.governanceGovernors = some [⟨1⟩, ⟨2⟩] := rfl
  have deliberating : ∀ event ∈ record next sampleOpen delegateToVoter, Deliberates 0 event := by
    simp [record, delegateToVoter, Deliberates]
  refine ⟨_, _, run, by decide +kernel,
    ((votes_kept_iff run listed (by decide) deliberating).mpr ?_).1⟩
  intro earlier event later position
  change ([] ++ [_]) ++ [_] = _ at position
  revert earlier event later
  rw [forall_position_snoc, forall_position_snoc]
  refine ⟨⟨by simp, trivial⟩, ?_, ?_⟩
  · intro _
    decide +kernel
  · rintro approve ⟨event, member, cast⟩
    obtain rfl := List.mem_singleton.mp member
    injection cast with caster
    exact absurd caster (by decide +kernel)

end Sample

end Governance
