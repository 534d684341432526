import CredenceContracts.Governance.Votes
import CredenceContracts.Library.Docket
import CredenceContracts.Library.Journal

/-!
# The slash proposals as a docket

Proposals are the matters of a docket: filed in order, voted on while open, and closed once
by what the count says at that moment.  This holds as long as governance is not initialised
again after a proposal, which would number the next proposals from zero once more.
-/

namespace Governance

open Soroban Transition

section Abstract

/-- What a proposal is about. -/
structure Filing where
  amount : Int
  proposedBy : Address
  proposedAt : Nat

abbrev SlashMatter :=
  Docket.Matter Filing Address

def statusOf : Option Bool → ProposalStatus
  | none => .open
  | some true => .executed
  | some false => .rejected

/-- A matter as the proposal stored for it. -/
def proposalOf (id : Nat) (matter : SlashMatter) : SlashProposal where
  id
  amount := matter.content.amount
  proposedBy := matter.content.proposedBy
  proposedAt := matter.content.proposedAt
  status := statusOf matter.verdict

/-- The stored entries hold this docket. -/
structure Storage.Holds (storage : Storage) (docket : List SlashMatter) : Prop where
  counter : storage.governanceNextProposalId = docket.length
  proposal : ∀ id, storage.governanceProposal id = docket[id]?.map (proposalOf id)
  vote : ∀ id voter choice, storage.governanceVote id voter = some choice ↔
    ∃ matter, docket[id]? = some matter ∧ (voter, choice) ∈ matter.ballots

/-- What an event enters in the docket; a proposal is closed by what the count says. -/
def entered (event : Event Storage Label) : Docket.Entry Filing Address :=
  match event.label.call with
  | .proposeSlash proposer amount => .filed ⟨amount, proposer, event.label.env.timestamp⟩
  | .vote voter proposalId approve => .cast proposalId voter approve
  | .executeSlashIfApproved proposalId =>
      .closed proposalId ((isApproved event.before proposalId).toOption.getD false)
  | _ => .other

/-- Governance is initialised only while there is no proposal. -/
def Founding (event : Event Storage Label) : Prop :=
  ∀ governors quorumBps minGovernors,
    event.label.call = .initializeGovernance governors quorumBps minGovernors →
      event.before.governanceNextProposalId = 0

end Abstract

section Refinement

variable {env : Env} {storage before after : Storage} {label : Label}
variable {docket : List SlashMatter} {proposalId : Nat}

theorem statusOf_eq_open {verdict : Option Bool} : statusOf verdict = .open ↔ verdict = none := by
  rcases verdict with _ | verdict
  · simp [statusOf]
  · cases verdict <;> simp [statusOf]

theorem proposeSlash_eq_ok {proposer : Address} {amount : Int} {id : Nat} :
    proposeSlash env storage proposer amount = .ok (after, id) ↔
      0 < amount ∧ storage.governanceNextProposalId + 1 < 2 ^ 64 ∧
        id = storage.governanceNextProposalId ∧ after = { storage with
          governanceNextProposalId := storage.governanceNextProposalId + 1
          governanceProposal := Function.update storage.governanceProposal
            storage.governanceNextProposalId (some {
              id := storage.governanceNextProposalId
              amount
              proposedBy := proposer
              proposedAt := env.timestamp
              status := .open }) } := by
  simp [proposeSlash]
  grind

theorem executeSlashIfApproved_eq_ok {approved : Bool} :
    executeSlashIfApproved storage proposalId = .ok (after, approved) ↔
      ∃ proposal, storage.governanceProposal proposalId = some proposal ∧
        proposal.status = .open ∧ isApproved storage proposalId = .ok approved ∧
          after = { storage with
            governanceProposal := Function.update storage.governanceProposal proposalId
              (some { proposal with status := statusOf (some approved) }) } := by
  have status : (if approved then ProposalStatus.executed else .rejected) =
      statusOf (some approved) := by cases approved <;> rfl
  simp only [executeSlashIfApproved, Outcome.bind_eq_ok, Outcome.unwrapOr_eq_ok,
    Outcome.rejectIf_eq_ok, Outcome.pure_eq_ok, Prod.mk.injEq, ne_eq, Decidable.not_not]
  constructor
  · rintro ⟨proposal, found, -, undecided, _, counted, rfl, rfl⟩
    exact ⟨proposal, found, undecided, counted, by rw [status]⟩
  · rintro ⟨proposal, found, undecided, counted, rfl⟩
    exact ⟨proposal, found, (), undecided, approved, counted, by rw [status], rfl⟩

/-- A stored proposal is a matter of the docket. -/
theorem Storage.Holds.matter (holds : storage.Holds docket) {proposal : SlashProposal}
    (found : storage.governanceProposal proposalId = some proposal) :
    ∃ matter, docket[proposalId]? = some matter ∧ proposal = proposalOf proposalId matter := by
  rw [holds.proposal] at found
  obtain ⟨matter, stands, rfl⟩ := Option.map_eq_some_iff.mp found
  exact ⟨matter, stands, rfl⟩

theorem Storage.Holds.file (holds : before.Holds docket) {filing : Filing}
    (counter : after.governanceNextProposalId = before.governanceNextProposalId + 1)
    (proposals : after.governanceProposal = Function.update before.governanceProposal
      before.governanceNextProposalId
      (some (proposalOf before.governanceNextProposalId ⟨filing, [], none⟩)))
    (votes : after.governanceVote = before.governanceVote) :
    after.Holds (docket ++ [⟨filing, [], none⟩]) where
  counter := by simp [counter, holds.counter]
  proposal := by
    intro id
    rw [proposals, holds.counter]
    by_cases last : id = docket.length
    · simp [last]
    · rw [Function.update_of_ne last, holds.proposal, Journal.getElem?_append_of_ne last]
  vote := by
    intro id voter choice
    rw [votes, holds.vote]
    constructor
    · rintro ⟨matter, found, cast⟩
      have inside : id < docket.length := (List.getElem?_eq_some_iff.mp found).1
      exact ⟨matter, by rw [List.getElem?_append_left inside, found], cast⟩
    · rintro ⟨matter, found, cast⟩
      rcases Nat.lt_or_ge id docket.length with inside | past
      · exact ⟨matter, by rw [← found, List.getElem?_append_left inside], cast⟩
      · rw [List.getElem?_append_right past, List.getElem?_singleton] at found
        split at found
        · obtain rfl := Option.some.inj found
          simp at cast
        · cases found

/-- The matter under a number changes, with its proposal and its votes. -/
theorem Storage.Holds.set (holds : before.Holds docket) {matter changed : SlashMatter}
    (found : docket[proposalId]? = some matter)
    (counter : after.governanceNextProposalId = before.governanceNextProposalId)
    (proposals : after.governanceProposal = Function.update before.governanceProposal proposalId
      (some (proposalOf proposalId changed)))
    (others : ∀ id ≠ proposalId, after.governanceVote id = before.governanceVote id)
    (votes : ∀ voter choice, after.governanceVote proposalId voter = some choice ↔
      (voter, choice) ∈ changed.ballots) :
    after.Holds (docket.set proposalId changed) where
  counter := by rw [counter, holds.counter, List.length_set]
  proposal := by
    intro id
    have inside : proposalId < docket.length := (List.getElem?_eq_some_iff.mp found).1
    rw [proposals]
    by_cases same : id = proposalId
    · subst same
      rw [Function.update_self, List.getElem?_set_self inside]
      rfl
    · rw [Function.update_of_ne same, holds.proposal, List.getElem?_set_ne (Ne.symm same)]
  vote := by
    intro id voter choice
    have inside : proposalId < docket.length := (List.getElem?_eq_some_iff.mp found).1
    by_cases same : id = proposalId
    · subst same
      rw [votes, List.getElem?_set_self inside]
      simp
    · rw [others id same, holds.vote, List.getElem?_set_ne (Ne.symm same)]

/-- A successful call enters what it stands for in the docket. -/
theorem docket_of_step (holds : before.Holds docket) (founding : Founding ⟨before, label, after⟩)
    (stepped : Step before label after) :
    ∃ later, Docket.Step docket (entered ⟨before, label, after⟩) later ∧ after.Holds later := by
  obtain ⟨env, call⟩ := label
  cases call with
  | initializeGovernance governors quorumBps minGovernors =>
      simp only [Step, invoke, initializeGovernance, Outcome.bind_eq_ok, Outcome.pure_eq_ok]
        at stepped
      obtain ⟨-, -, rfl⟩ := stepped
      have fresh := founding governors quorumBps minGovernors rfl
      exact ⟨docket, .other, ⟨fresh ▸ holds.counter, holds.proposal, holds.vote⟩⟩
  | proposeSlash proposer amount =>
      obtain ⟨⟨_, id⟩, proposed, rfl⟩ := Outcome.map_eq_ok.mp stepped
      obtain ⟨-, -, -, rfl⟩ := proposeSlash_eq_ok.mp proposed
      exact ⟨_, .filed, holds.file rfl rfl rfl⟩
  | vote voter proposalId approve =>
      obtain ⟨⟨proposal, found, undecided⟩, -, absent, rfl⟩ := vote_eq_ok.mp stepped
      obtain ⟨matter, stands, rfl⟩ := holds.matter found
      have open_ : matter.verdict = none := statusOf_eq_open.mp undecided
      have silent : voter ∉ matter.ballots.map Prod.fst := by
        intro member
        obtain ⟨⟨_, choice⟩, cast, rfl⟩ := List.mem_map.mp member
        rw [(holds.vote proposalId _ choice).mpr ⟨matter, stands, cast⟩] at absent
        cases absent
      refine ⟨_, .cast stands open_ silent, holds.set stands rfl ?_ ?_ ?_⟩
      · rw [eq_comm, Function.update_eq_self_iff, found]
        rfl
      · intro id other
        exact Function.update_of_ne other _ _
      · intro other choice
        simp only [Function.update_self, List.mem_append, List.mem_singleton, Prod.mk.injEq]
        by_cases same : other = voter
        · subst same
          have never : (other, choice) ∉ matter.ballots := fun cast =>
            silent (List.mem_map_of_mem cast)
          simp [never, eq_comm]
        · rw [Function.update_of_ne same, holds.vote]
          simp [stands, same]
  | delegate governor delegatee =>
      obtain ⟨-, -, rfl⟩ := delegate_eq_ok.mp stepped
      exact ⟨docket, .other, ⟨holds.counter, holds.proposal, holds.vote⟩⟩
  | executeSlashIfApproved proposalId =>
      obtain ⟨⟨_, approved⟩, executed, rfl⟩ := Outcome.map_eq_ok.mp stepped
      obtain ⟨proposal, found, undecided, counted, rfl⟩ :=
        executeSlashIfApproved_eq_ok.mp executed
      obtain ⟨matter, stands, rfl⟩ := holds.matter found
      have open_ : matter.verdict = none := statusOf_eq_open.mp undecided
      have verdict : (isApproved before proposalId).toOption.getD false = approved := by
        rw [counted]
        rfl
      refine ⟨docket.set proposalId { matter with verdict := some approved }, ?_,
        holds.set stands rfl rfl (fun _ _ => rfl) ?_⟩
      · simp only [entered, verdict]
        exact .closed stands open_
      · intro voter choice
        rw [holds.vote]
        simp [stands]

theorem holds_deployed : Storage.deployed.Holds [] where
  counter := rfl
  proposal _ := rfl
  vote := by simp [Storage.deployed]

variable {start final : Storage} {past trace : List (Event Storage Label)}

/-- A run that does not found governance again is a run of the docket. -/
theorem docket_of_run (holds : start.Holds docket) (founding : ∀ event ∈ trace, Founding event)
    (run : Run Step start trace final) :
    ∃ later history, Run Docket.Step docket history later ∧
      history.map Event.label = trace.map entered ∧ final.Holds later := by
  induction run with
  | nil => exact ⟨docket, [], .nil, rfl, holds⟩
  | @snoc trace before after label _ stepped ih =>
      obtain ⟨middle, history, reached, labels, held⟩ :=
        ih fun event member => founding event (List.mem_append_left _ member)
      obtain ⟨later, entered, kept⟩ :=
        docket_of_step held (founding ⟨before, label, after⟩ (by simp)) stepped
      exact ⟨later, _, reached.snoc entered, by simp [labels], kept⟩

/-- What stays of a proposal: its contents and the votes cast on it, and once it is closed
its status and all of its votes. -/
structure Lasts (start final : Storage) (id : Nat) (proposal later : SlashProposal) : Prop where
  amount : later.amount = proposal.amount
  proposedBy : later.proposedBy = proposal.proposedBy
  proposedAt : later.proposedAt = proposal.proposedAt
  votes : ∀ voter choice, start.governanceVote id voter = some choice →
    final.governanceVote id voter = some choice
  closed : proposal.status ≠ .open →
    later = proposal ∧ final.governanceVote id = start.governanceVote id

theorem lasts_of_onward {earlier later : List SlashMatter} (before : start.Holds earlier)
    (after : final.Holds later) (onward : Docket.Onward earlier later)
    {proposal : SlashProposal} (found : start.governanceProposal proposalId = some proposal) :
    ∃ kept, final.governanceProposal proposalId = some kept ∧
      Lasts start final proposalId proposal kept := by
  obtain ⟨matter, stands, rfl⟩ := before.matter found
  obtain ⟨onto, lasting, continues⟩ := onward proposalId matter stands
  have cast {storage : Storage} {docket : List SlashMatter} {standing : SlashMatter}
      (holds : storage.Holds docket) (present : docket[proposalId]? = some standing)
      (voter : Address) (choice : Bool) :
      storage.governanceVote proposalId voter = some choice ↔
        (voter, choice) ∈ standing.ballots := by
    rw [holds.vote]
    simp [present]
  refine ⟨proposalOf proposalId onto, by rw [after.proposal, lasting]; rfl, ?_⟩
  have content := continues.content
  constructor
  · exact congrArg Filing.amount content
  · exact congrArg Filing.proposedBy content
  · exact congrArg Filing.proposedAt content
  · intro voter choice voted
    rw [cast before stands] at voted
    exact (cast after lasting voter choice).mpr (continues.ballots.subset voted)
  · intro settled
    have decided : matter.verdict.isSome = true := by
      rw [Option.isSome_iff_ne_none]
      exact fun none => settled (statusOf_eq_open.mpr none)
    obtain rfl := continues.closed decided
    refine ⟨rfl, funext fun voter => Option.ext fun choice => ?_⟩
    rw [cast after lasting, cast before stands]

/-- Slash proposals are matters of a docket in every run in which governance is founded
before the first of them: every call enters in the docket what it stands for, and the
stored entries hold the docket that results, in which nobody voted twice.  From any state
on, what a proposal is about and the votes cast on it stay, and a closed proposal stays as
it is. -/
theorem slash_proposals_docketed (founding : ∀ event ∈ past ++ trace, Founding event)
    (reached : Run Step .deployed past start) (run : Run Step start trace final) :
    (∃ docket history, Run Docket.Step [] history docket ∧
      history.map Event.label = (past ++ trace).map entered ∧ final.Holds docket ∧
        Docket.Single docket) ∧
      ∀ id proposal, start.governanceProposal id = some proposal →
        ∃ later, final.governanceProposal id = some later ∧
          Lasts start final id proposal later := by
  obtain ⟨earlier, before, opened, labels, held⟩ := docket_of_run holds_deployed
    (fun event member => founding event (List.mem_append_left _ member)) reached
  obtain ⟨later, after, went, more, kept⟩ := docket_of_run held
    (fun event member => founding event (List.mem_append_right _ member)) run
  refine ⟨⟨later, before ++ after, opened.append went, ?_, kept,
    Docket.single_of_run (opened.append went)⟩, ?_⟩
  · rw [List.map_append, List.map_append, labels, more]
  · intro id proposal found
    exact lasts_of_onward held kept (Docket.onward_of_run went) found

end Refinement

section Sample

theorem founding_of_label {event : Event Storage Label}
    (acts : ∀ governors quorumBps minGovernors,
      event.label.call ≠ .initializeGovernance governors quorumBps minGovernors) :
    Founding event :=
  fun governors quorumBps minGovernors called =>
    absurd called (acts governors quorumBps minGovernors)

/-- Two governors approve a proposal, which is executed before the next one is made. -/
theorem slash_proposals_docketed_sample :
    ∃ start trace final later, Run Step start trace final ∧
      start.governanceProposal 0 = some ⟨0, 500, ⟨1⟩, 20, .executed⟩ ∧
        final.governanceProposal 0 = some later ∧ final.governanceNextProposalId = 2 ∧
          Lasts start final 0 ⟨0, 500, ⟨1⟩, 20, .executed⟩ later := by
  let founds : Label := ⟨.signedByAll ⟨0⟩ 10, .initializeGovernance [⟨1⟩, ⟨2⟩] 5100 1⟩
  obtain ⟨founded, start, final, first, begun, followed, executed, two⟩ :
      ∃ founded start final, next .deployed founds = some founded ∧
        replay next founded
          [ ⟨.signedByAll ⟨0⟩ 20, .proposeSlash ⟨1⟩ 500⟩,
            ⟨.signedByAll ⟨0⟩ 30, .vote ⟨1⟩ 0 true⟩,
            ⟨.signedByAll ⟨0⟩ 40, .vote ⟨2⟩ 0 true⟩,
            ⟨.signedByAll ⟨0⟩ 50, .executeSlashIfApproved 0⟩ ] = some start ∧
        replay next start [⟨.signedByAll ⟨0⟩ 60, .proposeSlash ⟨2⟩ 7⟩] = some final ∧
        start.governanceProposal 0 = some ⟨0, 500, ⟨1⟩, 20, .executed⟩ ∧
        final.governanceNextProposalId = 2 :=
    ⟨_, _, _, rfl, rfl, rfl, rfl, rfl⟩
  obtain ⟨rest, reached, labels⟩ := run_of_replay step_of_next begun
  obtain ⟨trace, run, more⟩ := run_of_replay step_of_next followed
  have founding : ∀ event ∈ (⟨.deployed, founds, founded⟩ :: rest) ++ trace, Founding event := by
    intro event member
    rw [List.cons_append, List.mem_cons] at member
    rcases member with rfl | member
    · exact fun _ _ _ _ => rfl
    · apply founding_of_label
      have listed : event.label ∈ (rest ++ trace).map Event.label := List.mem_map_of_mem member
      rw [List.map_append, labels, more] at listed
      simp only [List.cons_append, List.nil_append, List.mem_cons, List.not_mem_nil,
        or_false] at listed
      rcases listed with same | same | same | same | same <;> simp [same]
  obtain ⟨-, lasts⟩ := slash_proposals_docketed founding (.cons (step_of_next first) reached) run
  obtain ⟨later, kept, stays⟩ := lasts 0 _ executed
  exact ⟨start, trace, final, later, run, executed, kept, two, stays⟩

end Sample

end Governance
