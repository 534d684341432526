import CredenceContracts.Bond.ClaimSpec
import CredenceContracts.Library.Paging

/-!
# Reading the claims page by page

A user's claims have increasing ids, and a page shows the first of them past a cursor.
Claims may be added, paid and removed between two pages of a walk; a claim that enters
has a larger id than every claim before it.
-/

namespace CredenceBond

open Soroban Transition Paging

section Page

variable {claims : ClaimStore} {user : Address} {startAfter capped limit : Nat}

/-- The loop fills the page with the claims past the cursor, and its cursor is the id of
the last of them. -/
theorem pageLoop_eq (rest page : List PendingClaim) :
    pageLoop startAfter capped rest page (page.getLast?.map PendingClaim.claimId) =
      let filled := page ++
        (remaining PendingClaim.claimId startAfter rest).take (capped - page.length)
      (filled, filled.getLast?.map PendingClaim.claimId) := by
  induction rest generalizing page with
  | nil => simp [pageLoop, remaining]
  | cons claim rest ih =>
      rw [pageLoop]
      by_cases passed : claim.claimId ≤ startAfter
      · rw [if_pos passed, ih page]
        simp [remaining, passed]
      · rw [if_neg passed]
        by_cases full : page.length ≥ capped
        · rw [if_pos full, Nat.sub_eq_zero_of_le full]
          simp
        · have last : some claim.claimId =
              (page ++ [claim]).getLast?.map PendingClaim.claimId := by simp
          obtain ⟨room, size⟩ : ∃ room, capped - page.length = room + 1 :=
            ⟨capped - page.length - 1, by omega⟩
          have taken : capped - (page ++ [claim]).length = room := by
            rw [List.length_append, List.length_singleton]
            omega
          rw [if_neg full, last, ih (page ++ [claim]), taken, size]
          simp [remaining, not_le.mp passed]

theorem getPendingClaimsPage_eq (positive : 0 < limit) :
    getPendingClaimsPage claims user startAfter limit =
      (page PendingClaim.claimId startAfter (min limit maxPageLimit) (claims.pendingClaims user),
        following PendingClaim.claimId startAfter (min limit maxPageLimit)
          (claims.pendingClaims user)) := by
  have some : ¬min limit maxPageLimit = 0 := by
    unfold maxPageLimit
    omega
  have filled : pageLoop startAfter (min limit maxPageLimit) (getPendingClaims claims user) []
      none = (page PendingClaim.claimId startAfter (min limit maxPageLimit)
        (claims.pendingClaims user), (page PendingClaim.claimId startAfter
          (min limit maxPageLimit) (claims.pendingClaims user)).getLast?.map
            PendingClaim.claimId) := pageLoop_eq (getPendingClaims claims user) []
  rw [getPendingClaimsPage, if_neg some, filled]
  rfl

end Page

section Changes

variable {before after : ClaimStore} {uncounted : List PendingClaim} {user : Address}
variable {claim : PendingClaim}

theorem ClaimChange.counter_le (change : ClaimChange before uncounted after) :
    before.claimCounter ≤ after.claimCounter := by
  cases change with
  | kept => exact le_rfl
  | added _ numbered =>
      rw [withClaim_claimCounter, numbered]
      exact Nat.le_succ _
  | removed => exact le_rfl

/-- A claim with an id that was handed out before was pending before. -/
theorem ClaimChange.pending_before (change : ClaimChange before uncounted after)
    (pending : claim ∈ after.pendingClaims user) :
    claim ∈ before.pendingClaims user ∨ before.claimCounter < claim.claimId := by
  cases change with
  | kept => exact .inl pending
  | added _ numbered =>
      rcases mem_withClaim.mp pending with old | ⟨-, rfl⟩
      · exact .inl old
      · exact .inr (by omega)
  | removed split ordered =>
      rw [setPending_pendingClaims] at pending
      exact .inl (mem_of_mem_left ordered pending)

/-- Every pending claim has an id from one on. -/
def ClaimStore.Counted (claims : ClaimStore) : Prop :=
  ∀ user, ∀ claim ∈ claims.pendingClaims user, 0 < claim.claimId

theorem ClaimChange.counted (change : ClaimChange before uncounted after)
    (counted : before.Counted) : after.Counted := by
  intro user claim pending
  rcases change.pending_before pending with old | new
  · exact counted user claim old
  · omega

end Changes

section Steps

variable {Ledger : Type} {token : TokenInterface Ledger} {self user : Address}
variable {state after start final : State Ledger} {label : ClaimLabel}
variable {trace : List (Event (State Ledger) ClaimLabel)}

/-- The step adds a claim for the user. -/
def ClaimLabel.AddsFor (user : Address) (label : ClaimLabel) : Prop :=
  match label.act with
  | .addPendingClaim owner _ _ _ _ _ => owner = user
  | _ => False

/-- Leaving one user some claims leaves every user some. -/
theorem left_sublist {claims : ClaimStore} {owner : Address} {left : List PendingClaim}
    (ordered : left.Sublist (claims.pendingClaims owner)) :
    (if user = owner then left else claims.pendingClaims user).Sublist
      (claims.pendingClaims user) := by
  split
  next same => exact same ▸ ordered
  next => exact .refl _

theorem Sweeps.sublist {before after : ClaimStore} {owner : Address}
    (sweeps : Sweeps owner before after) :
    (after.pendingClaims user).Sublist (before.pendingClaims user) := by
  rcases sweeps with rfl | ⟨expired, valid, -, ordered, rfl⟩
  · exact .refl _
  · rw [setPending_pendingClaims]
    exact left_sublist ordered

/-- A step that adds no claim for a user keeps that user's claims or removes some. -/
theorem ClaimStep.sublist (stepped : ClaimStep token self state label after)
    (quiet : ¬label.AddsFor user) :
    (after.storage.claims.pendingClaims user).Sublist
      (state.storage.claims.pendingClaims user) := by
  cases stepped with
  | addPendingClaim _ done =>
      obtain ⟨-, -, -, -, rfl⟩ := addPendingClaim_eq_ok.mp done
      have other : user ≠ _ := fun same => quiet same.symm
      change (ClaimStore.pendingClaims (ClaimStore.withClaim _ _ _) user).Sublist _
      rw [withClaim_pendingClaims, if_neg other]
  | @processClaims _ _ _ payee _ _ _ _ _ _ done =>
      obtain ⟨batch, batched, -, -, changed⟩ := processClaims_ok done
      obtain ⟨-, -, -, remaining, -⟩ := processBatch_ok batched
      have left : after.storage.claims.pendingClaims user =
          if user = payee then batch.remaining
          else state.storage.claims.pendingClaims user := by
        rw [changed]
        exact setPending_pendingClaims
      rw [left, remaining]
      exact left_sublist (Sift.kept_sublist _ _ _)
  | cleanupExpiredClaims _ done => exact (cleanupExpiredClaims_sweeps done).sublist
  | expireClaimsBounded _ done => exact (expireClaimsBounded_sweeps done).sublist
  | elsewhere same => rw [same]

/-- A claim pending after a run was pending before it, or is newer. -/
theorem pending_before_of_run (run : Run (ClaimStep token self) start trace final)
    {claim : PendingClaim} (old : claim.claimId ≤ start.storage.claims.claimCounter)
    (pending : claim ∈ final.storage.claims.pendingClaims user) :
    claim ∈ start.storage.claims.pendingClaims user := by
  have earlier := run.invariant
    (fun state => start.storage.claims.claimCounter ≤ state.storage.claims.claimCounter ∧
      (claim ∈ state.storage.claims.pendingClaims user →
        claim ∈ start.storage.claims.pendingClaims user)) ⟨le_rfl, id⟩ ?_
  · exact earlier.2 pending
  · rintro event ⟨reached, kept⟩ stepped
    refine ⟨reached.trans stepped.change.counter_le, fun pending => ?_⟩
    rcases stepped.change.pending_before pending with before | newer
    · exact kept before
    · omega

theorem sublist_of_run (run : Run (ClaimStep token self) start trace final)
    (quiet : ∀ event ∈ trace, ¬event.label.AddsFor user) :
    (final.storage.claims.pendingClaims user).Sublist
      (start.storage.claims.pendingClaims user) := by
  refine (run.restrict (fun event => ¬event.label.AddsFor user)
    (fun state => (state.storage.claims.pendingClaims user).Sublist
      (start.storage.claims.pendingClaims user)) quiet (.refl _) ?_).2
  exact fun event allowed before stepped => (stepped.sublist allowed).trans before

/-- The claims of a reachable state, with ids from one on. -/
structure Readable (claims : ClaimStore) : Prop where
  sound : SoundClaims claims
  counted : claims.Counted

theorem Readable.run (readable : Readable start.storage.claims)
    (run : Run (ClaimStep token self) start trace final) : Readable final.storage.claims := by
  refine run.invariant (fun state => Readable state.storage.claims) readable ?_
  exact fun event before stepped =>
    ⟨stepped.change.sound before.sound, stepped.change.counted before.counted⟩

theorem readable_empty : Readable .empty where
  sound := soundClaims_empty
  counted _ _ member := by simp [ClaimStore.empty] at member

theorem Readable.ascending {claims : ClaimStore} (readable : Readable claims) (user : Address) :
    Ascending PendingClaim.claimId (claims.pendingClaims user) :=
  List.pairwise_map.mp (readable.sound.increasing user)

end Steps

section Walks

variable {Ledger : Type}

/-- One read of a page, and what happened since the read before it. -/
structure PageRead (Ledger : Type) where
  between : List (Event (State Ledger) ClaimLabel)
  before : State Ledger
  cursor : Nat
  limit : Nat

def PageRead.answer (read : PageRead Ledger) (user : Address) :
    List PendingClaim × Option Nat :=
  getPendingClaimsPage read.before.storage.claims user read.cursor read.limit

/-- A walk over the pages of a user's claims from a cursor, with positive limits and
with anything between the reads, up to the cursor that it goes on with. -/
inductive Walk (token : TokenInterface Ledger) (self user : Address) (start : State Ledger)
    (cursor : Nat) : List (PageRead Ledger) → State Ledger → Option Nat → Prop where
  | begin : Walk token self user start cursor [] start (some cursor)
  | read {reads : List (PageRead Ledger)} {now : State Ledger} {read : PageRead Ledger} :
      Walk token self user start cursor reads now (some read.cursor) →
      Run (ClaimStep token self) now read.between read.before → 0 < read.limit →
      Walk token self user start cursor (reads ++ [read]) read.before (read.answer user).2

/-- The claims that the reads returned, in order. -/
def returned (user : Address) (reads : List (PageRead Ledger)) : List PendingClaim :=
  reads.flatMap fun read => (read.answer user).1

variable {token : TokenInterface Ledger} {self user : Address} {start now : State Ledger}
variable {cursor : Nat} {reads : List (PageRead Ledger)} {next : Option Nat}

theorem returned_snoc {read : PageRead Ledger} :
    returned user (reads ++ [read]) = returned user reads ++ (read.answer user).1 := by
  simp [returned]

/-- A read shows a page of the list, and goes on after it. -/
theorem PageRead.answer_eq {read : PageRead Ledger} (positive : 0 < read.limit) :
    read.answer user =
      (page PendingClaim.claimId read.cursor (min read.limit maxPageLimit)
        (read.before.storage.claims.pendingClaims user),
      following PendingClaim.claimId read.cursor (min read.limit maxPageLimit)
        (read.before.storage.claims.pendingClaims user)) :=
  getPendingClaimsPage_eq positive

theorem capped_pos {limit : Nat} (positive : 0 < limit) : 0 < min limit maxPageLimit := by
  unfold maxPageLimit
  omega

/-- The reads go on at an id that was handed out. -/
theorem following_le_counter {claims : ClaimStore} {size last : Nat} (readable : Readable claims)
    (goes : following PendingClaim.claimId cursor size (claims.pendingClaims user) = some last) :
    last ≤ claims.claimCounter := by
  obtain ⟨-, initial, claim, shape, rfl⟩ := following_eq_some.mp goes
  have shown : claim ∈ page PendingClaim.claimId cursor size (claims.pendingClaims user) := by
    rw [shape]
    simp
  exact readable.sound.numbered (mem_of_mem_page shown).1

/-- The reads of a walk show a user's claims once, and the walk goes on at an id that was
handed out. -/
theorem Walk.shown (walk : Walk token self user start 0 reads now next)
    (readable : Readable start.storage.claims) :
    Readable now.storage.claims ∧
      Shown PendingClaim.claimId (returned user reads)
        (now.storage.claims.pendingClaims user) next ∧
      ∀ cursor, next = some cursor → cursor ≤ now.storage.claims.claimCounter := by
  induction walk with
  | begin => exact ⟨readable, .start (readable.counted user), by simp⟩
  | @read reads now read walk run positive ih =>
      obtain ⟨reached, shown, handedOut⟩ := ih
      have here : Readable read.before.storage.claims := reached.run run
      have old : ∀ claim ∈ read.before.storage.claims.pendingClaims user,
          claim.claimId ≤ read.cursor → claim ∈ now.storage.claims.pendingClaims user :=
        fun claim pending early =>
          pending_before_of_run run (early.trans (handedOut read.cursor rfl)) pending
      have further := (shown.evolve old).read (here.ascending user) (capped_pos positive)
      rw [returned_snoc, PageRead.answer_eq positive]
      exact ⟨here, further, fun cursor goes => following_le_counter here goes⟩

/-- Without additions every read that is not the last takes a claim off those that are
left, so that a walk has one read more than claims are left at most. -/
theorem Walk.length_le (walk : Walk token self user start cursor reads now next)
    (readable : Readable start.storage.claims)
    (quiet : ∀ read ∈ reads, ∀ event ∈ read.between, ¬event.label.AddsFor user) :
    Readable now.storage.claims ∧
      (next = none → reads.length ≤
        (remaining PendingClaim.claimId cursor
          (start.storage.claims.pendingClaims user)).length + 1) ∧
      ∀ last, next = some last → reads.length +
        (remaining PendingClaim.claimId last (now.storage.claims.pendingClaims user)).length ≤
          (remaining PendingClaim.claimId cursor
            (start.storage.claims.pendingClaims user)).length := by
  induction walk with
  | begin => exact ⟨readable, by simp, by simp⟩
  | @read reads now read walk run positive ih =>
      obtain ⟨reached, -, few⟩ := ih fun other member =>
        quiet other (List.mem_append_left _ member)
      have earlier := few read.cursor rfl
      have here : Readable read.before.storage.claims := reached.run run
      have fewer : (remaining PendingClaim.claimId read.cursor
          (read.before.storage.claims.pendingClaims user)).length ≤
            (remaining PendingClaim.claimId read.cursor
              (now.storage.claims.pendingClaims user)).length :=
        ((sublist_of_run run (quiet read (by simp))).filter _).length_le
      rw [PageRead.answer_eq positive, List.length_append, List.length_singleton]
      refine ⟨here, fun _ => by omega, fun last goes => ?_⟩
      have taken := length_remaining_add_size (here.ascending user) goes
      have some := capped_pos positive
      omega

/-- With nothing between the reads, the claims returned are those of the start. -/
theorem Walk.eq_start (walk : Walk token self user start cursor reads now next)
    (alone : ∀ read ∈ reads, read.between = []) :
    now = start ∧ ∀ claim ∈ returned user reads,
      claim ∈ start.storage.claims.pendingClaims user := by
  induction walk with
  | begin => exact ⟨rfl, by simp [returned]⟩
  | @read reads now read walk run positive ih =>
      obtain ⟨rfl, within⟩ := ih fun other member => alone other (List.mem_append_left _ member)
      have nothing := alone read (by simp)
      rw [nothing] at run
      have same := run.eq_of_nil
      refine ⟨same, fun claim member => ?_⟩
      rw [returned_snoc, PageRead.answer_eq positive, same] at member
      rcases List.mem_append.mp member with earlier | here
      · exact within claim earlier
      · exact (mem_of_mem_page here).1

end Walks

section Claim

variable {Ledger : Type} {token : TokenInterface Ledger} {self user : Address}
variable {fresh start now : State Ledger} {trace : List (Event (State Ledger) ClaimLabel)}
variable {reads : List (PageRead Ledger)} {next : Option Nat}

/-- A user's claims are in order in every state that a run reaches.  A walk over them, with
anything between its reads, returns no id twice and returns every claim that is still
pending at its last read; once no more claims are added it has one read more than claims
are left at most, and undisturbed it returns the claims as they are. -/
theorem claim_pages_stable (run : Run (ClaimStep token self) fresh trace start)
    (empty : fresh.storage.claims = .empty)
    (walk : Walk token self user start 0 reads now next) :
    ((start.storage.claims.pendingClaims user).map PendingClaim.claimId).Pairwise (· < ·) ∧
      ((returned user reads).map PendingClaim.claimId).Nodup ∧
      (next = none → ∀ claim ∈ now.storage.claims.pendingClaims user,
        ((returned user reads).map PendingClaim.claimId).count claim.claimId = 1) ∧
      (∀ cursor more final last, next = some cursor →
        Walk token self user now cursor more final last →
          (∀ read ∈ more, ∀ event ∈ read.between, ¬event.label.AddsFor user) →
            more.length ≤ (remaining PendingClaim.claimId cursor
              (now.storage.claims.pendingClaims user)).length + 1 ∧
            (more.length = (remaining PendingClaim.claimId cursor
              (now.storage.claims.pendingClaims user)).length + 1 → last = none)) ∧
      (next = none → (∀ read ∈ reads, read.between = []) →
        returned user reads = getPendingClaims start.storage.claims user) := by
  have readable : Readable start.storage.claims :=
    (empty ▸ readable_empty : Readable fresh.storage.claims).run run
  obtain ⟨reached, shown, -⟩ := walk.shown readable
  have nodup : ((returned user reads).map PendingClaim.claimId).Nodup :=
    List.pairwise_map.mpr (shown.ascending.imp Nat.ne_of_lt)
  refine ⟨readable.sound.increasing user, nodup, ?_, ?_, ?_⟩
  · rintro rfl claim pending
    have member := shown.met claim pending (by simp)
    rw [nodup.count, if_pos (List.mem_map_of_mem member)]
  · rintro cursor more final last rfl further quiet
    obtain ⟨-, done, goes⟩ := further.length_le reached quiet
    cases last with
    | none => exact ⟨done rfl, fun _ => rfl⟩
    | some last =>
        have few := goes last rfl
        exact ⟨by omega, fun many => by omega⟩
  · rintro rfl alone
    obtain ⟨rfl, within⟩ := walk.eq_start alone
    exact shown.eq_of_subset (readable.ascending user) within

end Claim

section Sample

/-- The state once a claim was added for the sample user. -/
def sampleAdd (timestamp : Nat) (claimType : ClaimType) (state : State ReferenceLedger) :
    State ReferenceLedger :=
  { state with
    storage := ((addPendingClaim (.signedByAll ⟨0⟩ timestamp) state.storage ⟨5⟩ claimType 4 0
      none).toOption.map Prod.fst).getD state.storage }

def oneAdded : State ReferenceLedger :=
  sampleAdd 0 .feeRebate claimSample

def twoAdded : State ReferenceLedger :=
  sampleAdd 9 .disputeReward oneAdded

theorem oneAdded_step : ClaimStep ReferenceLedger.token ⟨0⟩ claimSample
    ⟨.signedByAll ⟨0⟩ 0, .addPendingClaim ⟨5⟩ .feeRebate 4 0 none 1⟩ oneAdded :=
  .addPendingClaim rfl rfl

theorem twoAdded_step : ClaimStep ReferenceLedger.token ⟨0⟩ oneAdded
    ⟨.signedByAll ⟨0⟩ 9, .addPendingClaim ⟨5⟩ .disputeReward 4 0 none 2⟩ twoAdded :=
  .addPendingClaim rfl rfl

/-- The first claim is paid. -/
def firstPaid : State ReferenceLedger :=
  ((processClaims (.signedByAll ⟨0⟩ 20) ReferenceLedger.token twoAdded ⟨5⟩ [.feeRebate]
    0).toOption.map Prod.fst).getD twoAdded

def thirdAdded : State ReferenceLedger :=
  sampleAdd 30 .feeRebate firstPaid

/-- Between the two reads of a walk the first claim is paid and a third one added. -/
theorem claim_pages_sample :
    ∃ trace reads, Run (ClaimStep ReferenceLedger.token ⟨0⟩) claimSample trace twoAdded ∧
      Walk ReferenceLedger.token ⟨0⟩ ⟨5⟩ twoAdded 0 reads thirdAdded none ∧
        (returned ⟨5⟩ reads).map PendingClaim.claimId = [1, 2, 3] ∧
          ∀ claim ∈ thirdAdded.storage.claims.pendingClaims ⟨5⟩,
            ((returned ⟨5⟩ reads).map PendingClaim.claimId).count claim.claimId = 1 := by
  obtain ⟨label, paid⟩ : ∃ label, ClaimStep ReferenceLedger.token ⟨0⟩ twoAdded label firstPaid :=
    ⟨_, @ClaimStep.processClaims _ _ _ (.signedByAll ⟨0⟩ 20) _ _ ⟨5⟩ [.feeRebate] 0 _ _
      rfl rfl rfl⟩
  have third : ClaimStep ReferenceLedger.token ⟨0⟩ firstPaid
      ⟨.signedByAll ⟨0⟩ 30, .addPendingClaim ⟨5⟩ .feeRebate 4 0 none 3⟩ thirdAdded :=
    .addPendingClaim rfl rfl
  have run := (Run.single oneAdded_step).append (.single twoAdded_step)
  obtain ⟨between, meanwhile⟩ : ∃ between,
      Run (ClaimStep ReferenceLedger.token ⟨0⟩) twoAdded between thirdAdded :=
    ⟨_, (Run.single paid).append (.single third)⟩
  let firstRead : PageRead ReferenceLedger := ⟨[], twoAdded, 0, 1⟩
  let secondRead : PageRead ReferenceLedger := ⟨between, thirdAdded, 1, 50⟩
  have opened : Walk ReferenceLedger.token ⟨0⟩ ⟨5⟩ twoAdded 0 [firstRead] twoAdded (some 1) :=
    @Walk.read _ _ _ _ _ _ [] _ firstRead .begin .nil (Nat.succ_pos 0)
  have walk : Walk ReferenceLedger.token ⟨0⟩ ⟨5⟩ twoAdded 0 [firstRead, secondRead] thirdAdded
      none :=
    @Walk.read _ _ _ _ _ _ [firstRead] _ secondRead opened meanwhile (Nat.succ_pos 49)
  exact ⟨_, _, run, walk, rfl,
    (claim_pages_stable run rfl walk).2.2.1 rfl⟩

end Sample

end CredenceBond
