import CredenceContracts.Bond.ClaimPages
import CredenceContracts.Library.Sweep
import Mathlib.Algebra.Order.BigOperators.Group.List
import Mathlib.Tactic.Ring

/-!
# Bounded sweeps and the full cleanup

A bounded sweep looks at the first claims of a user, the cleanup at all of them.  Claims
are stored in the order of their expiry, so that repeated sweeps reach what the cleanup
reaches, as long as no expiry leaves its word.
-/

namespace CredenceBond

open Soroban MachineInt Transition Sweep

/-- The test of both sweeps on claims that are not processed. -/
def expiredAt (now : Nat) (claim : PendingClaim) : Bool :=
  decide (claim.Expired now)

/-- The claims of a user that are expired at this time stand before all others. -/
def ExpiredFirst (claims : ClaimStore) (user : Address) (now : Nat) : Prop :=
  Leading (expiredAt now) (claims.pendingClaims user)

instance (claims : ClaimStore) (user : Address) (now : Nat) :
    Decidable (ExpiredFirst claims user now) := by
  unfold ExpiredFirst Leading
  infer_instance

/-- Bounded sweeps at one time, each with the next of the limits, until one returns zero;
with the sum of what they returned. -/
inductive SweptOut (env : Env) (user : Address) : (Nat → Nat) → Storage → Nat → Storage → Prop
    where
  | done {maxIters : Nat → Nat} {storage after : Storage} :
      expireClaimsBounded env storage user (maxIters 0) = .ok (after, 0) →
      SweptOut env user maxIters storage 0 after
  | more {maxIters : Nat → Nat} {storage after final : Storage} {count total : Nat} :
      expireClaimsBounded env storage user (maxIters 0) = .ok (after, count) → count ≠ 0 →
      SweptOut env user (fun round => maxIters (round + 1)) after total final →
      SweptOut env user maxIters storage (count + total) final

/-- The sweeps come to an end, and to the claims, the total and the count of the cleanup. -/
def EndsAsCleanup (env : Env) (storage : Storage) (user : Address) (maxIters : Nat → Nat) :
    Prop :=
  ∃ total swept cleaned, SweptOut env user maxIters storage total swept ∧
    cleanupExpiredClaims env storage user = .ok (cleaned, total) ∧
      swept.claims.pendingClaims user = cleaned.claims.pendingClaims user ∧
        swept.claims.claimableAmount user = cleaned.claims.claimableAmount user

/-- The claims of a reachable state, whose totals fit their word. -/
structure Sweepable (claims : ClaimStore) : Prop where
  sound : SoundClaims claims
  bounded : ∀ user, claims.claimableAmount user < 2 ^ 127

section Pruning

variable {env : Env} {storage : Storage} {user : Address} {now maxIter : Nat}
variable {expired valid : List PendingClaim} {maxIters : Nat → Nat}

/-- The total that is left for a user. -/
def settled (claimable : Int) (expired valid : List PendingClaim) : Int :=
  if expired = [] then claimable
  else if valid = [] then 0 else claimable - claimSum expired

/-- The entries after a sweep. -/
def Storage.pruned (storage : Storage) (user : Address) (expired valid : List PendingClaim) :
    Storage :=
  if expired = [] then storage
  else ({ storage with
    claims := storage.claims.setPending user valid
      (settled (storage.claims.claimableAmount user) expired valid) }).publish
    (.claimsExpired user expired.length (claimSum expired))

theorem pruned_pendingClaims (whole : expired = [] → valid = storage.claims.pendingClaims user) :
    (storage.pruned user expired valid).claims.pendingClaims user = valid := by
  unfold Storage.pruned
  split
  next none => exact (whole none).symm
  next => exact setPending_pendingClaims.trans (if_pos rfl)

theorem pruned_claimableAmount :
    (storage.pruned user expired valid).claims.claimableAmount user =
      settled (storage.claims.claimableAmount user) expired valid := by
  unfold Storage.pruned
  split
  next none => simp [settled, none]
  next => exact setPending_claimableAmount.trans (if_pos rfl)

/-- What one sweep takes off the total after another is what one sweep takes off for both. -/
theorem settled_settled {claimable : Int} {first second between left : List PendingClaim}
    (some : first ≠ []) (within : between = [] → second = [])
    (nothing : second = [] → between = left) :
    settled (settled claimable first between) second left =
      settled claimable (first ++ second) left := by
  by_cases last : second = []
  · simp [settled, some, last, nothing last]
  · have inside : between ≠ [] := fun empty => last (within empty)
    by_cases empty : left = []
    · simp [settled, last, empty]
    · simp only [settled, some, last, inside, empty, if_false, List.append_eq_nil_iff,
        false_and, claimSum_append]
      ring

theorem expiredAmount_eq (positive : ∀ claim ∈ expired, 0 < claim.amount)
    (fits : claimSum expired < 2 ^ 127) : expiredAmount expired = .ok (claimSum expired) := by
  have general : ∀ (rest : List PendingClaim) (start : Int), 0 ≤ start →
      (∀ claim ∈ rest, 0 < claim.amount) → start + claimSum rest < 2 ^ 127 →
      rest.foldlM (fun total claim => checkedI128 (total + claim.amount)
        (Failure.panicked "expired amount overflow")) start = .ok (start + claimSum rest) := by
    intro rest
    induction rest with
    | nil => simp
    | cons claim rest ih =>
        intro start nonneg positive fits
        obtain ⟨head, tail⟩ := List.forall_mem_cons.mp positive
        have later := claimSum_nonneg tail
        rw [claimSum_cons] at fits
        have word : FitsI128 (start + claim.amount) := by
          constructor <;> omega
        have added : checkedI128 (start + claim.amount)
            (Failure.panicked "expired amount overflow") = .ok (start + claim.amount) :=
          checkedI128_eq_ok.mpr ⟨word, rfl⟩
        rw [List.foldlM_cons, added]
        change rest.foldlM _ (start + claim.amount) = _
        rw [ih _ (by omega) tail (by omega), claimSum_cons, add_assoc]
  simpa [expiredAmount] using general expired 0 le_rfl positive (by simpa using fits)

theorem pruneClaims_eq (positive : ∀ claim ∈ expired, 0 < claim.amount)
    (covered : claimSum expired ≤ storage.claims.claimableAmount user)
    (bounded : storage.claims.claimableAmount user < 2 ^ 127) :
    pruneClaims storage user expired valid =
      .ok (storage.pruned user expired valid, expired.length) := by
  have nonneg := claimSum_nonneg positive
  have summed := expiredAmount_eq positive (covered.trans_lt bounded)
  have word : FitsI128 (storage.claims.claimableAmount user - claimSum expired) := by
    constructor <;> omega
  by_cases none : expired = []
  · subst none
    simp [pruneClaims, expiredAmount, Storage.pruned]
  · simp only [pruneClaims, Outcome.bind_eq_ok, if_neg none, Storage.pruned]
    refine ⟨_, summed, _, storeRemaining_eq_ok.mpr ⟨.inr word, rfl⟩, ?_⟩
    simp [settled, none]

end Pruning

section Sweeping

variable {env : Env} {storage : Storage} {user : Address} {maxIter : Nat}
variable {maxIters : Nat → Nat}

theorem batchLimit_pos (requested : Nat) : 0 < batchLimit requested := by
  unfold batchLimit maxBatchClaims
  split <;> omega

/-- Of pending claims, which are not processed, both sweeps remove the same. -/
theorem swept_iff {claim : PendingClaim} {now : Nat} (unprocessed : claim.processed = false) :
    claim.Swept now ↔ claim.Expired now := by
  simp [PendingClaim.Swept, PendingClaim.Expired, unprocessed, Nat.pos_iff_ne_zero]

theorem claimSum_le_of_sublist {part whole : List PendingClaim} (ordered : part.Sublist whole)
    (positive : ∀ claim ∈ whole, 0 < claim.amount) : claimSum part ≤ claimSum whole := by
  refine (ordered.map PendingClaim.amount).sum_le_sum fun amount member => ?_
  obtain ⟨claim, pending, rfl⟩ := List.mem_map.mp member
  exact (positive claim pending).le

/-- Removing some of a user's claims never fails. -/
theorem Sweepable.prune {removed valid : List PendingClaim} (sweepable : Sweepable storage.claims)
    (ordered : removed.Sublist (storage.claims.pendingClaims user)) :
    pruneClaims storage user removed valid =
      .ok (storage.pruned user removed valid, removed.length) := by
  have positive : ∀ claim ∈ storage.claims.pendingClaims user, 0 < claim.amount :=
    fun claim => sweepable.sound.positive
  refine pruneClaims_eq (fun claim member => positive claim (ordered.subset member)) ?_
    (sweepable.bounded user)
  exact (claimSum_le_of_sublist ordered positive).trans (sweepable.sound.covered user)

theorem expireClaimsBounded_eq (env : Env) (user : Address) (maxIter : Nat)
    (sweepable : Sweepable storage.claims) :
    expireClaimsBounded env storage user maxIter =
      let pending := storage.claims.pendingClaims user
      let removed := found (expiredAt env.timestamp) (batchLimit maxIter) pending
      .ok (storage.pruned user removed
        (left (expiredAt env.timestamp) (batchLimit maxIter) pending), removed.length) := by
  by_cases empty : storage.claims.pendingClaims user = []
  · simp [expireClaimsBounded, empty, found, Storage.pruned]
  · have same : ∀ claim ∈ (storage.claims.pendingClaims user).take (batchLimit maxIter),
        decide (claim.Swept env.timestamp) = expiredAt env.timestamp claim := by
      intro claim member
      have pending := List.mem_of_mem_take member
      exact decide_eq_decide.mpr (swept_iff (sweepable.sound.unprocessed pending))
    have removes := List.filter_congr same
    have keeps := List.filter_congr fun claim member =>
      congrArg (fun verdict => !verdict) (same claim member)
    simp only [expireClaimsBounded, if_neg empty, removes, decide_not, keeps]
    exact sweepable.prune (List.filter_sublist.trans (List.take_sublist _ _))

theorem cleanupExpiredClaims_eq (env : Env) (user : Address)
    (sweepable : Sweepable storage.claims) :
    cleanupExpiredClaims env storage user =
      let pending := storage.claims.pendingClaims user
      let removed := pending.filter (expiredAt env.timestamp)
      .ok (storage.pruned user removed
        (pending.filter fun claim => !expiredAt env.timestamp claim), removed.length) := by
  by_cases empty : storage.claims.pendingClaims user = []
  · simp [cleanupExpiredClaims, empty, Storage.pruned]
  · simp only [cleanupExpiredClaims, if_neg empty, decide_not]
    exact sweepable.prune List.filter_sublist

/-- A sweep leaves claims that can be swept. -/
theorem Sweeps.sweepable {before after : ClaimStore} (sweeps : Sweeps user before after)
    (sweepable : Sweepable before) : Sweepable after where
  sound := sweeps.change.sound sweepable.sound
  bounded other := by
    rcases sweeps with rfl | ⟨expired, valid, split, -, rfl⟩
    · exact sweepable.bounded other
    · have positive : ∀ claim ∈ expired, 0 < claim.amount := fun claim member =>
        sweepable.sound.positive (split.subset (List.mem_append_left _ member))
      have before := sweepable.bounded user
      have removed := claimSum_nonneg positive
      rw [setPending_claimableAmount]
      split
      · split <;> omega
      · exact sweepable.bounded other

/-- What one sweep returns and leaves. -/
theorem swept_once (env : Env) (user : Address) (maxIter : Nat)
    (sweepable : Sweepable storage.claims) :
    let pending := storage.claims.pendingClaims user
    let removed := found (expiredAt env.timestamp) (batchLimit maxIter) pending
    let kept := left (expiredAt env.timestamp) (batchLimit maxIter) pending
    ∃ after, expireClaimsBounded env storage user maxIter = .ok (after, removed.length) ∧
      Sweepable after.claims ∧ after.claims.pendingClaims user = kept ∧
        after.claims.claimableAmount user =
          settled (storage.claims.claimableAmount user) removed kept := by
  intro pending removed kept
  have swept := expireClaimsBounded_eq env user maxIter sweepable
  exact ⟨_, swept, (expireClaimsBounded_sweeps swept).sweepable sweepable,
    pruned_pendingClaims left_of_found_eq_nil, pruned_claimableAmount⟩

/-- What the sweeps have to remove in the end, and to keep. -/
def lapsed (storage : Storage) (user : Address) (now : Nat) : List PendingClaim :=
  (storage.claims.pendingClaims user).filter (expiredAt now)

def lasting (storage : Storage) (user : Address) (now : Nat) : List PendingClaim :=
  (storage.claims.pendingClaims user).filter fun claim => !expiredAt now claim

/-- Sweeps of claims of which the expired ones lead remove all of these. -/
theorem sweptOut_of_expiredFirst {number : Nat} (maxIters : Nat → Nat)
    (sweepable : Sweepable storage.claims)
    (ordered : ExpiredFirst storage.claims user env.timestamp)
    (size : (lapsed storage user env.timestamp).length = number) :
    ∃ swept, SweptOut env user maxIters storage number swept ∧
      swept.claims.pendingClaims user = lasting storage user env.timestamp ∧
        swept.claims.claimableAmount user =
          settled (storage.claims.claimableAmount user) (lapsed storage user env.timestamp)
            (lasting storage user env.timestamp) := by
  induction number using Nat.strong_induction_on generalizing storage maxIters with
  | _ number ih =>
      obtain ⟨after, swept, sweepableAfter, pending, claimable⟩ :=
        swept_once env user (maxIters 0) sweepable
      have positive := batchLimit_pos (maxIters 0)
      by_cases nothing : found (expiredAt env.timestamp) (batchLimit (maxIters 0))
          (storage.claims.pendingClaims user) = []
      · -- Nothing is found, so nothing is expired.
        have none : lapsed storage user env.timestamp = [] :=
          ordered.filter_eq_nil positive nothing
        have all : lasting storage user env.timestamp = storage.claims.pendingClaims user :=
          filter_not_of_filter_eq_nil none
        obtain rfl : number = 0 := by rw [← size, none, List.length_nil]
        rw [nothing] at swept claimable
        rw [none, all]
        exact ⟨after, .done swept, pending.trans (left_of_found_eq_nil nothing), claimable⟩
      · -- Something is found, and the next sweeps go on with what is left.
        let removed := found (expiredAt env.timestamp) (batchLimit (maxIters 0))
          (storage.claims.pendingClaims user)
        have parts : removed ++ lapsed after user env.timestamp =
            lapsed storage user env.timestamp := by
          rw [lapsed, pending]
          exact found_append_filter_left
        have same : lasting after user env.timestamp = lasting storage user env.timestamp := by
          rw [lasting, pending]
          exact filter_not_left
        have orderedAfter : ExpiredFirst after.claims user env.timestamp := by
          rw [ExpiredFirst, pending]
          exact Leading.sublist ordered Sweep.left_sublist
        have lengths : removed.length + (lapsed after user env.timestamp).length = number := by
          rw [← List.length_append, parts, size]
        have some : removed.length ≠ 0 := by simpa using nothing
        obtain ⟨final, finished, finalPending, finalClaimable⟩ :=
          ih (lapsed after user env.timestamp).length (by omega)
            (fun round => maxIters (round + 1)) sweepableAfter orderedAfter rfl
        rw [← lengths]
        refine ⟨final, .more swept some finished, finalPending.trans same, ?_⟩
        rw [finalClaimable, claimable, ← parts, same]
        refine settled_settled nothing ?_ ?_
        · intro empty
          rw [lapsed, pending, empty]
          rfl
        · intro none
          rw [← pending, ← same]
          exact (filter_not_of_filter_eq_nil none).symm

/-- Sweeps of one claim never get past a claim that is not expired. -/
theorem SweptOut.not_expiredFirst {total : Nat} {final : Storage}
    (swept : SweptOut env user maxIters storage total final)
    (ones : ∀ round, maxIters round = 1) (sweepable : Sweepable storage.claims)
    (stuck : ¬ExpiredFirst storage.claims user env.timestamp) :
    ¬ExpiredFirst final.claims user env.timestamp := by
  have once : ∀ {before after : Storage} {limit count : Nat}, limit = 1 →
      Sweepable before.claims → ¬ExpiredFirst before.claims user env.timestamp →
      expireClaimsBounded env before user limit = .ok (after, count) →
      Sweepable after.claims ∧ ¬ExpiredFirst after.claims user env.timestamp := by
    rintro before after _ count rfl sweepable stuck removed
    obtain ⟨other, same, sweepableAfter, pending, -⟩ := swept_once env user 1 sweepable
    obtain ⟨rfl, -⟩ := Prod.mk.inj (Except.ok.inj (removed.symm.trans same))
    refine ⟨sweepableAfter, ?_⟩
    rw [ExpiredFirst, pending]
    exact not_leading_left stuck
  induction swept with
  | done removed => exact (once (ones 0) sweepable stuck removed).2
  | more removed _ _ ih =>
      obtain ⟨sweepableAfter, stuckAfter⟩ := once (ones 0) sweepable stuck removed
      exact ih (fun round => ones (round + 1)) sweepableAfter stuckAfter

/-- The sweeps end as the cleanup does, whatever their limits, exactly where the expired
claims lead. -/
theorem endsAsCleanup_iff (env : Env) (user : Address) (sweepable : Sweepable storage.claims) :
    (∀ maxIters, EndsAsCleanup env storage user maxIters) ↔
      ExpiredFirst storage.claims user env.timestamp := by
  have cleaned := cleanupExpiredClaims_eq env user sweepable
  constructor
  · intro ends
    by_contra stuck
    obtain ⟨total, swept, other, finished, same, pending, -⟩ := ends fun _ => 1
    obtain ⟨rfl, -⟩ := Prod.mk.inj (Except.ok.inj (same.symm.trans cleaned))
    refine finished.not_expiredFirst (fun _ => rfl) sweepable stuck ?_
    rw [ExpiredFirst, pending, pruned_pendingClaims filter_not_of_filter_eq_nil]
    exact leading_filter_not _
  · intro ordered maxIters
    obtain ⟨swept, finished, pending, claimable⟩ :=
      sweptOut_of_expiredFirst maxIters sweepable ordered rfl
    refine ⟨_, swept, _, finished, cleaned, pending.trans ?_, claimable.trans ?_⟩
    · exact (pruned_pendingClaims filter_not_of_filter_eq_nil).symm
    · exact pruned_claimableAmount.symm

end Sweeping

section Runs

variable {Ledger : Type} {token : TokenInterface Ledger} {self user : Address}
variable {start final : State Ledger} {trace : List (Event (State Ledger) ClaimLabel)}

/-- Time never runs backwards along the trace. -/
def Chronological (trace : List (Event (State Ledger) ClaimLabel)) : Prop :=
  trace.Pairwise fun first second => first.label.env.timestamp ≤ second.label.env.timestamp

/-- A claim recorded for the user gets an expiry that fits its word, or none, or else the
claims before it are expired already. -/
def AddsInOrder (user : Address) (event : Event (State Ledger) ClaimLabel) : Prop :=
  event.label.AddsFor user →
    let now := event.label.env.timestamp
    now + defaultClaimExpiry < 2 ^ 64 ∨ (now + defaultClaimExpiry) % 2 ^ 64 = 0 ∨
      ∀ claim ∈ event.before.storage.claims.pendingClaims user, claim.Expired now

/-- The claims of a user were recorded by events of the history, with their expiry. -/
def Dated (user : Address) (history : List (Event (State Ledger) ClaimLabel))
    (claims : ClaimStore) : Prop :=
  ∀ claim ∈ claims.pendingClaims user, ∃ event ∈ history,
    claim.expiresAt = (event.label.env.timestamp + defaultClaimExpiry) % 2 ^ 64

theorem ClaimStep.sweepable {state after : State Ledger} {label : ClaimLabel}
    (stepped : ClaimStep token self state label after)
    (sweepable : Sweepable state.storage.claims) : Sweepable after.storage.claims := by
  have sound := stepped.change.sound sweepable.sound
  cases stepped with
  | addPendingClaim _ done =>
      obtain ⟨-, -, fits, -, rfl⟩ := addPendingClaim_eq_ok.mp done
      refine ⟨sound, fun other => ?_⟩
      refine (withClaim_claimableAmount.trans_lt ?_)
      split
      · exact fits.2
      · exact sweepable.bounded other
  | @processClaims _ _ _ payee _ _ _ _ _ _ done =>
      obtain ⟨batch, batched, -, -, changed⟩ := processClaims_ok done
      obtain ⟨-, -, -, -, total⟩ := processBatch_ok batched
      have paid : 0 ≤ batch.totalAmount := by
        rw [total]
        refine claimSum_nonneg fun claim member => ?_
        have pending : claim ∈ _ := (ClaimStore.batch_perm ..).subset
          (List.mem_append_left _ (List.mem_append_left _ member))
        exact sweepable.sound.positive pending
      refine ⟨sound, fun other => ?_⟩
      have before := sweepable.bounded payee
      rw [changed]
      refine setPending_claimableAmount.trans_lt ?_
      split
      · split <;> omega
      · exact sweepable.bounded other
  | cleanupExpiredClaims _ done => exact (cleanupExpiredClaims_sweeps done).sweepable sweepable
  | expireClaimsBounded _ done => exact (expireClaimsBounded_sweeps done).sweepable sweepable
  | elsewhere same => exact same ▸ sweepable

/-- A recorded claim comes last. -/
theorem ClaimStep.added {state after : State Ledger} {label : ClaimLabel}
    (stepped : ClaimStep token self state label after) (adds : label.AddsFor user) :
    ∃ claim, after.storage.claims.pendingClaims user =
        state.storage.claims.pendingClaims user ++ [claim] ∧
      claim.expiresAt = (label.env.timestamp + defaultClaimExpiry) % 2 ^ 64 := by
  cases stepped with
  | addPendingClaim _ done =>
      obtain ⟨-, -, -, -, rfl⟩ := addPendingClaim_eq_ok.mp done
      obtain rfl : _ = user := adds
      exact ⟨_, withClaim_pendingClaims.trans (if_pos rfl), rfl⟩
  | processClaims | cleanupExpiredClaims | expireClaimsBounded | elsewhere => exact adds.elim

section Step

variable {event : Event (State Ledger) ClaimLabel}
variable {history : List (Event (State Ledger) ClaimLabel)}

theorem ClaimStep.dated
    (stepped : ClaimStep token self event.before event.label event.after)
    (dated : Dated user history event.before.storage.claims) :
    Dated user (history ++ [event]) event.after.storage.claims := by
  intro claim pending
  have old : claim ∈ event.before.storage.claims.pendingClaims user →
      ∃ past ∈ history ++ [event],
        claim.expiresAt = (past.label.env.timestamp + defaultClaimExpiry) % 2 ^ 64 := by
    intro before
    obtain ⟨past, member, expiry⟩ := dated claim before
    exact ⟨past, List.mem_append_left _ member, expiry⟩
  by_cases adds : event.label.AddsFor user
  · obtain ⟨added, whole, expiry⟩ := stepped.added adds
    rw [whole, List.mem_append, List.mem_singleton] at pending
    rcases pending with before | rfl
    · exact old before
    · exact ⟨event, by simp, expiry⟩
  · exact old ((stepped.sublist adds).subset pending)

/-- Who is expired stays so. -/
theorem PendingClaim.Expired.later {claim : PendingClaim} {now later : Nat}
    (expired : claim.Expired now) (ordered : now ≤ later) : claim.Expired later :=
  ⟨expired.1, expired.2.trans_le ordered⟩

/-- A step keeps the expired claims in front at all later times exactly where it adds in
order. -/
theorem ClaimStep.expiredFirst_iff
    (stepped : ClaimStep token self event.before event.label event.after)
    (dated : Dated user history event.before.storage.claims)
    (past : ∀ earlier ∈ history, earlier.label.env.timestamp ≤ event.label.env.timestamp)
    (ordered : ∀ now, event.label.env.timestamp ≤ now →
      ExpiredFirst event.before.storage.claims user now) :
    (∀ now, event.label.env.timestamp ≤ now →
        ExpiredFirst event.after.storage.claims user now) ↔ AddsInOrder user event := by
  by_cases adds : event.label.AddsFor user
  · obtain ⟨claim, whole, expiry⟩ := stepped.added adds
    have first : ∀ now, event.label.env.timestamp ≤ now →
        (ExpiredFirst event.after.storage.claims user now ↔
          (claim.Expired now → ∀ other ∈ event.before.storage.claims.pendingClaims user,
            other.Expired now)) := by
      intro now later
      have before : Leading (expiredAt now) (event.before.storage.claims.pendingClaims user) :=
        ordered now later
      simp [ExpiredFirst, whole, leading_snoc, before, expiredAt]
    have short : defaultClaimExpiry < 2 ^ 64 := by decide
    constructor
    · intro kept _
      by_cases fits : event.label.env.timestamp + defaultClaimExpiry < 2 ^ 64
      · exact .inl fits
      · by_cases none : (event.label.env.timestamp + defaultClaimExpiry) % 2 ^ 64 = 0
        · exact .inr (.inl none)
        · -- The wrapped expiry lies in the past.
          have expired : claim.Expired event.label.env.timestamp := by
            unfold PendingClaim.Expired
            omega
          exact .inr (.inr ((first _ le_rfl).mp (kept _ le_rfl) expired))
    · intro inOrder now later
      rw [first now later]
      intro expired other pending
      rcases inOrder adds with fits | none | all
      · obtain ⟨recorded, member, date⟩ := dated other pending
        have before := past recorded member
        have positive : 0 < defaultClaimExpiry := by decide
        unfold PendingClaim.Expired at expired ⊢
        rw [expiry, Nat.mod_eq_of_lt fits] at expired
        rw [date, Nat.mod_eq_of_lt (by omega)]
        omega
      · exact absurd (expiry.trans none) (Nat.pos_iff_ne_zero.mp expired.1)
      · exact (all other pending).later later
  · refine iff_of_true (fun now later => ?_) fun added => absurd added adds
    exact Leading.sublist (ordered now later) (stepped.sublist adds)

end Step

/-- A step at the last time of the history. -/
theorem chronological_snoc {event : Event (State Ledger) ClaimLabel}
    (clock : Chronological (trace ++ [event])) :
    Chronological trace ∧
      ∀ past ∈ trace, past.label.env.timestamp ≤ event.label.env.timestamp := by
  obtain ⟨earlier, -, before⟩ := List.pairwise_append.mp clock
  exact ⟨earlier, fun past member => before past member event (by simp)⟩

theorem chronological_pair {first second : Event (State Ledger) ClaimLabel}
    (ordered : first.label.env.timestamp ≤ second.label.env.timestamp) :
    Chronological ([first] ++ [second]) :=
  List.pairwise_pair.mpr ordered

theorem sweepable_empty : Sweepable .empty where
  sound := soundClaims_empty
  bounded _ := by simp [ClaimStore.empty]

/-- In a chronological history the expired claims of a user lead after every event, at all
times from it on, exactly where every claim was added in order. -/
theorem expiredFirst_history (run : Run (ClaimStep token self) start trace final)
    (fresh : start.storage.claims = .empty) (clock : Chronological trace) :
    (∀ event ∈ trace, ∀ now, event.label.env.timestamp ≤ now →
        ExpiredFirst event.after.storage.claims user now) ↔
      ∀ event ∈ trace, AddsInOrder user event := by
  have leads : Dated user trace final.storage.claims ∧
      ((∀ event ∈ trace, ∀ now, event.label.env.timestamp ≤ now →
          ExpiredFirst event.after.storage.claims user now) ↔
        ∀ event ∈ trace, AddsInOrder user event) ∧
      ((∀ event ∈ trace, AddsInOrder user event) →
        ∀ now, (∀ past ∈ trace, past.label.env.timestamp ≤ now) →
          ExpiredFirst final.storage.claims user now) := by
    revert clock
    refine run.history (motive := fun trace state => Chronological trace →
      Dated user trace state.storage.claims ∧
        ((∀ event ∈ trace, ∀ now, event.label.env.timestamp ≤ now →
            ExpiredFirst event.after.storage.claims user now) ↔
          ∀ event ∈ trace, AddsInOrder user event) ∧
        ((∀ event ∈ trace, AddsInOrder user event) →
          ∀ now, (∀ past ∈ trace, past.label.env.timestamp ≤ now) →
            ExpiredFirst state.storage.claims user now)) ?_ ?_
    · intro _
      refine ⟨?_, by simp, fun _ now _ => ?_⟩
      · simp [Dated, fresh, ClaimStore.empty]
      · simp [ExpiredFirst, fresh, ClaimStore.empty, Leading]
    · intro trace event _ earlier stepped clock
      obtain ⟨before, past⟩ := chronological_snoc clock
      obtain ⟨dated, same, leading⟩ := earlier before
      have exact : (∀ event ∈ trace, AddsInOrder user event) →
          ((∀ now, event.label.env.timestamp ≤ now →
            ExpiredFirst event.after.storage.claims user now) ↔ AddsInOrder user event) :=
        fun good => stepped.expiredFirst_iff dated past fun now later =>
          leading good now fun other member => (past other member).trans later
      refine ⟨stepped.dated dated, ?_, fun good now passed => ?_⟩
      · simp only [List.forall_mem_append, List.forall_mem_singleton, same]
        exact and_congr_right exact
      · obtain ⟨old, last⟩ := List.forall_mem_append.mp good
        exact (exact old).mpr (last event (by simp)) now (passed event (by simp))
  exact leads.2.1

/-- In every run of the claims under a clock that never runs backwards, bounded sweeps end
as the full cleanup does, at all times from every state on and whatever their limits,
exactly where every claim of the user was added in order. -/
theorem bounded_expiry_iff (run : Run (ClaimStep token self) start trace final)
    (fresh : start.storage.claims = .empty) (clock : Chronological trace) :
    (∀ event ∈ trace, ∀ env : Env, event.label.env.timestamp ≤ env.timestamp →
        ∀ maxIters, EndsAsCleanup env event.after.storage user maxIters) ↔
      ∀ event ∈ trace, AddsInOrder user event := by
  have reachable := run.forall_after (fun _ => True)
    (fun state => Sweepable state.storage.claims) (fun _ _ => trivial)
    (fresh ▸ sweepable_empty) fun event _ before stepped => stepped.sweepable before
  rw [← expiredFirst_history run fresh clock]
  refine forall₂_congr fun event member => ?_
  constructor
  · intro ends now later
    let env : Env := .signedByAll self now
    exact (endsAsCleanup_iff env user (reachable event member)).mp (ends _ later)
  · intro leading env later
    exact (endsAsCleanup_iff env user (reachable event member)).mpr (leading _ later)

end Runs

section Sample

/-- Two claims recorded in order: wherever their user's sweeps begin, they end as the
cleanup does. -/
theorem bounded_expiry_sample :
    ∃ trace, Run (ClaimStep ReferenceLedger.token ⟨0⟩) claimSample trace twoAdded ∧
      trace.length = 2 ∧
        ∀ event ∈ trace, ∀ env : Env, event.label.env.timestamp ≤ env.timestamp →
          ∀ maxIters, EndsAsCleanup env event.after.storage ⟨5⟩ maxIters := by
  have run := (Run.single oneAdded_step).append (.single twoAdded_step)
  refine ⟨_, run, rfl, (bounded_expiry_iff run rfl (chronological_pair (by decide))).mpr ?_⟩
  simp only [List.forall_mem_append, List.forall_mem_singleton]
  exact ⟨fun _ => .inl (by decide), fun _ => .inl (by decide)⟩

/-- The expiry of this claim is the last time of its word. -/
def lateAdded : State ReferenceLedger :=
  sampleAdd (2 ^ 64 - 2592001) .feeRebate claimSample

/-- The expiry of the second claim has wrapped. -/
def wrappedAdded : State ReferenceLedger :=
  sampleAdd (2 ^ 64 - 1000) .disputeReward lateAdded

/-- A claim whose expiry wrapped stands behind one that is not expired; the sweeps of one
claim stop before it and the cleanup removes it. -/
theorem wrapped_claim_not_swept :
    ¬∀ (trace : List (Event (State ReferenceLedger) ClaimLabel)) (final : State ReferenceLedger),
      Run (ClaimStep ReferenceLedger.token ⟨0⟩) claimSample trace final → Chronological trace →
        ∀ event ∈ trace, ∀ env : Env, event.label.env.timestamp ≤ env.timestamp →
          ∀ user maxIters, EndsAsCleanup env event.after.storage user maxIters := by
  intro always
  have first : ClaimStep ReferenceLedger.token ⟨0⟩ claimSample
      ⟨.signedByAll ⟨0⟩ (2 ^ 64 - 2592001), .addPendingClaim ⟨5⟩ .feeRebate 4 0 none 1⟩
      lateAdded :=
    .addPendingClaim rfl rfl
  have second : ClaimStep ReferenceLedger.token ⟨0⟩ lateAdded
      ⟨.signedByAll ⟨0⟩ (2 ^ 64 - 1000), .addPendingClaim ⟨5⟩ .disputeReward 4 0 none 2⟩
      wrappedAdded :=
    .addPendingClaim rfl rfl
  have run := (Run.single first).append (.single second)
  have sweepable : Sweepable wrappedAdded.storage.claims :=
    second.sweepable (first.sweepable sweepable_empty)
  let env : Env := .signedByAll ⟨0⟩ (2 ^ 64 - 1000)
  have ordered := (endsAsCleanup_iff env ⟨5⟩ sweepable).mp fun maxIters =>
    always _ _ run (chronological_pair (by decide)) _
      (List.mem_append_right _ List.mem_cons_self) env le_rfl ⟨5⟩ maxIters
  exact absurd ordered (by decide +kernel)

end Sample

end CredenceBond
