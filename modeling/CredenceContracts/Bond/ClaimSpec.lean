import CredenceContracts.Bond.Claims
import CredenceContracts.Library.Run
import CredenceContracts.Library.Sift

/-!
# What each claim operation does

Payment and both sweeps split the pending list of one user; one relation says
what any operation can do to the store, and the invariants follow from it.
-/

namespace CredenceBond

open Soroban MachineInt

section Store

variable {claims : ClaimStore} {user other : Address} {pending : List PendingClaim}
variable {claimable : Int}

@[simp] theorem setPending_pendingClaims :
    (claims.setPending user pending claimable).pendingClaims other =
      if other = user then pending else claims.pendingClaims other := by
  simp [ClaimStore.setPending, Function.update_apply]

@[simp] theorem setPending_claimableAmount :
    (claims.setPending user pending claimable).claimableAmount other =
      if other = user then claimable else claims.claimableAmount other := by
  simp [ClaimStore.setPending, Function.update_apply]

end Store

section Sums

variable {left right : List PendingClaim} {claim : PendingClaim}

@[simp] theorem claimSum_nil : claimSum [] = 0 :=
  rfl

@[simp] theorem claimSum_cons : claimSum (claim :: left) = claim.amount + claimSum left :=
  rfl

@[simp] theorem claimSum_append : claimSum (left ++ right) = claimSum left + claimSum right := by
  simp [claimSum]

theorem claimSum_perm (same : left.Perm right) : claimSum left = claimSum right :=
  (same.map _).sum_eq

theorem claimSum_pos (positive : ∀ claim ∈ left, 0 < claim.amount) (some : left ≠ []) :
    0 < claimSum left := by
  induction left with
  | nil => exact absurd rfl some
  | cons claim rest ih =>
      obtain ⟨head, tail⟩ := List.forall_mem_cons.mp positive
      cases rest with
      | nil => simpa using head
      | cons next rest =>
          have later := ih tail (by simp)
          rw [claimSum_cons]
          omega

theorem claimSum_nonneg (positive : ∀ claim ∈ left, 0 < claim.amount) : 0 ≤ claimSum left := by
  by_cases empty : left = []
  · simp [empty]
  · exact (claimSum_pos positive empty).le

end Sums

section Operations

variable {env : Env} {storage stored : Storage} {user : Address}

/-- The record of a claim that is added now. -/
def ClaimStore.newClaim (claims : ClaimStore) (now : Nat) (claimType : ClaimType)
    (amount : Int) (sourceId : Nat) (metadata : Option String) : PendingClaim where
  claimId := claims.claimCounter + 1
  claimType
  amount
  createdAt := now
  expiresAt := (now + defaultClaimExpiry) % 2 ^ 64
  sourceId
  metadata := metadata.getD ""
  processed := false

/-- The store once a claim was recorded. -/
def ClaimStore.withClaim (claims : ClaimStore) (user : Address) (claim : PendingClaim) :
    ClaimStore :=
  ({ claims with
    claimCounter := claim.claimId
    claimById := Function.update claims.claimById claim.claimId (some claim) }).setPending
      user (claims.pendingClaims user ++ [claim]) (claims.claimableAmount user + claim.amount)

theorem addPendingClaim_eq_ok {claimType : ClaimType} {amount : Int} {sourceId claimId : Nat}
    {metadata : Option String} :
    addPendingClaim env storage user claimType amount sourceId metadata =
        .ok (stored, claimId) ↔
      0 < amount ∧ storage.claims.claimCounter + 1 < 2 ^ 64 ∧
        FitsI128 (storage.claims.claimableAmount user + amount) ∧
          claimId = storage.claims.claimCounter + 1 ∧
            stored = ({ storage with
              claims := storage.claims.withClaim user (storage.claims.newClaim env.timestamp
                claimType amount sourceId metadata) }).publish
              (.claimAdded user claimType amount sourceId) := by
  simp only [addPendingClaim, getNextClaimId, Outcome.bind_eq_ok, Outcome.rejectIf_eq_ok,
    checkedU64_eq_ok, checkedI128_eq_ok, Outcome.pure_eq_ok, Prod.mk.injEq, not_le]
  constructor
  · rintro ⟨-, positive, _, ⟨counted, rfl⟩, _, ⟨fits, rfl⟩, rfl, rfl⟩
    exact ⟨positive, counted, fits, rfl, rfl⟩
  · rintro ⟨positive, counted, fits, rfl, rfl⟩
    exact ⟨(), positive, _, ⟨counted, rfl⟩, _, ⟨fits, rfl⟩, rfl, rfl⟩

theorem storeRemaining_eq_ok {claims after : ClaimStore} {left : List PendingClaim}
    {removedAmount : Int} :
    storeRemaining claims user left removedAmount = .ok after ↔
      (left = [] ∨ FitsI128 (claims.claimableAmount user - removedAmount)) ∧
        after = claims.setPending user left
          (if left = [] then 0 else claims.claimableAmount user - removedAmount) := by
  unfold storeRemaining
  split <;> simp_all

/-- What the payment loop does with a claim. -/
def PendingClaim.verdict (now : Nat) (claimTypes : List ClaimType) (claim : PendingClaim) :
    Sift.Verdict :=
  if claim.processed then .keep
  else if claim.Expired now then .drop
  else if ¬claim.Selected claimTypes then .keep
  else .take

/-- The payment loop is a bounded pass that takes what it pays. -/
theorem processLoop_ok {now limit : Nat} {claimTypes : List ClaimType}
    {pending : List PendingClaim} {batch result : Batch}
    (done : processLoop now claimTypes limit pending batch = .ok result) :
    result.processed = batch.processed ++
        (Sift.taken (·.verdict now claimTypes) (limit - batch.processed.length)
          pending).map PendingClaim.paid ∧
      result.remaining = batch.remaining ++
        Sift.kept (·.verdict now claimTypes) (limit - batch.processed.length) pending ∧
      result.totalAmount = batch.totalAmount + claimSum
        (Sift.taken (·.verdict now claimTypes) (limit - batch.processed.length) pending) := by
  induction pending generalizing batch with
  | nil =>
      obtain rfl : result = batch := by simpa [processLoop] using done
      simp
  | cons claim rest ih =>
      unfold processLoop at done
      split at done
      · rename_i full
        obtain rfl : result = _ := by simpa using done
        simp [Nat.sub_eq_zero_of_le full]
      · rename_i open_
        obtain ⟨room, left⟩ : ∃ room, limit - batch.processed.length = room + 1 :=
          ⟨limit - batch.processed.length - 1, by omega⟩
        rw [left]
        split at done
        · rename_i already
          have keeps : claim.verdict now claimTypes = .keep := by
            simp [PendingClaim.verdict, already]
          simpa [Sift.taken_cons_of_not_take, Sift.kept_cons_of_keep, keeps, left]
            using ih done
        split at done
        · rename_i pending expired
          have drops : claim.verdict now claimTypes = .drop := by
            simp [PendingClaim.verdict, pending, expired]
          simpa [Sift.taken_cons_of_not_take, Sift.kept_cons_of_drop, drops, left]
            using ih done
        split at done
        · rename_i pending expired filtered
          have keeps : claim.verdict now claimTypes = .keep := by
            simp [PendingClaim.verdict, expired, filtered]
          simpa [Sift.taken_cons_of_not_take, Sift.kept_cons_of_keep, keeps, left]
            using ih done
        · rename_i pending expired filtered
          have takes : claim.verdict now claimTypes = .take := by
            simp only [PendingClaim.verdict, pending, expired, filtered, if_false]
            rfl
          obtain ⟨total, counted, later⟩ := Outcome.bind_eq_ok.mp done
          obtain ⟨-, rfl⟩ := checkedI128_eq_ok.mp counted
          have smaller : limit - (batch.processed.length + 1) = room := by omega
          simpa [Sift.taken_cons_of_take, Sift.kept_cons_of_take, takes, smaller, add_assoc]
            using ih later

/-- The claims that a payment pays. -/
def ClaimStore.payable (claims : ClaimStore) (now : Nat) (user : Address)
    (claimTypes : List ClaimType) (maxClaims : Nat) : List PendingClaim :=
  Sift.taken (·.verdict now claimTypes) (batchLimit maxClaims) (claims.pendingClaims user)

/-- The claims that a payment removes unpaid. -/
def ClaimStore.lapsing (claims : ClaimStore) (now : Nat) (user : Address)
    (claimTypes : List ClaimType) (maxClaims : Nat) : List PendingClaim :=
  Sift.dropped (·.verdict now claimTypes) (batchLimit maxClaims) (claims.pendingClaims user)

/-- The claims that a payment leaves pending. -/
def ClaimStore.staying (claims : ClaimStore) (now : Nat) (user : Address)
    (claimTypes : List ClaimType) (maxClaims : Nat) : List PendingClaim :=
  Sift.kept (·.verdict now claimTypes) (batchLimit maxClaims) (claims.pendingClaims user)

variable {claims : ClaimStore} {claimTypes : List ClaimType} {maxClaims : Nat} {batch : Batch}

/-- What a payment does with each claim of the user. -/
theorem ClaimStore.batch_perm (claims : ClaimStore) (now : Nat) (user : Address)
    (claimTypes : List ClaimType) (maxClaims : Nat) :
    (claims.payable now user claimTypes maxClaims ++
      claims.lapsing now user claimTypes maxClaims ++
        claims.staying now user claimTypes maxClaims).Perm (claims.pendingClaims user) :=
  Sift.perm _ _ _

theorem processBatch_ok (done : processBatch env claims user claimTypes maxClaims = .ok batch) :
    env.authorized user = true ∧
      claims.payable env.timestamp user claimTypes maxClaims ≠ [] ∧
        batch.processed =
          (claims.payable env.timestamp user claimTypes maxClaims).map PendingClaim.paid ∧
        batch.remaining = claims.staying env.timestamp user claimTypes maxClaims ∧
        batch.totalAmount =
          claimSum (claims.payable env.timestamp user claimTypes maxClaims) := by
  simp only [processBatch, Outcome.bind_eq_ok, requireAuth_eq_ok, Outcome.rejectIf_eq_ok,
    Outcome.pure_eq_ok] at done
  obtain ⟨_, authorized, _, _, _, looped, _, some, rfl⟩ := done
  obtain ⟨processed, remaining, total⟩ := processLoop_ok looped
  simp only [List.length_nil, Nat.sub_zero, List.nil_append, zero_add] at processed remaining total
  refine ⟨authorized, fun none => some ?_, processed, remaining, total⟩
  rw [processed]
  exact List.map_eq_nil_iff.mpr none

section Payment

variable {Ledger : Type} {token : TokenInterface Ledger} {state after : State Ledger}
variable {result : ClaimResult}

theorem processClaims_ok
    (done : processClaims env token state user claimTypes maxClaims = .ok (after, result)) :
    ∃ batch, processBatch env state.storage.claims user claimTypes maxClaims = .ok batch ∧
      result.totalAmount = batch.totalAmount ∧
      payBatch env token state user batch.totalAmount = .ok after.ledger ∧
      after.storage = ({ state.storage with
        claims := { state.storage.claims with claimById := batch.claimById }.setPending user
          batch.remaining
          (if batch.remaining = [] then 0
            else state.storage.claims.claimableAmount user - batch.totalAmount) }).publish
        (.claimsProcessed user result) := by
  simp only [processClaims, Outcome.bind_eq_ok, Outcome.pure_eq_ok, Prod.mk.injEq,
    storeRemaining_eq_ok] at done
  obtain ⟨batch, batched, _, ⟨-, rfl⟩, _, paid, rfl, rfl⟩ := done
  exact ⟨batch, batched, rfl, paid, rfl⟩

theorem payBatch_eq_ok {amount : Int} {ledger : Ledger} (positive : 0 < amount) :
    payBatch env token state user amount = .ok ledger ↔
      ∃ asset, state.storage.bondToken = some asset ∧
        token.transfer state.ledger asset env.currentContractAddress user amount =
          some ledger := by
  simp [payBatch, positive]

end Payment

theorem expiredAmount_ok {expired : List PendingClaim} {amount : Int}
    (summed : expiredAmount expired = .ok amount) : amount = claimSum expired := by
  have general : ∀ (rest : List PendingClaim) (start : Int), rest.foldlM
      (fun total claim => checkedI128 (total + claim.amount)
        (Failure.panicked "expired amount overflow")) start = .ok amount →
      amount = start + claimSum rest := by
    intro rest
    induction rest with
    | nil =>
        intro start folded
        simpa using folded
    | cons claim rest ih =>
        intro start folded
        simp only [List.foldlM_cons, Outcome.bind_eq_ok, checkedI128_eq_ok] at folded
        obtain ⟨_, ⟨-, rfl⟩, later⟩ := folded
        rw [ih _ later, claimSum_cons, add_assoc]
  simpa using general expired 0 summed

theorem pruneClaims_ok {expired valid : List PendingClaim} {count : Nat}
    (done : pruneClaims storage user expired valid = .ok (stored, count)) :
    expired = [] ∧ stored = storage ∨
      stored = ({ storage with
        claims := storage.claims.setPending user valid
          (if valid = [] then 0
            else storage.claims.claimableAmount user - claimSum expired) }).publish
        (.claimsExpired user expired.length (claimSum expired)) := by
  simp only [pruneClaims, Outcome.bind_eq_ok] at done
  obtain ⟨_, summed, done⟩ := done
  obtain rfl := expiredAmount_ok summed
  split at done
  · rename_i none
    exact .inl ⟨none, by simpa using (Prod.mk.inj (Except.ok.inj done)).1.symm⟩
  · simp only [Outcome.bind_eq_ok, storeRemaining_eq_ok, Outcome.pure_eq_ok,
      Prod.mk.injEq] at done
    obtain ⟨_, ⟨-, rfl⟩, rfl, -⟩ := done
    exact .inr rfl

end Operations

section Changes

/-- What an operation can do to the claims: add one to a user, or remove some of
one user's.  The list names the claims that leave without coming off the running
total; a user left without claims has no total. -/
inductive ClaimChange (before : ClaimStore) : List PendingClaim → ClaimStore → Prop where
  | kept : ClaimChange before [] before
  | added {user : Address} {claim : PendingClaim} :
      0 < claim.amount → claim.claimId = before.claimCounter + 1 → claim.processed = false →
      ClaimChange before [] (before.withClaim user claim)
  | removed {user : Address} {counted lost left : List PendingClaim}
      {claimById : Nat → Option PendingClaim} :
      (counted ++ lost ++ left).Perm (before.pendingClaims user) →
      left.Sublist (before.pendingClaims user) →
      ClaimChange before (if left = [] then [] else lost)
        ({ before with claimById }.setPending user left
          (if left = [] then 0 else before.claimableAmount user - claimSum counted))

variable {env : Env} {storage stored : Storage} {user : Address}

theorem addPendingClaim_change {claimType : ClaimType} {amount : Int}
    {sourceId claimId : Nat} {metadata : Option String}
    (done : addPendingClaim env storage user claimType amount sourceId metadata =
      .ok (stored, claimId)) : ClaimChange storage.claims [] stored.claims := by
  obtain ⟨positive, -, -, -, rfl⟩ := addPendingClaim_eq_ok.mp done
  exact .added positive rfl rfl

/-- The claims that a payment removes unpaid while the running total of the user
goes on counting them. -/
def ClaimStore.forfeited (claims : ClaimStore) (now : Nat) (user : Address)
    (claimTypes : List ClaimType) (maxClaims : Nat) : List PendingClaim :=
  if claims.staying now user claimTypes maxClaims = [] then []
  else claims.lapsing now user claimTypes maxClaims

theorem processClaims_change {Ledger : Type} {token : TokenInterface Ledger}
    {state after : State Ledger} {claimTypes : List ClaimType} {maxClaims : Nat}
    {result : ClaimResult}
    (done : processClaims env token state user claimTypes maxClaims = .ok (after, result)) :
    ClaimChange state.storage.claims
      (state.storage.claims.forfeited env.timestamp user claimTypes maxClaims)
      after.storage.claims := by
  obtain ⟨batch, batched, -, -, changed⟩ := processClaims_ok done
  obtain ⟨-, -, -, remaining, total⟩ := processBatch_ok batched
  rw [changed, remaining, total]
  exact .removed (ClaimStore.batch_perm ..) (Sift.kept_sublist _ _ _)

/-- A sweep leaves the claims alone or removes some claims of one user, all of
which come off the running total. -/
def Sweeps (user : Address) (before after : ClaimStore) : Prop :=
  after = before ∨ ∃ expired valid : List PendingClaim,
    (expired ++ valid).Perm (before.pendingClaims user) ∧
      valid.Sublist (before.pendingClaims user) ∧
        after = before.setPending user valid
          (if valid = [] then 0 else before.claimableAmount user - claimSum expired)

theorem pruneClaims_sweeps {expired valid : List PendingClaim} {count : Nat}
    (split : (expired ++ valid).Perm (storage.claims.pendingClaims user))
    (ordered : valid.Sublist (storage.claims.pendingClaims user))
    (done : pruneClaims storage user expired valid = .ok (stored, count)) :
    Sweeps user storage.claims stored.claims := by
  rcases pruneClaims_ok done with ⟨-, rfl⟩ | rfl
  · exact .inl rfl
  · exact .inr ⟨expired, valid, split, ordered, rfl⟩

theorem cleanupExpiredClaims_sweeps {count : Nat}
    (done : cleanupExpiredClaims env storage user = .ok (stored, count)) :
    Sweeps user storage.claims stored.claims := by
  simp only [cleanupExpiredClaims] at done
  split at done
  · obtain ⟨rfl, -⟩ := Prod.mk.inj (Except.ok.inj done)
    exact .inl rfl
  · refine pruneClaims_sweeps ?_ List.filter_sublist done
    simpa using List.filter_append_perm (·.Expired env.timestamp)
      (storage.claims.pendingClaims user)

theorem expireClaimsBounded_sweeps {count maxIter : Nat}
    (done : expireClaimsBounded env storage user maxIter = .ok (stored, count)) :
    Sweeps user storage.claims stored.claims := by
  simp only [expireClaimsBounded] at done
  split at done
  · obtain ⟨rfl, -⟩ := Prod.mk.inj (Except.ok.inj done)
    exact .inl rfl
  · have whole := List.take_append_drop (batchLimit maxIter) (storage.claims.pendingClaims user)
    refine pruneClaims_sweeps ?_ ?_ done
    · have split := (List.filter_append_perm (fun claim : PendingClaim =>
        claim.Swept env.timestamp) ((storage.claims.pendingClaims user).take
          (batchLimit maxIter))).append_right
            ((storage.claims.pendingClaims user).drop (batchLimit maxIter))
      rw [whole] at split
      simpa using split
    · conv_rhs => rw [← whole]
      exact List.filter_sublist.append (.refl _)

theorem Sweeps.change {before after : ClaimStore} (sweeps : Sweeps user before after) :
    ClaimChange before [] after := by
  rcases sweeps with rfl | ⟨expired, valid, split, ordered, rfl⟩
  · exact .kept
  · have parts : (expired ++ [] ++ valid).Perm (before.pendingClaims user) := by
      simpa using split
    have change := @ClaimChange.removed before user expired [] valid before.claimById
      parts ordered
    rw [ite_self] at change
    exact change

end Changes

section Invariant

variable {before after : ClaimStore} {uncounted : List PendingClaim}

/-- Stored claims are pending and positive, their ids were handed out and are in
order, no claim belongs to two users and the running totals cover them. -/
structure SoundClaims (claims : ClaimStore) : Prop where
  unprocessed : ∀ {user claim}, claim ∈ claims.pendingClaims user → claim.processed = false
  positive : ∀ {user claim}, claim ∈ claims.pendingClaims user → 0 < claim.amount
  numbered : ∀ {user claim}, claim ∈ claims.pendingClaims user →
    claim.claimId ≤ claims.claimCounter
  increasing : ∀ user, ((claims.pendingClaims user).map PendingClaim.claimId).Pairwise (· < ·)
  owned : ∀ {user other claim twin}, claim ∈ claims.pendingClaims user →
    twin ∈ claims.pendingClaims other → claim.claimId = twin.claimId → user = other
  covered : ∀ user, claimSum (claims.pendingClaims user) ≤ claims.claimableAmount user

theorem soundClaims_empty : SoundClaims .empty where
  unprocessed member := by simp [ClaimStore.empty] at member
  positive member := by simp [ClaimStore.empty] at member
  numbered member := by simp [ClaimStore.empty] at member
  increasing _ := by simp [ClaimStore.empty]
  owned member := by simp [ClaimStore.empty] at member
  covered _ := by simp [ClaimStore.empty]

@[simp] theorem withClaim_pendingClaims {user other : Address} {claim : PendingClaim} :
    (before.withClaim user claim).pendingClaims other =
      if other = user then before.pendingClaims user ++ [claim]
      else before.pendingClaims other := by
  simp [ClaimStore.withClaim]

@[simp] theorem withClaim_claimableAmount {user other : Address} {claim : PendingClaim} :
    (before.withClaim user claim).claimableAmount other =
      if other = user then before.claimableAmount user + claim.amount
      else before.claimableAmount other := by
  simp [ClaimStore.withClaim]

@[simp] theorem withClaim_claimCounter {user : Address} {claim : PendingClaim} :
    (before.withClaim user claim).claimCounter = claim.claimId :=
  rfl

/-- A claim pending after an addition is the new one or was pending before. -/
theorem mem_withClaim {user other : Address} {claim member : PendingClaim} :
    member ∈ (before.withClaim user claim).pendingClaims other ↔
      member ∈ before.pendingClaims other ∨ other = user ∧ member = claim := by
  rw [withClaim_pendingClaims]
  split
  · rename_i same
    simp [same]
  · rename_i different
    simp [different]

theorem soundClaims_added {user : Address} {claim : PendingClaim} (sound : SoundClaims before)
    (positive : 0 < claim.amount) (numbered : claim.claimId = before.claimCounter + 1)
    (unprocessed : claim.processed = false) : SoundClaims (before.withClaim user claim) where
  unprocessed member := by
    rcases mem_withClaim.mp member with old | ⟨-, rfl⟩
    · exact sound.unprocessed old
    · exact unprocessed
  positive member := by
    rcases mem_withClaim.mp member with old | ⟨-, rfl⟩
    · exact sound.positive old
    · exact positive
  numbered member := by
    rw [withClaim_claimCounter, numbered]
    rcases mem_withClaim.mp member with old | ⟨-, rfl⟩
    · exact (sound.numbered old).trans (Nat.le_succ _)
    · exact numbered.le
  increasing other := by
    rw [withClaim_pendingClaims]
    split
    · rw [List.map_append]
      refine List.pairwise_append.mpr ⟨sound.increasing user, by simp, ?_⟩
      intro id stored newest fresh
      obtain ⟨old, member, rfl⟩ := List.mem_map.mp stored
      obtain rfl : newest = claim.claimId := by simpa using fresh
      exact numbered ▸ Nat.lt_succ_of_le (sound.numbered member)
    · exact sound.increasing other
  owned first second same := by
    rcases mem_withClaim.mp first with old | ⟨rfl, rfl⟩ <;>
      rcases mem_withClaim.mp second with older | ⟨rfl, rfl⟩
    · exact sound.owned old older same
    · have := sound.numbered old
      omega
    · have := sound.numbered older
      omega
    · rfl
  covered other := by
    rw [withClaim_pendingClaims, withClaim_claimableAmount]
    split
    · simpa using sound.covered user
    · exact sound.covered other

/-- A claim pending after a removal was pending before. -/
theorem mem_of_mem_left {user other : Address} {left : List PendingClaim}
    {member : PendingClaim} (ordered : left.Sublist (before.pendingClaims user))
    (pending : member ∈ if other = user then left else before.pendingClaims other) :
    member ∈ before.pendingClaims other := by
  split at pending
  · rename_i same
    exact same ▸ ordered.subset pending
  · exact pending

/-- A split of a user's claims in three splits their sum, and claims that are lost
were worth something. -/
theorem SoundClaims.split_sum {user : Address} {counted lost left : List PendingClaim}
    (sound : SoundClaims before)
    (split : (counted ++ lost ++ left).Perm (before.pendingClaims user)) :
    claimSum (before.pendingClaims user) =
        claimSum counted + claimSum lost + claimSum left ∧
      0 ≤ claimSum lost ∧ (lost ≠ [] → 0 < claimSum lost) := by
  have positive : ∀ claim ∈ lost, 0 < claim.amount := fun claim member =>
    sound.positive (split.subset (List.mem_append_left _ (List.mem_append_right _ member)))
  refine ⟨?_, claimSum_nonneg positive, claimSum_pos positive⟩
  rw [← claimSum_perm split, claimSum_append, claimSum_append]

theorem soundClaims_removed {user : Address} {counted lost left : List PendingClaim}
    {claimById : Nat → Option PendingClaim} (sound : SoundClaims before)
    (split : (counted ++ lost ++ left).Perm (before.pendingClaims user))
    (ordered : left.Sublist (before.pendingClaims user)) :
    SoundClaims ({ before with claimById }.setPending user left
      (if left = [] then 0 else before.claimableAmount user - claimSum counted)) where
  unprocessed member := by
    rw [setPending_pendingClaims] at member
    exact sound.unprocessed (mem_of_mem_left ordered member)
  positive member := by
    rw [setPending_pendingClaims] at member
    exact sound.positive (mem_of_mem_left ordered member)
  numbered member := by
    rw [setPending_pendingClaims] at member
    exact sound.numbered (mem_of_mem_left ordered member)
  increasing other := by
    rw [setPending_pendingClaims]
    split
    · exact (sound.increasing user).sublist (ordered.map _)
    · exact sound.increasing other
  owned first second := by
    rw [setPending_pendingClaims] at first second
    exact sound.owned (mem_of_mem_left ordered first) (mem_of_mem_left ordered second)
  covered other := by
    rw [setPending_pendingClaims, setPending_claimableAmount]
    split
    · obtain ⟨total, losing, -⟩ := sound.split_sum split
      have covered := sound.covered user
      split
      · rename_i none
        simp [none]
      · omega
    · exact sound.covered other

theorem ClaimChange.sound (change : ClaimChange before uncounted after)
    (sound : SoundClaims before) : SoundClaims after := by
  cases change with
  | kept => exact sound
  | added positive numbered unprocessed =>
      exact soundClaims_added sound positive numbered unprocessed
  | removed split ordered => exact soundClaims_removed sound split ordered

/-- The claims that a step removes uncounted. -/
def ClaimLabel.forfeited (label : ClaimLabel) (claims : ClaimStore) : List PendingClaim :=
  match label.act with
  | .processClaims user claimTypes maxClaims _ _ =>
      claims.forfeited label.env.timestamp user claimTypes maxClaims
  | _ => []

theorem ClaimStep.change {Ledger : Type} {token : TokenInterface Ledger} {self : Address}
    {state next : State Ledger} {label : ClaimLabel}
    (stepped : ClaimStep token self state label next) :
    ClaimChange state.storage.claims (label.forfeited state.storage.claims)
      next.storage.claims := by
  cases stepped with
  | addPendingClaim _ done => exact addPendingClaim_change done
  | processClaims _ _ done => exact processClaims_change done
  | cleanupExpiredClaims _ done => exact (cleanupExpiredClaims_sweeps done).change
  | expireClaimsBounded _ done => exact (expireClaimsBounded_sweeps done).change
  | elsewhere same => exact same ▸ .kept

end Invariant

/-- A contract without claims that has a bond token. -/
def claimSample : State ReferenceLedger where
  storage := { Storage.deployed with bondToken := some ⟨9⟩ }
  ledger := .uniform 100

end CredenceBond
