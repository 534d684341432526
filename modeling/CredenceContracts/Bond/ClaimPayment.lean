import CredenceContracts.Bond.ClaimSpec

/-!
# Every claim is paid once at most

An id is handed out once and belongs to one user.  Once a payment has marked a
claim it is pending for nobody, so no later payment can meet it again, and what
a user was paid together with what is pending stays within what was added.
-/

namespace CredenceBond

open Soroban MachineInt Transition

namespace ClaimLabel

/-- The id that the step handed out. -/
def handedOut (label : ClaimLabel) : Option Nat :=
  match label.act with
  | .addPendingClaim _ _ _ _ _ claimId => some claimId
  | _ => none

/-- The claims that the step paid. -/
def paid (label : ClaimLabel) : List PendingClaim :=
  match label.act with
  | .processClaims _ _ _ paid _ => paid
  | _ => []

/-- The claims that the step paid to a user. -/
def paidClaims (user : Address) (label : ClaimLabel) : List PendingClaim :=
  match label.act with
  | .processClaims payee _ _ paid _ => if payee = user then paid else []
  | _ => []

/-- The amount that the step paid to a user. -/
def paidTo (user : Address) (label : ClaimLabel) : Int :=
  match label.act with
  | .processClaims payee _ _ _ result => if payee = user then result.totalAmount else 0
  | _ => 0

/-- The amount that the step added for a user. -/
def addedFor (user : Address) (label : ClaimLabel) : Int :=
  match label.act with
  | .addPendingClaim owner _ amount _ _ _ => if owner = user then amount else 0
  | _ => 0

/-- The step added this claim for this user: its id, type, amount and source are
those of the call and its expiry counts from then. -/
def Adds (user : Address) (claim : PendingClaim) (label : ClaimLabel) : Prop :=
  ∃ metadata, label.act = .addPendingClaim user claim.claimType claim.amount claim.sourceId
      metadata claim.claimId ∧
    claim.expiresAt = (label.env.timestamp + defaultClaimExpiry) % 2 ^ 64

/-- The step handed out no id and paid exactly these claims, to this user. -/
structure Settles (label : ClaimLabel) (user : Address) (settled : List PendingClaim) :
    Prop where
  handedOut : label.handedOut = none
  paid : label.paid = settled.map PendingClaim.paid
  paidTo : ∀ payee, label.paidTo payee = if payee = user then claimSum settled else 0
  addedFor : ∀ payee, label.addedFor payee = 0

end ClaimLabel

theorem claimSum_map_paid (claims : List PendingClaim) :
    claimSum (claims.map PendingClaim.paid) = claimSum claims := by
  induction claims with
  | nil => rfl
  | cons claim rest ih =>
      rw [List.map_cons, claimSum_cons, claimSum_cons, ih]
      rfl

theorem map_paid_claimId (claims : List PendingClaim) :
    (claims.map PendingClaim.paid).map PendingClaim.claimId =
      claims.map PendingClaim.claimId := by
  rw [List.map_map]
  rfl

theorem claimSum_flatMap {α : Type} (items : List α) (part : α → List PendingClaim) :
    claimSum (items.flatMap part) = (items.map fun item => claimSum (part item)).sum := by
  induction items with
  | nil => rfl
  | cons item rest ih => rw [List.flatMap_cons, claimSum_append, ih, List.map_cons,
      List.sum_cons]

section History

variable {Ledger : Type} {trace : List (Event (State Ledger) ClaimLabel)}
variable {event : Event (State Ledger) ClaimLabel} {before after : ClaimStore}

/-- What the history of a run says about the claims it ends with. -/
structure PaidOnce (trace : List (Event (State Ledger) ClaimLabel)) (claims : ClaimStore) :
    Prop where
  sound : SoundClaims claims
  distinct : (trace.filterMap (·.label.handedOut)).Nodup
  issued : ∀ id ∈ trace.filterMap (·.label.handedOut), id ≤ claims.claimCounter
  added : ∀ {user claim}, claim ∈ claims.pendingClaims user →
    ∃ addition ∈ trace, addition.label.Adds user claim
  counted : ∀ claim ∈ trace.flatMap (·.label.paid), claim.claimId ≤ claims.claimCounter
  gone : ∀ claim ∈ trace.flatMap (·.label.paid), ∀ {user twin},
    twin ∈ claims.pendingClaims user → twin.claimId ≠ claim.claimId
  once : ((trace.flatMap (·.label.paid)).map PendingClaim.claimId).Nodup
  accounted : ∀ user, (trace.map (·.label.paidTo user)).sum +
    claimSum (claims.pendingClaims user) ≤ (trace.map (·.label.addedFor user)).sum

theorem paidOnce_empty : PaidOnce ([] : List (Event (State Ledger) ClaimLabel)) .empty where
  sound := soundClaims_empty
  distinct := by simp
  issued := by simp
  added member := by simp [ClaimStore.empty] at member
  counted := by simp
  gone := by simp
  once := by simp
  accounted _ := by simp [ClaimStore.empty]

/-- A step that adds a claim keeps the history in order: the id is new. -/
theorem PaidOnce.add (history : PaidOnce trace before) {user : Address}
    {claim : PendingClaim} (positive : 0 < claim.amount)
    (numbered : claim.claimId = before.claimCounter + 1)
    (unprocessed : claim.processed = false)
    (handedOut : event.label.handedOut = some claim.claimId) (paid : event.label.paid = [])
    (paidTo : ∀ payee, event.label.paidTo payee = 0)
    (addedFor : ∀ owner, event.label.addedFor owner = if owner = user then claim.amount else 0)
    (adds : event.label.Adds user claim) :
    PaidOnce (trace ++ [event]) (before.withClaim user claim) where
  sound := soundClaims_added history.sound positive numbered unprocessed
  distinct := by
    have fresh : claim.claimId ∉ trace.filterMap (·.label.handedOut) := by
      intro member
      have := history.issued _ member
      omega
    simp only [List.filterMap_append, List.filterMap_cons, handedOut, List.filterMap_nil]
    exact List.nodup_append.mpr ⟨history.distinct, by simp, by
      intro old member new newest same
      obtain rfl : new = claim.claimId := by simpa using newest
      exact fresh (same ▸ member)⟩
  issued id member := by
    rw [withClaim_claimCounter]
    simp only [List.filterMap_append, List.filterMap_cons, handedOut, List.filterMap_nil,
      List.mem_append, List.mem_singleton] at member
    rcases member with old | rfl
    · have := history.issued id old
      omega
    · exact le_rfl
  added member := by
    rcases mem_withClaim.mp member with old | ⟨rfl, rfl⟩
    · obtain ⟨addition, recorded, adding⟩ := history.added old
      exact ⟨addition, List.mem_append_left _ recorded, adding⟩
    · exact ⟨event, List.mem_append_right _ List.mem_cons_self, adds⟩
  counted := by
    simp only [List.flatMap_append, List.flatMap_cons, paid, List.flatMap_nil, List.append_nil]
    intro old member
    have := history.counted old member
    rw [withClaim_claimCounter]
    omega
  gone := by
    simp only [List.flatMap_append, List.flatMap_cons, paid, List.flatMap_nil, List.append_nil]
    intro old member owner twin pending
    rcases mem_withClaim.mp pending with stored | ⟨-, rfl⟩
    · exact history.gone old member stored
    · have := history.counted old member
      omega
  once := by
    simpa only [List.flatMap_append, List.flatMap_cons, paid, List.flatMap_nil,
      List.append_nil] using history.once
  accounted owner := by
    have accounted := history.accounted owner
    rw [List.map_append, List.map_append, List.sum_append, List.sum_append,
      withClaim_pendingClaims]
    simp only [List.map_cons, List.map_nil, List.sum_cons, List.sum_nil, paidTo, addedFor]
    split
    · rename_i same
      rw [claimSum_append, claimSum_cons, claimSum_nil, ← same]
      omega
    · omega

section Split

variable {user : Address} {settled lost left : List PendingClaim}

theorem SoundClaims.nodup (sound : SoundClaims before) (user : Address) :
    ((before.pendingClaims user).map PendingClaim.claimId).Nodup :=
  (sound.increasing user).imp Nat.ne_of_lt

theorem mem_settled (split : (settled ++ lost ++ left).Perm (before.pendingClaims user))
    {claim : PendingClaim} (member : claim ∈ settled) : claim ∈ before.pendingClaims user :=
  split.subset (List.mem_append_left _ (List.mem_append_left _ member))

/-- The ids of the claims that are settled and of those that are left differ. -/
theorem settled_ids (sound : SoundClaims before)
    (split : (settled ++ lost ++ left).Perm (before.pendingClaims user)) :
    (settled.map PendingClaim.claimId).Nodup ∧
      ∀ claim ∈ settled, ∀ twin ∈ left, twin.claimId ≠ claim.claimId := by
  have ids := ((split.map PendingClaim.claimId).nodup_iff).mpr (sound.nodup user)
  rw [List.map_append, List.map_append] at ids
  obtain ⟨first, -, apart⟩ := List.nodup_append.mp ids
  refine ⟨(List.nodup_append.mp first).1, fun claim member twin remains same => ?_⟩
  exact apart _ (List.mem_append_left _ (List.mem_map_of_mem member)) _
    (List.mem_map_of_mem remains) same.symm

end Split

/-- A step that removes claims of one user and pays some of these keeps the
history in order: what it pays is pending before and for nobody after. -/
theorem PaidOnce.settle (history : PaidOnce trace before) {user : Address}
    {settled lost left : List PendingClaim} (settles : event.label.Settles user settled)
    (split : (settled ++ lost ++ left).Perm (before.pendingClaims user))
    (pending : ∀ owner, after.pendingClaims owner =
      if owner = user then left else before.pendingClaims owner)
    (counter : after.claimCounter = before.claimCounter) (sound : SoundClaims after) :
    PaidOnce (trace ++ [event]) after := by
  have paid : (trace ++ [event]).flatMap (·.label.paid) =
      trace.flatMap (·.label.paid) ++ settled.map PendingClaim.paid := by
    simp [settles.paid]
  have kept : ∀ {owner claim}, claim ∈ after.pendingClaims owner →
      claim ∈ before.pendingClaims owner := by
    intro owner claim member
    rw [pending] at member
    split at member
    · rename_i same
      exact same ▸ split.subset (List.mem_append_right _ member)
    · exact member
  obtain ⟨distinct, apart⟩ := settled_ids history.sound split
  constructor
  case sound => exact sound
  case distinct => simpa [settles.handedOut] using history.distinct
  case issued => simpa [settles.handedOut, counter] using history.issued
  case added =>
    intro owner claim member
    obtain ⟨addition, recorded, adds⟩ := history.added (kept member)
    exact ⟨addition, List.mem_append_left _ recorded, adds⟩
  case counted =>
    rw [paid, counter]
    intro claim member
    rcases List.mem_append.mp member with old | new
    · exact history.counted claim old
    · obtain ⟨original, settling, rfl⟩ := List.mem_map.mp new
      have numbered := history.sound.numbered (mem_settled split settling)
      exact numbered
  case gone =>
    rw [paid]
    intro claim member owner twin remains
    rcases List.mem_append.mp member with old | new
    · exact history.gone claim old (kept remains)
    · obtain ⟨original, settling, rfl⟩ := List.mem_map.mp new
      intro same
      -- An equal id makes the two claims those of one user.
      have equal : twin.claimId = original.claimId := same
      obtain rfl := history.sound.owned (kept remains) (mem_settled split settling) equal
      rw [pending, if_pos rfl] at remains
      exact apart original settling twin remains same
  case once =>
    rw [paid, List.map_append, map_paid_claimId]
    refine List.nodup_append.mpr ⟨history.once, distinct, ?_⟩
    intro old recorded new settling same
    obtain ⟨claim, member, rfl⟩ := List.mem_map.mp recorded
    obtain ⟨original, chosen, rfl⟩ := List.mem_map.mp settling
    exact history.gone claim member (mem_settled split chosen) same.symm
  case accounted =>
    intro owner
    have accounted := history.accounted owner
    rw [List.map_append, List.map_append, List.sum_append, List.sum_append, pending]
    simp only [List.map_cons, List.map_nil, List.sum_cons, List.sum_nil, settles.paidTo,
      settles.addedFor]
    split
    · rename_i same
      obtain ⟨total, losing, -⟩ := history.sound.split_sum split
      rw [same] at accounted ⊢
      omega
    · omega

end History

section Steps

variable {Ledger : Type} {token : TokenInterface Ledger} {self : Address}
variable {trace : List (Event (State Ledger) ClaimLabel)}
variable {event : Event (State Ledger) ClaimLabel}

/-- A sweep keeps the history in order. -/
theorem PaidOnce.sweep {before after : ClaimStore} (history : PaidOnce trace before)
    {user : Address} (settles : ∀ user, event.label.Settles user [])
    (sweeps : Sweeps user before after) : PaidOnce (trace ++ [event]) after := by
  have sound := sweeps.change.sound history.sound
  rcases sweeps with rfl | ⟨expired, valid, split, -, rfl⟩
  · have whole : ([] ++ [] ++ after.pendingClaims user).Perm (after.pendingClaims user) :=
      .refl _
    refine history.settle (settles user) whole (fun owner => ?_) rfl sound
    split
    · rename_i same
      exact same ▸ rfl
    · rfl
  · exact history.settle (settles user) split (fun owner => setPending_pendingClaims) rfl sound

/-- What a payment step pays: unexpired claims of its user, and exactly the sum of
their amounts in the bond token. -/
theorem paid_of_step {before after : State Ledger} {env : Env} {user : Address}
    {claimTypes : List ClaimType} {maxClaims : Nat} {paid : List PendingClaim}
    {result : ClaimResult} (sound : SoundClaims before.storage.claims)
    (stepped : ClaimStep token self before
      ⟨env, .processClaims user claimTypes maxClaims paid result⟩ after) :
    let settled := before.storage.claims.payable env.timestamp user claimTypes maxClaims
    paid = settled.map PendingClaim.paid ∧ result.totalAmount = claimSum settled ∧
      (∀ claim ∈ settled, claim ∈ before.storage.claims.pendingClaims user ∧
        ¬claim.Expired env.timestamp) ∧
      ∃ asset, before.storage.bondToken = some asset ∧
        token.transfer before.ledger asset self user (claimSum settled) =
          some after.ledger := by
  cases stepped with
  | processClaims addressed batched done =>
      obtain ⟨batch, again, total, sent, -⟩ := processClaims_ok done
      obtain rfl : _ = batch := Except.ok.inj (batched.symm.trans again)
      obtain ⟨-, some, processed, -, amount⟩ := processBatch_ok batched
      have members : ∀ claim ∈ before.storage.claims.payable env.timestamp user claimTypes
          maxClaims, claim ∈ before.storage.claims.pendingClaims user ∧
            claim.verdict env.timestamp claimTypes = .take :=
        fun claim member => Sift.mem_taken member
      have positive := claimSum_pos (fun claim member =>
        sound.positive (members claim member).1) some
      rw [amount] at total sent
      rw [payBatch_eq_ok positive, addressed] at sent
      refine ⟨processed, total, fun claim member => ?_, sent⟩
      obtain ⟨pending, takes⟩ := members claim member
      refine ⟨pending, fun expired => ?_⟩
      simp [PendingClaim.verdict, sound.unprocessed pending, expired] at takes

theorem step_paidOnce {before after : State Ledger} {label : ClaimLabel}
    (history : PaidOnce trace before.storage.claims)
    (stepped : ClaimStep token self before label after) :
    PaidOnce (trace ++ [⟨before, label, after⟩]) after.storage.claims := by
  have sound := stepped.change.sound history.sound
  cases stepped with
  | @addPendingClaim env _ user claimType amount sourceId claimId metadata _ _ done =>
      obtain ⟨positive, -, -, rfl, rfl⟩ := addPendingClaim_eq_ok.mp done
      refine history.add positive rfl rfl rfl rfl (fun _ => rfl) (fun owner => ?_)
        ⟨metadata, rfl, rfl⟩
      simp [ClaimLabel.addedFor, ClaimStore.newClaim, eq_comm]
  | @processClaims env _ _ user claimTypes maxClaims batch result addressed batched done =>
      obtain ⟨paid, total, -, -⟩ :=
        paid_of_step history.sound (.processClaims addressed batched done)
      obtain ⟨_, again, -, -, stored⟩ := processClaims_ok done
      obtain rfl : batch = _ := Except.ok.inj (batched.symm.trans again)
      obtain ⟨-, -, -, remaining, -⟩ := processBatch_ok batched
      refine history.settle ⟨rfl, paid, fun payee => ?_, fun _ => rfl⟩ (ClaimStore.batch_perm ..)
        (fun owner => ?_) ?_ sound
      · simp [ClaimLabel.paidTo, total, eq_comm]
      · rw [stored]
        exact setPending_pendingClaims.trans (by rw [remaining])
      · rw [stored]
        rfl
  | cleanupExpiredClaims _ done =>
      exact history.sweep (fun _ => ⟨rfl, rfl, fun _ => (ite_self _).symm, fun _ => rfl⟩)
        (cleanupExpiredClaims_sweeps done)
  | expireClaimsBounded _ done =>
      exact history.sweep (fun _ => ⟨rfl, rfl, fun _ => (ite_self _).symm, fun _ => rfl⟩)
        (expireClaimsBounded_sweeps done)
  | elsewhere same =>
      have still : Sweeps ⟨0⟩ before.storage.claims after.storage.claims := .inl same
      exact history.sweep (fun _ => ⟨rfl, rfl, fun _ => (ite_self _).symm, fun _ => rfl⟩) still

/-- What a payment marks is what it pays for: the sum of the amounts. -/
theorem paidTo_eq_claimSum {before after : State Ledger} {label : ClaimLabel}
    (sound : SoundClaims before.storage.claims)
    (stepped : ClaimStep token self before label after) (user : Address) :
    label.paidTo user = claimSum (label.paidClaims user) := by
  cases stepped with
  | processClaims addressed batched done =>
      obtain ⟨paid, total, -, -⟩ := paid_of_step sound (.processClaims addressed batched done)
      simp only [ClaimLabel.paidTo, ClaimLabel.paidClaims, paid, total]
      split
      · exact (claimSum_map_paid _).symm
      · rfl
  | _ => rfl

end Steps

section Runs

variable {Ledger : Type} {token : TokenInterface Ledger} {self : Address}
variable {start final : State Ledger} {trace : List (Event (State Ledger) ClaimLabel)}

theorem run_paidOnce (run : Run (ClaimStep token self) start trace final)
    (fresh : start.storage.claims = .empty) : PaidOnce trace final.storage.claims := by
  refine run.history (motive := fun trace state => PaidOnce trace state.storage.claims)
    (fresh ▸ paidOnce_empty) ?_
  exact fun trace event _ history stepped => step_paidOnce history stepped

/-- What a payment event pays was added before, for the same user, and is not past
its expiry; the token moves the sum of the amounts and the call returns it. -/
def PaysWhatWasAdded (token : TokenInterface Ledger) (self : Address)
    (earlier : List (Event (State Ledger) ClaimLabel))
    (event : Event (State Ledger) ClaimLabel) : Prop :=
  ∀ {user : Address} {claimTypes : List ClaimType} {maxClaims : Nat}
    {paid : List PendingClaim} {result : ClaimResult},
    event.label.act = .processClaims user claimTypes maxClaims paid result →
      (∀ claim ∈ paid, ¬claim.Expired event.label.env.timestamp ∧
        ∃ addition ∈ earlier, addition.label.Adds user claim) ∧
      result.totalAmount = claimSum paid ∧
      ∃ asset, event.before.storage.bondToken = some asset ∧
        token.transfer event.before.ledger asset self user (claimSum paid) =
          some event.after.ledger

/-- Along a run from a store without claims the ids handed out are distinct, no
claim is paid twice, every payment pays what was added for its user and is not
past its expiry, and what a user was paid is the sum of that user's paid claims
and within the sum added for the user. -/
theorem claims_paid_once (run : Run (ClaimStep token self) start trace final)
    (fresh : start.storage.claims = .empty) :
    (trace.filterMap (·.label.handedOut)).Nodup ∧
      ((trace.flatMap (·.label.paid)).map PendingClaim.claimId).Nodup ∧
      (∀ earlier event later, trace = earlier ++ event :: later →
        PaysWhatWasAdded token self earlier event) ∧
      ∀ user,
        (trace.map (·.label.paidTo user)).sum =
            claimSum (trace.flatMap (·.label.paidClaims user)) ∧
          (trace.map (·.label.paidTo user)).sum ≤ (trace.map (·.label.addedFor user)).sum := by
  have history := run_paidOnce run fresh
  refine ⟨history.distinct, history.once, ?_, fun user => ⟨?_, ?_⟩⟩
  · intro earlier event later position user claimTypes maxClaims paid result pays
    obtain ⟨before, ⟨env, act⟩, after⟩ := event
    obtain rfl : act = _ := pays
    obtain ⟨reached, stepped, -⟩ := run.split position
    have prior := run_paidOnce reached fresh
    obtain ⟨marked, total, members, sent⟩ := paid_of_step prior.sound stepped
    rw [marked, claimSum_map_paid]
    refine ⟨fun claim member => ?_, total, sent⟩
    obtain ⟨original, settled, rfl⟩ := List.mem_map.mp member
    obtain ⟨pending, unexpired⟩ := members original settled
    obtain ⟨addition, recorded, adds⟩ := prior.added pending
    exact ⟨unexpired, addition, recorded, adds⟩
  · rw [claimSum_flatMap]
    refine congrArg List.sum (List.map_congr_left fun event member => ?_)
    obtain ⟨earlier, reached, stepped⟩ := run.reached_of_mem member
    exact paidTo_eq_claimSum (run_paidOnce reached fresh).sound stepped user
  · have accounted := history.accounted user
    have pending : 0 ≤ claimSum (final.storage.claims.pendingClaims user) :=
      claimSum_nonneg fun _ member => history.sound.positive member
    omega

end Runs

section Sample

/-- Two claims of one user and one of another; the first user is paid twice. -/
theorem claims_paid_once_sample :
    ∃ trace final, Run (ClaimStep ReferenceLedger.token ⟨0⟩) claimSample trace final ∧
      trace.filterMap (·.label.handedOut) = [1, 2, 3] ∧
        (trace.flatMap (·.label.paid)).map PendingClaim.claimId = [1, 3] ∧
          ((trace.flatMap (·.label.paid)).map PendingClaim.claimId).Nodup ∧
            (trace.map (·.label.paidTo ⟨5⟩)).sum = 10 ∧
              (trace.map (·.label.paidTo ⟨5⟩)).sum ≤ (trace.map (·.label.addedFor ⟨5⟩)).sum := by
  obtain ⟨trace, final, run, handedOut, paid, total⟩ : ∃ trace final,
      Run (ClaimStep ReferenceLedger.token ⟨0⟩) claimSample trace final ∧
        trace.filterMap (·.label.handedOut) = [1, 2, 3] ∧
          (trace.flatMap (·.label.paid)).map PendingClaim.claimId = [1, 3] ∧
            (trace.map (·.label.paidTo ⟨5⟩)).sum = 10 :=
    ⟨_, _, .snoc (.snoc (.snoc (.snoc (.snoc .nil
      (@ClaimStep.addPendingClaim _ _ _ (.signedByAll ⟨0⟩ 0) _ ⟨5⟩ .feeRebate 4 0 _ none _
        rfl rfl))
      (@ClaimStep.addPendingClaim _ _ _ (.signedByAll ⟨0⟩ 3) _ ⟨6⟩ .feeRebate 7 0 _ none _
        rfl rfl))
      (@ClaimStep.addPendingClaim _ _ _ (.signedByAll ⟨0⟩ 9) _ ⟨5⟩ .disputeReward 6 0 _ none _
        rfl rfl))
      (@ClaimStep.processClaims _ _ _ (.signedByAll ⟨0⟩ 20) _ _ ⟨5⟩ [] 1 _ _ rfl rfl rfl))
      (@ClaimStep.processClaims _ _ _ (.signedByAll ⟨0⟩ 30) _ _ ⟨5⟩ [] 0 _ _ rfl rfl rfl),
      rfl, rfl, rfl⟩
  obtain ⟨-, once, -, accounts⟩ := claims_paid_once run rfl
  exact ⟨trace, final, run, handedOut, paid, once, total, (accounts ⟨5⟩).2⟩

end Sample

end CredenceBond
