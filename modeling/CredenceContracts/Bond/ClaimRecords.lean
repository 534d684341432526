import CredenceContracts.Bond.ClaimExpiry
import CredenceContracts.Bond.ClaimPayment
import CredenceContracts.Library.Cells

/-!
# What is on record about claims

Beside the pending lists every claim is filed under its id, where it can be looked up
after it is gone from the list.  The summary of a user's claims adds their amounts up by
type without a check.
-/

namespace CredenceBond

open Soroban MachineInt Transition

variable {Ledger : Type} {token : TokenInterface Ledger} {self user : Address}

section Reading

/-- Look a claim up by its id. -/
def getClaimById (claims : ClaimStore) (claimId : Nat) : Outcome PendingClaim :=
  Outcome.unwrapOr (claims.claimById claimId) (.panicked "claim not found")

/-- Add a claim to the total of its type. -/
def addToSummary (summary : ClaimType → Option Int) (claim : PendingClaim) :
    ClaimType → Option Int :=
  let current := (summary claim.claimType).getD 0
  Function.update summary claim.claimType (some (wrappingI128 (current + claim.amount)))

/-- The totals of a user's pending claims by type; a type without a claim has no entry. -/
def getClaimsSummary (claims : ClaimStore) (user : Address) : ClaimType → Option Int :=
  (getPendingClaims claims user).foldl addToSummary fun _ => none

end Reading

section Lookup

/-- The step added this claim for this user, and filed it as the call and the time have
it. -/
def ClaimLabel.Files (user : Address) (claim : PendingClaim) (label : ClaimLabel) : Prop :=
  ∃ metadata, label.act = .addPendingClaim user claim.claimType claim.amount claim.sourceId
      metadata claim.claimId ∧
    claim.createdAt = label.env.timestamp ∧
    claim.expiresAt = (label.env.timestamp + defaultClaimExpiry) % 2 ^ 64 ∧
    claim.metadata = metadata.getD ""

variable {now limit maxClaims : Nat} {claimTypes : List ClaimType}

/-- The payment loop files what it pays. -/
theorem processLoop_filed {pending : List PendingClaim} {batch result : Batch}
    (done : processLoop now claimTypes limit pending batch = .ok result) :
    ∃ paid, result.processed = batch.processed ++ paid ∧
      result.claimById = Cells.fill PendingClaim.claimId paid batch.claimById := by
  induction pending generalizing batch with
  | nil =>
      obtain rfl : result = batch := by simpa [processLoop] using done
      exact ⟨[], by simp, rfl⟩
  | cons claim rest ih =>
      unfold processLoop at done
      split at done
      · obtain rfl : result = _ := by simpa using done
        exact ⟨[], by simp, rfl⟩
      split at done
      · simpa using ih done
      split at done
      · simpa using ih done
      split at done
      · simpa using ih done
      · obtain ⟨total, -, later⟩ := Outcome.bind_eq_ok.mp done
        obtain ⟨paid, processed, filed⟩ := ih later
        exact ⟨claim.paid :: paid, by simp [processed], filed⟩

theorem processBatch_filed {env : Env} {claims : ClaimStore} {batch : Batch}
    (done : processBatch env claims user claimTypes maxClaims = .ok batch) :
    batch.claimById = Cells.fill PendingClaim.claimId batch.processed claims.claimById := by
  simp only [processBatch, Outcome.bind_eq_ok, Outcome.pure_eq_ok] at done
  obtain ⟨-, -, -, -, _, looped, -, -, rfl⟩ := done
  obtain ⟨paid, processed, filed⟩ := processLoop_filed looped
  rw [List.nil_append] at processed
  rw [processed]
  exact filed

end Lookup

section History

variable {trace : List (Event (State Ledger) ClaimLabel)}
variable {event : Event (State Ledger) ClaimLabel} {before after : ClaimStore}

/-- What is filed about claims, against the history. -/
structure OnRecord (trace : List (Event (State Ledger) ClaimLabel)) (claims : ClaimStore) :
    Prop where
  known : ∀ id, (claims.claimById id).isSome = true ↔ id ∈ trace.filterMap (·.label.handedOut)
  own : ∀ {id claim}, claims.claimById id = some claim → claim.claimId = id
  filed : ∀ {id claim}, claims.claimById id = some claim →
    ∃ user, ∃ addition ∈ trace, addition.label.Files user claim
  marked : ∀ {id claim}, claims.claimById id = some claim →
    (claim.processed = true ↔ ∃ payment ∈ trace, claim ∈ payment.label.paid)
  pending : ∀ {user claim}, claim ∈ claims.pendingClaims user →
    claims.claimById claim.claimId = some claim ∧
      ∃ addition ∈ trace, addition.label.Files user claim

theorem onRecord_empty : OnRecord ([] : List (Event (State Ledger) ClaimLabel)) .empty where
  known _ := by simp [ClaimStore.empty]
  own filed := by simp [ClaimStore.empty] at filed
  filed filed := by simp [ClaimStore.empty] at filed
  marked filed := by simp [ClaimStore.empty] at filed
  pending member := by simp [ClaimStore.empty] at member

/-- A step that adds a claim files it under a new id. -/
theorem OnRecord.add (onRecord : OnRecord trace before) (history : PaidOnce trace before)
    {claim : PendingClaim} (numbered : claim.claimId = before.claimCounter + 1)
    (unprocessed : claim.processed = false)
    (handedOut : event.label.handedOut = some claim.claimId) (paid : event.label.paid = [])
    (files : event.label.Files user claim) :
    OnRecord (trace ++ [event]) (before.withClaim user claim) := by
  have byId : (before.withClaim user claim).claimById =
      Function.update before.claimById claim.claimId (some claim) := rfl
  have unpaid : ∀ payment ∈ trace, claim ∉ payment.label.paid := by
    intro payment recorded member
    have := history.counted claim (List.mem_flatMap.mpr ⟨payment, recorded, member⟩)
    omega
  have old {id : Nat} {found : PendingClaim}
      (stored : before.claimById id = some found) : id ≠ claim.claimId := by
    have := history.issued id ((onRecord.known id).mp (by simp [stored]))
    omega
  constructor
  case known =>
    intro id
    rw [byId, List.filterMap_append, List.mem_append, ← onRecord.known]
    by_cases same : id = claim.claimId
    · simp [same, handedOut]
    · simp [same, handedOut]
  case own =>
    intro id found
    rw [byId]
    by_cases same : id = claim.claimId
    · subst same
      simp +contextual
    · rw [Function.update_of_ne same]
      exact onRecord.own
  case filed =>
    intro id found
    rw [byId]
    by_cases same : id = claim.claimId
    · subst same
      rw [Function.update_self, Option.some.injEq]
      rintro rfl
      exact ⟨user, event, by simp, files⟩
    · rw [Function.update_of_ne same]
      intro stored
      obtain ⟨owner, addition, recorded, adds⟩ := onRecord.filed stored
      exact ⟨owner, addition, List.mem_append_left _ recorded, adds⟩
  case marked =>
    intro id found
    rw [byId]
    by_cases same : id = claim.claimId
    · subst same
      rw [Function.update_self, Option.some.injEq]
      rintro rfl
      simpa [unprocessed, or_imp, forall_and, paid] using unpaid
    · rw [Function.update_of_ne same]
      intro stored
      rw [onRecord.marked stored]
      simp [paid, or_and_right, exists_or]
  case pending =>
    intro owner found member
    rcases mem_withClaim.mp member with stored | ⟨rfl, rfl⟩
    · obtain ⟨stored, addition, recorded, adds⟩ := onRecord.pending stored
      rw [byId, Function.update_of_ne (old stored)]
      exact ⟨stored, addition, List.mem_append_left _ recorded, adds⟩
    · exact ⟨Function.update_self _ _ _, event, by simp, files⟩

/-- A step that pays pending claims of one user, and removes others, files those that it
pays as paid. -/
theorem OnRecord.settle (onRecord : OnRecord trace before)
    (later : PaidOnce (trace ++ [event]) after) (user : Address) (settled : List PendingClaim)
    (handedOut : event.label.handedOut = none)
    (paid : event.label.paid = settled.map PendingClaim.paid)
    (listed : ∀ claim ∈ settled, claim ∈ before.pendingClaims user)
    (distinct : (settled.map PendingClaim.claimId).Nodup)
    (kept : ∀ {owner claim}, claim ∈ after.pendingClaims owner →
      claim ∈ before.pendingClaims owner)
    (byId : after.claimById =
      Cells.fill PendingClaim.claimId (settled.map PendingClaim.paid) before.claimById) :
    OnRecord (trace ++ [event]) after := by
  have others {id : Nat} (apart : id ∉ settled.map PendingClaim.claimId) :
      after.claimById id = before.claimById id := by
    rw [byId]
    exact Cells.fill_apply_of_notMem (by rwa [map_paid_claimId])
  have paidNow {claim : PendingClaim} (member : claim ∈ settled) :
      after.claimById claim.claimId = some claim.paid := by
    rw [byId]
    refine Cells.fill_apply_of_mem ?_ (List.mem_map_of_mem member)
    rwa [map_paid_claimId]
  have paidIds {claim : PendingClaim} (member : claim ∈ event.label.paid) :
      claim.claimId ∈ settled.map PendingClaim.claimId := by
    rw [paid] at member
    obtain ⟨original, chosen, rfl⟩ := List.mem_map.mp member
    exact List.mem_map.mpr ⟨original, chosen, rfl⟩
  constructor
  case known =>
    intro id
    have same : (trace ++ [event]).filterMap (·.label.handedOut) =
        trace.filterMap (·.label.handedOut) := by
      simp [handedOut]
    rw [same, ← onRecord.known]
    by_cases chosen : id ∈ settled.map PendingClaim.claimId
    · obtain ⟨claim, member, rfl⟩ := List.mem_map.mp chosen
      simp [paidNow member, (onRecord.pending (listed claim member)).1]
    · rw [others chosen]
  case own =>
    intro id found stored
    by_cases chosen : id ∈ settled.map PendingClaim.claimId
    · obtain ⟨claim, member, rfl⟩ := List.mem_map.mp chosen
      obtain rfl := Option.some.inj ((paidNow member).symm.trans stored)
      rfl
    · exact onRecord.own ((others chosen).symm.trans stored)
  case filed =>
    intro id found stored
    by_cases chosen : id ∈ settled.map PendingClaim.claimId
    · obtain ⟨claim, member, rfl⟩ := List.mem_map.mp chosen
      obtain rfl := Option.some.inj ((paidNow member).symm.trans stored)
      obtain ⟨-, addition, recorded, adds⟩ := onRecord.pending (listed claim member)
      exact ⟨user, addition, List.mem_append_left _ recorded, adds⟩
    · obtain ⟨owner, addition, recorded, adds⟩ :=
        onRecord.filed ((others chosen).symm.trans stored)
      exact ⟨owner, addition, List.mem_append_left _ recorded, adds⟩
  case marked =>
    intro id found stored
    by_cases chosen : id ∈ settled.map PendingClaim.claimId
    · obtain ⟨claim, member, rfl⟩ := List.mem_map.mp chosen
      obtain rfl := Option.some.inj ((paidNow member).symm.trans stored)
      refine iff_of_true rfl ⟨event, by simp, ?_⟩
      rw [paid]
      exact List.mem_map_of_mem member
    · have earlier := (others chosen).symm.trans stored
      have unpaid : found ∉ event.label.paid := fun member =>
        chosen (onRecord.own earlier ▸ paidIds member)
      rw [onRecord.marked earlier]
      simp [unpaid, or_and_right, exists_or]
  case pending =>
    intro owner claim member
    obtain ⟨stored, addition, recorded, adds⟩ := onRecord.pending (kept member)
    refine ⟨?_, addition, List.mem_append_left _ recorded, adds⟩
    have apart : claim.claimId ∉ settled.map PendingClaim.claimId := by
      intro chosen
      obtain ⟨original, taken, same⟩ := List.mem_map.mp chosen
      refine later.gone original.paid ?_ member same.symm
      simpa [paid] using .inr ⟨original, taken, rfl⟩
    rw [others apart, stored]

end History

section Runs

variable {start final : State Ledger} {trace : List (Event (State Ledger) ClaimLabel)}

theorem Sweeps.claimById {before after : ClaimStore} (sweeps : Sweeps user before after) :
    after.claimById = before.claimById := by
  rcases sweeps with rfl | ⟨expired, valid, -, -, rfl⟩
  · rfl
  · rfl

/-- A sweep files nothing. -/
theorem OnRecord.sweep {event : Event (State Ledger) ClaimLabel} {before after : ClaimStore}
    (onRecord : OnRecord trace before) (later : PaidOnce (trace ++ [event]) after)
    (handedOut : event.label.handedOut = none) (paid : event.label.paid = [])
    (sweeps : Sweeps user before after) : OnRecord (trace ++ [event]) after :=
  onRecord.settle later user [] handedOut paid (by simp) (by simp)
    (fun member => sweeps.sublist.subset member) sweeps.claimById

theorem step_onRecord {before after : State Ledger} {label : ClaimLabel}
    (onRecord : OnRecord trace before.storage.claims)
    (history : PaidOnce trace before.storage.claims)
    (stepped : ClaimStep token self before label after) :
    OnRecord (trace ++ [⟨before, label, after⟩]) after.storage.claims := by
  have later := step_paidOnce history stepped
  cases stepped with
  | @addPendingClaim env _ user claimType amount sourceId claimId metadata _ _ done =>
      obtain ⟨-, -, -, rfl, rfl⟩ := addPendingClaim_eq_ok.mp done
      exact onRecord.add history rfl rfl rfl rfl ⟨metadata, rfl, rfl, rfl, rfl⟩
  | @processClaims env _ _ user claimTypes maxClaims batch result addressed batched done =>
      obtain ⟨paid, -, members, -⟩ :=
        paid_of_step history.sound (.processClaims addressed batched done)
      obtain ⟨_, again, -, -, stored⟩ := processClaims_ok done
      obtain rfl : batch = _ := Except.ok.inj (batched.symm.trans again)
      obtain ⟨-, -, -, remaining, -⟩ := processBatch_ok batched
      have distinct := (settled_ids history.sound (ClaimStore.batch_perm
        before.storage.claims env.timestamp user claimTypes maxClaims)).1
      have quiet (owner : Address) :
          ¬(ClaimLabel.mk env (.processClaims user claimTypes maxClaims batch.processed
            result)).AddsFor owner := id
      refine onRecord.settle later user _ rfl paid
        (fun claim member => (members claim member).1) distinct (fun member => ?_) ?_
      · exact ((ClaimStep.processClaims addressed batched done).sublist (quiet _)).subset member
      · rw [stored]
        exact (processBatch_filed batched).trans (by rw [paid])
  | @cleanupExpiredClaims _ _ user _ _ _ done =>
      exact onRecord.sweep later rfl rfl (cleanupExpiredClaims_sweeps done)
  | @expireClaimsBounded _ _ user _ _ _ _ done =>
      exact onRecord.sweep later rfl rfl (expireClaimsBounded_sweeps done)
  | elsewhere same =>
      have still : Sweeps ⟨0⟩ before.storage.claims after.storage.claims := .inl same
      exact onRecord.sweep later rfl rfl still

theorem run_onRecord (run : Run (ClaimStep token self) start trace final)
    (fresh : start.storage.claims = .empty) : OnRecord trace final.storage.claims := by
  refine run.history (motive := fun trace state => OnRecord trace state.storage.claims)
    (fresh ▸ onRecord_empty) ?_
  intro trace event reached onRecord stepped
  exact step_onRecord onRecord (run_paidOnce reached fresh) stepped

/-- Along a run from a store without claims, what is found under an id is the claim that
was added with it, marked as processed once it is paid and never before; nothing is found
under an id that was not handed out; and a claim is pending as it is found. -/
theorem claims_on_record (run : Run (ClaimStep token self) start trace final)
    (fresh : start.storage.claims = .empty) :
    (∀ id, getClaimById final.storage.claims id = .error (.panicked "claim not found") ↔
      id ∉ trace.filterMap (·.label.handedOut)) ∧
    (∀ id claim, getClaimById final.storage.claims id = .ok claim →
      claim.claimId = id ∧
        (∃ user, ∃ addition ∈ trace, addition.label.Files user claim) ∧
        (claim.processed = true ↔ ∃ payment ∈ trace, claim ∈ payment.label.paid)) ∧
    ∀ user, ∀ claim ∈ final.storage.claims.pendingClaims user,
      getClaimById final.storage.claims claim.claimId = .ok claim ∧
        ∃ addition ∈ trace, addition.label.Files user claim := by
  have onRecord := run_onRecord run fresh
  refine ⟨fun id => ?_, fun id claim found => ?_, fun user claim member => ?_⟩
  · rw [← onRecord.known]
    cases stored : final.storage.claims.claimById id <;> simp [getClaimById, stored]
  · have stored := Outcome.unwrapOr_eq_ok.mp found
    exact ⟨onRecord.own stored, onRecord.filed stored, onRecord.marked stored⟩
  · obtain ⟨stored, added⟩ := onRecord.pending member
    exact ⟨Outcome.unwrapOr_eq_ok.mpr stored, added⟩

end Runs

section Summary

variable {claims : List PendingClaim}

/-- The claims of one type. -/
def ofType (claimType : ClaimType) (claims : List PendingClaim) : List PendingClaim :=
  claims.filter fun claim => claim.claimType = claimType

def ClaimType.all : List ClaimType :=
  [.verifierReward, .slashingReward, .penaltyRefund, .feeRebate, .disputeReward]

theorem claimSum_ofType_le (positive : ∀ claim ∈ claims, 0 < claim.amount)
    (claimType : ClaimType) : claimSum (ofType claimType claims) ≤ claimSum claims := by
  have split := claimSum_perm
    (List.filter_append_perm (fun claim => decide (claim.claimType = claimType)) claims)
  have rest : 0 ≤ claimSum (claims.filter fun claim =>
      !decide (claim.claimType = claimType)) :=
    claimSum_nonneg fun claim member => positive claim (List.mem_of_mem_filter member)
  rw [claimSum_append] at split
  unfold ofType
  omega

/-- Every claim is of one type. -/
theorem sum_claimSum_ofType :
    (ClaimType.all.map fun claimType => claimSum (ofType claimType claims)).sum =
      claimSum claims := by
  induction claims with
  | nil => rfl
  | cons claim rest ih =>
      simp only [ClaimType.all, List.map_cons, List.map_nil, List.sum_cons, List.sum_nil,
        ofType, List.filter_cons, claimSum_cons] at ih ⊢
      cases claim.claimType <;> simp <;> omega

/-- Where the total of positive claims fits, the totals by type are exact. -/
theorem summary_eq (positive : ∀ claim ∈ claims, 0 < claim.amount)
    (fits : claimSum claims < 2 ^ 127) (claimType : ClaimType) :
    claims.foldl addToSummary (fun _ => none) claimType =
      if ofType claimType claims = [] then none
      else some (claimSum (ofType claimType claims)) := by
  induction claims using List.reverseRecOn generalizing claimType with
  | nil => rfl
  | append_singleton claims claim ih =>
      have rest : ∀ claim ∈ claims, 0 < claim.amount := fun claim member =>
        positive claim (List.mem_append_left _ member)
      have amount := positive claim (by simp)
      rw [claimSum_append, claimSum_cons, claimSum_nil, add_zero] at fits
      have earlier := ih rest (by omega)
      rw [List.foldl_append, List.foldl_cons, List.foldl_nil, addToSummary, earlier]
      by_cases same : claimType = claim.claimType
      · subst same
        have within := claimSum_ofType_le rest claim.claimType
        have nonneg : 0 ≤ claimSum (ofType claim.claimType claims) :=
          claimSum_nonneg fun claim member => rest claim (List.mem_of_mem_filter member)
        have current : (if ofType claim.claimType claims = [] then none
            else some (claimSum (ofType claim.claimType claims))).getD 0 =
              claimSum (ofType claim.claimType claims) := by
          split
          · rename_i none
            simp [none]
          · rfl
        have exact : ofType claim.claimType (claims ++ [claim]) =
            ofType claim.claimType claims ++ [claim] := by
          simp [ofType]
        rw [Function.update_self, current, exact, if_neg (by simp), claimSum_append,
          claimSum_cons, claimSum_nil, add_zero, wrappingI128_of_fits]
        exact ⟨by omega, by omega⟩
      · have exact : ofType claimType (claims ++ [claim]) = ofType claimType claims := by
          simp [ofType, Ne.symm same]
        rw [Function.update_of_ne same, exact, earlier]

end Summary

section Totals

variable {start final : State Ledger} {trace : List (Event (State Ledger) ClaimLabel)}

/-- Along a run from a store without claims the summary of a user never overflows: it
lists exactly the types that the user has pending claims of, each with the sum of their
amounts, and together these are the pending amount, which the running total covers. -/
theorem claims_summary_exact (run : Run (ClaimStep token self) start trace final)
    (fresh : start.storage.claims = .empty) (user : Address) :
    let pending := final.storage.claims.pendingClaims user
    let summary := getClaimsSummary final.storage.claims user
    (∀ claimType, summary claimType =
      if ofType claimType pending = [] then none
      else some (claimSum (ofType claimType pending))) ∧
    (ClaimType.all.map fun claimType => (summary claimType).getD 0).sum = claimSum pending ∧
    claimSum pending ≤ final.storage.claims.claimableAmount user := by
  obtain ⟨sound, bounded⟩ := run.invariant (fun state => Sweepable state.storage.claims)
    (fresh ▸ sweepable_empty) fun _ before stepped => stepped.sweepable before
  have covered := sound.covered user
  have positive : ∀ claim ∈ final.storage.claims.pendingClaims user, 0 < claim.amount :=
    fun _ member => sound.positive member
  have exact := summary_eq positive (covered.trans_lt (bounded user))
  refine ⟨exact, ?_, covered⟩
  rw [← sum_claimSum_ofType]
  refine congrArg List.sum (List.map_congr_left fun claimType _ => ?_)
  rw [getClaimsSummary, getPendingClaims, exact claimType]
  split
  · rename_i none
    simp [none]
  · rfl

end Totals

section Sample

/-- Three claims of two users are added, and the first user is paid one. -/
theorem added_and_paid :
    ∃ trace final, Run (ClaimStep ReferenceLedger.token ⟨0⟩) claimSample trace final ∧
      trace.filterMap (·.label.handedOut) = [1, 2, 3] ∧
      (final.storage.claims.claimById 1).map PendingClaim.processed = some true ∧
      (final.storage.claims.pendingClaims ⟨5⟩).map PendingClaim.amount = [6] :=
  ⟨_, _, .snoc (.snoc (.snoc (.snoc .nil
    (@ClaimStep.addPendingClaim _ _ _ (.signedByAll ⟨0⟩ 0) _ ⟨5⟩ .feeRebate 4 0 _ none _
      rfl rfl))
    (@ClaimStep.addPendingClaim _ _ _ (.signedByAll ⟨0⟩ 3) _ ⟨6⟩ .feeRebate 7 0 _ none _
      rfl rfl))
    (@ClaimStep.addPendingClaim _ _ _ (.signedByAll ⟨0⟩ 9) _ ⟨5⟩ .disputeReward 6 0 _ none _
      rfl rfl))
    (@ClaimStep.processClaims _ _ _ (.signedByAll ⟨0⟩ 20) _ _ ⟨5⟩ [] 1 _ _ rfl rfl rfl),
    rfl, rfl, rfl⟩

theorem claims_on_record_sample :
    ∃ trace final, Run (ClaimStep ReferenceLedger.token ⟨0⟩) claimSample trace final ∧
      getClaimById final.storage.claims 4 = .error (.panicked "claim not found") ∧
      ∃ claim, getClaimById final.storage.claims 1 = .ok claim ∧
        ∃ payment ∈ trace, claim ∈ payment.label.paid := by
  obtain ⟨trace, final, run, handedOut, processed, -⟩ := added_and_paid
  obtain ⟨missing, found, -⟩ := claims_on_record run rfl
  refine ⟨trace, final, run, (missing 4).mpr (by simp [handedOut]), ?_⟩
  obtain ⟨claim, stored, marked⟩ := Option.map_eq_some_iff.mp processed
  have lookup : getClaimById final.storage.claims 1 = .ok claim :=
    Outcome.unwrapOr_eq_ok.mpr stored
  exact ⟨claim, lookup, ((found 1 claim lookup).2.2).mp marked⟩

theorem claims_summary_exact_sample :
    ∃ trace final, Run (ClaimStep ReferenceLedger.token ⟨0⟩) claimSample trace final ∧
      (ClaimType.all.map fun claimType =>
        (getClaimsSummary final.storage.claims ⟨5⟩ claimType).getD 0).sum = 6 := by
  obtain ⟨trace, final, run, -, -, pending⟩ := added_and_paid
  obtain ⟨-, total, -⟩ := claims_summary_exact run rfl ⟨5⟩
  refine ⟨trace, final, run, ?_⟩
  rw [total, claimSum, pending]
  rfl

end Sample

end CredenceBond
