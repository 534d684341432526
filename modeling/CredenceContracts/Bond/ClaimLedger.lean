import CredenceContracts.Bond.ClaimSpec

/-!
# The running total of a user's claims

Beside every pending list the store keeps its total.  Both expiry sweeps take
what they remove off the total; a payment takes off only what it pays, so the
total is right after it exactly when it met no expired claim or left nothing.
-/

namespace CredenceBond

open Soroban MachineInt Transition

/-- The stored total of every user is the sum of the pending amounts. -/
def ClaimStore.Balanced (claims : ClaimStore) : Prop :=
  ∀ user, claims.claimableAmount user = claimSum (claims.pendingClaims user)

/-- None of the pending claims up to the one that fills the batch is expired, or
all the pending claims are among these and each is expired or asked for. -/
def ClaimStore.CleanBatch (claims : ClaimStore) (now : Nat) (user : Address)
    (claimTypes : List ClaimType) (maxClaims : Nat) : Prop :=
  let pending := claims.pendingClaims user
  let scanned := Sift.scanned (·.verdict now claimTypes) (batchLimit maxClaims) pending
  (∀ claim ∈ scanned, ¬claim.Expired now) ∨
    scanned = pending ∧ ∀ claim ∈ pending, claim.Expired now ∨ claim.Selected claimTypes

/-- The condition on a step: its batch is clean, where it is a payment. -/
def ClaimLabel.Clean (label : ClaimLabel) (claims : ClaimStore) : Prop :=
  match label.act with
  | .processClaims user claimTypes maxClaims _ _ =>
      claims.CleanBatch label.env.timestamp user claimTypes maxClaims
  | _ => True

section Verdict

variable {now : Nat} {claimTypes : List ClaimType} {claim : PendingClaim}

theorem verdict_eq_drop (unprocessed : claim.processed = false) :
    claim.verdict now claimTypes = .drop ↔ claim.Expired now := by
  unfold PendingClaim.verdict
  split_ifs <;> simp_all

theorem verdict_eq_keep (unprocessed : claim.processed = false) :
    claim.verdict now claimTypes = .keep ↔
      ¬claim.Expired now ∧ ¬claim.Selected claimTypes := by
  unfold PendingClaim.verdict
  split_ifs <;> simp_all

end Verdict

section Step

variable {before after : ClaimStore} {uncounted : List PendingClaim}

/-- A change keeps the totals right exactly when every claim it removes is
counted. -/
theorem ClaimChange.balanced_iff (change : ClaimChange before uncounted after)
    (sound : SoundClaims before) (balanced : before.Balanced) :
    after.Balanced ↔ uncounted = [] := by
  cases change with
  | kept => simpa using balanced
  | @added user claim positive _ _ =>
      refine iff_of_true (fun other => ?_) rfl
      rw [withClaim_claimableAmount, withClaim_pendingClaims]
      split
      · simp [balanced user]
      · exact balanced other
  | @removed user counted lost left claimById split ordered =>
      obtain ⟨total, -, losing⟩ := sound.split_sum split
      have covered := balanced user
      have others : ({ before with claimById }.setPending user left
            (if left = [] then 0 else before.claimableAmount user - claimSum counted)).Balanced ↔
          (if left = [] then 0 else before.claimableAmount user - claimSum counted) =
            claimSum left := by
        constructor
        · intro settled
          simpa using settled user
        · intro settled other
          rw [setPending_claimableAmount, setPending_pendingClaims]
          split
          · exact settled
          · exact balanced other
      rw [others]
      split
      · rename_i none
        simp [none]
      · constructor
        · intro settled
          by_contra some
          have worth := losing some
          omega
        · intro none
          rw [none, claimSum_nil] at total
          omega

/-- A payment of a user's sound claims forfeits nothing exactly when its batch is
clean. -/
theorem forfeited_eq_nil_iff {now maxClaims : Nat} {user : Address}
    {claimTypes : List ClaimType} (sound : SoundClaims before) :
    before.forfeited now user claimTypes maxClaims = [] ↔
      before.CleanBatch now user claimTypes maxClaims := by
  have whole := Sift.scanned_append_unscanned (fun claim => claim.verdict now claimTypes)
    (batchLimit maxClaims) (before.pendingClaims user)
  have drops : before.lapsing now user claimTypes maxClaims = [] ↔
      ∀ claim ∈ Sift.scanned (·.verdict now claimTypes) (batchLimit maxClaims)
        (before.pendingClaims user), ¬claim.Expired now := by
    refine Sift.dropped_eq_nil.trans (forall₂_congr fun claim seen => not_congr ?_)
    have member : claim ∈ before.pendingClaims user := whole ▸ List.mem_append_left _ seen
    exact verdict_eq_drop (sound.unprocessed member)
  have keeps : before.staying now user claimTypes maxClaims = [] ↔
      Sift.scanned (·.verdict now claimTypes) (batchLimit maxClaims)
          (before.pendingClaims user) = before.pendingClaims user ∧
        ∀ claim ∈ before.pendingClaims user,
          claim.Expired now ∨ claim.Selected claimTypes := by
    refine Sift.kept_eq_nil.trans (and_congr_right fun _ =>
      forall₂_congr fun claim member => ?_)
    rw [Ne, verdict_eq_keep (sound.unprocessed member), not_and_or, not_not, not_not]
  unfold ClaimStore.forfeited ClaimStore.CleanBatch
  split
  · rename_i none
    exact iff_of_true rfl (.inr (keeps.mp none))
  · rename_i some
    rw [drops]
    exact ⟨.inl, fun clean => clean.resolve_right (mt keeps.mpr some)⟩

theorem forfeited_label_iff {label : ClaimLabel} (sound : SoundClaims before) :
    label.forfeited before = [] ↔ label.Clean before := by
  obtain ⟨env, act⟩ := label
  cases act with
  | processClaims => exact forfeited_eq_nil_iff sound
  | _ => exact iff_of_true rfl trivial

end Step

section Runs

variable {Ledger : Type} {token : TokenInterface Ledger} {self : Address}
variable {start final : State Ledger} {trace : List (Event (State Ledger) ClaimLabel)}

/-- Along a run from a store without claims every total stays right if and only
if every payment of the run has a clean batch. -/
theorem claimable_matches_pending (run : Run (ClaimStep token self) start trace final)
    (fresh : start.storage.claims = .empty) :
    (∀ event ∈ trace, event.after.storage.claims.Balanced) ↔
      ∀ event ∈ trace, event.label.Clean event.before.storage.claims := by
  refine run.forall_after_iff (fun state => state.storage.claims.Balanced)
    (fun state => SoundClaims state.storage.claims) _ ?_ ?_ ?_ ?_
  · rw [fresh]
    exact fun user => rfl
  · rw [fresh]
    exact soundClaims_empty
  · exact fun event sound stepped => stepped.change.sound sound
  · exact fun event sound balanced stepped =>
      (stepped.change.balanced_iff sound balanced).trans (forfeited_label_iff sound)

end Runs

section Sample

/-- Two claims of a user, paid before they expire. -/
theorem claimable_matches_pending_sample :
    ∃ trace final, Run (ClaimStep ReferenceLedger.token ⟨0⟩) claimSample trace final ∧
      trace.length = 3 ∧
        ∀ event ∈ trace, event.after.storage.claims.Balanced := by
  obtain ⟨trace, final, run, recorded, clean⟩ : ∃ trace final,
      Run (ClaimStep ReferenceLedger.token ⟨0⟩) claimSample trace final ∧ trace.length = 3 ∧
        ∀ event ∈ trace, event.label.Clean event.before.storage.claims := by
    refine ⟨_, _, .snoc (.snoc (.snoc .nil
      (@ClaimStep.addPendingClaim _ _ _ (.signedByAll ⟨0⟩ 0) _ ⟨5⟩ .feeRebate 4 0 _ none _
        rfl rfl))
      (@ClaimStep.addPendingClaim _ _ _ (.signedByAll ⟨0⟩ 9) _ ⟨5⟩ .disputeReward 6 0 _ none _
        rfl rfl))
      (@ClaimStep.processClaims _ _ _ (.signedByAll ⟨0⟩ 20) _ _ ⟨5⟩ [.feeRebate] 0 _ _
        rfl rfl rfl), rfl, ?_⟩
    simp only [List.forall_mem_append, List.forall_mem_singleton]
    exact ⟨⟨⟨by simp, trivial⟩, trivial⟩, .inl (by decide)⟩
  exact ⟨trace, final, run, recorded, (claimable_matches_pending run rfl).mpr clean⟩

/-- The first of three claims expires; a payment of the second drops it, and the
total of the user still counts it beside the third. -/
theorem expired_claim_stays_counted :
    ∃ trace final, Run (ClaimStep ReferenceLedger.token ⟨0⟩) claimSample trace final ∧
      claimSample.storage.claims = .empty ∧
        (trace.map fun event => event.label.env.timestamp) = [0, 100, 100, 2592050] ∧
          final.storage.claims.claimableAmount ⟨5⟩ = 9 ∧
            claimSum (final.storage.claims.pendingClaims ⟨5⟩) = 6 ∧
              ¬∀ event ∈ trace, event.after.storage.claims.Balanced := by
  refine ⟨_, _, .snoc (.snoc (.snoc (.snoc .nil
      (@ClaimStep.addPendingClaim _ _ _ (.signedByAll ⟨0⟩ 0) _ ⟨5⟩ .verifierReward 3 0 _ none _
        rfl rfl))
      (@ClaimStep.addPendingClaim _ _ _ (.signedByAll ⟨0⟩ 100) _ ⟨5⟩ .feeRebate 4 0 _ none _
        rfl rfl))
      (@ClaimStep.addPendingClaim _ _ _ (.signedByAll ⟨0⟩ 100) _ ⟨5⟩ .disputeReward 6 0 _ none _
        rfl rfl))
      (@ClaimStep.processClaims _ _ _ (.signedByAll ⟨0⟩ 2592050) _ _ ⟨5⟩ [.feeRebate] 0 _ _
        rfl rfl rfl), rfl, rfl, rfl, rfl, ?_⟩
  intro every
  have last := every _ (List.mem_append_right _ List.mem_cons_self) ⟨5⟩
  exact absurd last (by decide)

end Sample

end CredenceBond
