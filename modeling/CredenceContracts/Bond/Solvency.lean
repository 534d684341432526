import CredenceContracts.Bond.Change
import CredenceContracts.Library.Totals

/-!
# Solvency of the bond contract

The contract owes the withdrawable stake and every claimable amount.  Deposits,
early exits and payments keep what it holds at or above what it owes; a slash
sends all that it takes to the treasury and adds a claim on a tenth of it, so it
keeps the contract solvent exactly when other tokens cover that claim.
-/

namespace CredenceBond

open Soroban MachineInt Transition

/-- The sum over all users of what they may claim. -/
noncomputable def ClaimStore.claimableTotal (claims : ClaimStore) : Int :=
  ∑ᶠ user, claims.claimableAmount user

section Totals

variable {claims : ClaimStore} {user : Address}

theorem finite_empty : ClaimStore.empty.claimableAmount.HasFiniteSupport := by
  simp [ClaimStore.empty, Function.HasFiniteSupport]

theorem claimableTotal_empty : ClaimStore.empty.claimableTotal = 0 := by
  simp [ClaimStore.claimableTotal, ClaimStore.empty]

theorem claimableTotal_withClaim (finite : claims.claimableAmount.HasFiniteSupport)
    (claim : PendingClaim) :
    (claims.withClaim user claim).claimableTotal = claims.claimableTotal + claim.amount := by
  have updated := Totals.finsum_update finite user (claims.claimableAmount user + claim.amount)
  calc (claims.withClaim user claim).claimableTotal
    _ = claims.claimableTotal - claims.claimableAmount user +
        (claims.claimableAmount user + claim.amount) := updated
    _ = claims.claimableTotal + claim.amount := by omega

theorem claimableTotal_setPending (finite : claims.claimableAmount.HasFiniteSupport)
    (pending : List PendingClaim) (claimable : Int)
    (claimById : Nat → Option PendingClaim) :
    ({ claims with claimById }.setPending user pending claimable).claimableTotal =
      claims.claimableTotal - claims.claimableAmount user + claimable :=
  Totals.finsum_update finite user claimable

theorem ClaimChange.finite {before after : ClaimStore} {uncounted : List PendingClaim}
    (change : ClaimChange before uncounted after)
    (finite : before.claimableAmount.HasFiniteSupport) :
    after.claimableAmount.HasFiniteSupport := by
  cases change with
  | kept => exact finite
  | added => exact Totals.finite_update finite _ _
  | removed => exact Totals.finite_update finite _ _

end Totals

section Solvency

variable {Ledger : Type} (ext : Externals Ledger) (self asset : Address)

/-- The contract holds at least the stake and all that users may claim. -/
def Solvent (state : State Ledger) : Prop :=
  state.storage.stake + state.storage.claims.claimableTotal ≤
    ext.token.balance state.ledger asset self

/-- What the contract holds beyond the stake and the claims covers a tenth of what
the slash takes; dust that the slash wipes out counts as held, and so does the
slash itself where the treasury is the contract. -/
def SlashBacked (before : State Ledger) (amount : Int) : Prop :=
  ∀ bond, before.storage.bond = some bond →
    bond.stake + before.storage.claims.claimableTotal + slashReward bond amount ≤
      ext.token.balance before.ledger asset self + slashedDust bond amount +
        (if before.storage.slashTreasury = some self then slashedPart bond amount else 0)

/-- The condition on a step: a slash is backed. -/
def Label.Backed (label : Label) (before : State Ledger) : Prop :=
  match label.act with
  | .call (.slash _ amount) => SlashBacked ext self asset before amount
  | _ => True

/-- The calls that deposit, slash, leave early and pay claims. -/
def Act.movesFunds : Act → Bool
  | .call (.createBond ..) | .call (.topUp ..) | .call (.slash ..)
  | .call (.withdrawEarly ..) | .call (.processClaims ..) | .elsewhere => true
  | .call _ => false

/-- What these calls keep: sound claims of finitely many users, a bond that is not
slashed beyond its amount, and the token. -/
structure Funded (state : State Ledger) : Prop where
  claims : SoundClaims state.storage.claims
  finite : state.storage.claims.claimableAmount.HasFiniteSupport
  stake : 0 ≤ state.storage.stake
  token : state.storage.bondToken = some asset

end Solvency

section Steps

variable {Ledger : Type} {ext : Externals Ledger} {self asset : Address} {env : Env}
variable {before after : State Ledger} {identity : Address} {amount : Int}

theorem createBond_solvent {duration noticePeriodDuration : Nat} {isRolling : Bool}
    (exact : ext.token.Exact) (funded : Funded asset before)
    (addressed : env.currentContractAddress = self)
    (done : createBond ext env before identity amount duration isRolling noticePeriodDuration =
      .ok after) :
    Funded asset after ∧ (Solvent ext self asset before → Solvent ext self asset after) := by
  obtain ⟨-, low, -, received, stored⟩ := createBond_ok done
  obtain ⟨raised, nonnegative, -⟩ := receiveDeposit_ok exact funded.token received
  rw [addressed] at raised
  have staked : after.storage.stake = amount := by
    rw [stored]
    simp [Storage.stake, IdentityBond.stake]
  have claims : after.storage.claims = before.storage.claims := by rw [stored]
  refine ⟨⟨claims ▸ funded.claims, claims ▸ funded.finite, staked ▸ nonnegative, ?_⟩, ?_⟩
  · rw [stored]
    exact funded.token
  · intro solvent
    have held := funded.stake
    unfold Solvent at solvent ⊢
    rw [staked, claims, raised]
    omega

theorem topUp_solvent (exact : ext.token.Exact) (funded : Funded asset before)
    (addressed : env.currentContractAddress = self)
    (done : topUp ext env before identity amount = .ok after) :
    Funded asset after ∧ (Solvent ext self asset before → Solvent ext self asset after) := by
  obtain ⟨bond, found, -, -, -, -, received, stored⟩ := topUp_ok done
  obtain ⟨raised, nonnegative, -⟩ := receiveDeposit_ok exact funded.token received
  rw [addressed] at raised
  have staked : after.storage.stake = before.storage.stake + amount := by
    rw [stored]
    simp only [Storage.stake, IdentityBond.stake, found]
    omega
  have claims : after.storage.claims = before.storage.claims := by rw [stored]
  have held := funded.stake
  refine ⟨⟨claims ▸ funded.claims, claims ▸ funded.finite, by omega, ?_⟩, ?_⟩
  · rw [stored]
    exact funded.token
  · intro solvent
    unfold Solvent at solvent ⊢
    rw [staked, claims, raised]
    omega

theorem withdrawEarly_solvent (exact : ext.token.Exact) (funded : Funded asset before)
    (addressed : env.currentContractAddress = self)
    (done : withdrawEarly ext env before identity amount = .ok after) :
    Funded asset after ∧ (Solvent ext self asset before → Solvent ext self asset after) := by
  obtain ⟨bond, config, middle, found, -, -, within, -, -, first, second, stored⟩ :=
    withdrawEarly_ok done
  have penalised := (transferFromContract_ok exact funded.token first).2
  have paid := (transferFromContract_ok exact funded.token second).2
  rw [addressed] at penalised paid
  have staked : after.storage.stake = before.storage.stake - amount := by
    rw [stored]
    simp only [Storage.stake, IdentityBond.stake, found]
    omega
  have covered : amount ≤ before.storage.stake := by simpa [Storage.stake, found] using within
  have claims : after.storage.claims = before.storage.claims := by rw [stored]
  refine ⟨⟨claims ▸ funded.claims, claims ▸ funded.finite, by omega, ?_⟩, ?_⟩
  · rw [stored]
    exact funded.token
  · intro solvent
    unfold Solvent at solvent ⊢
    rw [staked, claims, paid, penalised]
    omega

/-- A payment with something to pay pays a positive amount, and the running total
of the user falls by that amount at least. -/
theorem payable_covered {claims : ClaimStore} {now maxClaims : Nat} {user : Address}
    {claimTypes : List ClaimType} (sound : SoundClaims claims)
    (some : claims.payable now user claimTypes maxClaims ≠ []) :
    0 < claimSum (claims.payable now user claimTypes maxClaims) ∧
      (if claims.staying now user claimTypes maxClaims = [] then 0
        else claims.claimableAmount user -
          claimSum (claims.payable now user claimTypes maxClaims)) ≤
        claims.claimableAmount user -
          claimSum (claims.payable now user claimTypes maxClaims) := by
  obtain ⟨total, lapsing, -⟩ :=
    sound.split_sum (claims.batch_perm now user claimTypes maxClaims)
  have covered := sound.covered user
  refine ⟨claimSum_pos (fun claim member => sound.positive (Sift.mem_taken member).1) some, ?_⟩
  split
  · rename_i none
    rw [none, claimSum_nil] at total
    omega
  · exact le_rfl

theorem processClaims_solvent {user : Address} {claimTypes : List ClaimType}
    {maxClaims : Nat} {result : ClaimResult} (exact : ext.token.Exact)
    (funded : Funded asset before) (addressed : env.currentContractAddress = self)
    (done : processClaims env ext.token before user claimTypes maxClaims =
      .ok (after, result)) :
    Funded asset after ∧ (Solvent ext self asset before → Solvent ext self asset after) := by
  have change := processClaims_change done
  obtain ⟨batch, batched, -, sent, stored⟩ := processClaims_ok done
  obtain ⟨-, some, -, remaining, total⟩ := processBatch_ok batched
  have staked : after.storage.stake = before.storage.stake := by
    rw [stored]
    rfl
  refine ⟨⟨change.sound funded.claims, change.finite funded.finite, staked ▸ funded.stake, ?_⟩, ?_⟩
  · rw [stored]
    exact funded.token
  · intro solvent
    obtain ⟨positive, fall⟩ := payable_covered funded.claims some
    have leaving : after.storage.claims.claimableTotal =
        before.storage.claims.claimableTotal - before.storage.claims.claimableAmount user +
          (if before.storage.claims.staying env.timestamp user claimTypes maxClaims = [] then 0
            else before.storage.claims.claimableAmount user -
              claimSum (before.storage.claims.payable env.timestamp user claimTypes
                maxClaims)) := by
      rw [stored, remaining, total]
      exact claimableTotal_setPending funded.finite _ _ _
    rw [total, payBatch_eq_ok positive] at sent
    obtain ⟨token, configured, transferred⟩ := sent
    obtain rfl : asset = token := Option.some.inj (funded.token.symm.trans configured)
    have moved := exact.transfer transferred self
    rw [addressed, if_pos rfl] at moved
    unfold Solvent at solvent ⊢
    have back : 0 ≤ if self = user then
        claimSum (before.storage.claims.payable env.timestamp user claimTypes maxClaims)
        else 0 := by
      split <;> omega
    rw [staked, leaving, moved]
    omega

/-- A slash leaves the contract solvent exactly when it is backed. -/
theorem slash_solvent {admin : Address} (exact : ext.token.Exact) (funded : Funded asset before)
    (addressed : env.currentContractAddress = self)
    (done : slash ext env before admin amount = .ok after) :
    Funded asset after ∧
      (Solvent ext self asset after ↔ SlashBacked ext self asset before amount) := by
  obtain ⟨bond, found, nonnegative, -, sent, claimed, within, -, stored⟩ := slash_ok done
  have held : before.storage.stake = bond.stake := by simp [Storage.stake, found]
  have part : 0 ≤ slashedPart bond amount := le_min (held ▸ funded.stake) nonnegative
  have reward : 0 ≤ slashReward bond amount := Int.tdiv_nonneg part (by decide)
  have staked : after.storage.stake =
      bond.stake - slashedPart bond amount - slashedDust bond amount := by
    rw [stored]
    simp only [Storage.stake, IdentityBond.stake]
    omega
  have rewarded : ClaimChange before.storage.claims [] after.storage.claims ∧
      after.storage.claims.claimableTotal =
        before.storage.claims.claimableTotal + slashReward bond amount := by
    rcases claimed with ⟨positive, claim, amount, numbered, unprocessed, added⟩ | ⟨none, kept⟩
    · rw [added, claimableTotal_withClaim funded.finite, amount]
      exact ⟨.added (amount ▸ positive) numbered unprocessed, rfl⟩
    · rw [kept]
      exact ⟨.kept, by omega⟩
  have moved : ext.token.balance after.ledger asset self =
      ext.token.balance before.ledger asset self - slashedPart bond amount +
        (if before.storage.slashTreasury = some self then slashedPart bond amount else 0) := by
    rcases sent with ⟨-, treasury, token, treasured, configured, transferred⟩ | ⟨none, same⟩
    · obtain rfl : asset = token := Option.some.inj (funded.token.symm.trans configured)
      have balance := exact.transfer transferred self
      rw [addressed, if_pos rfl] at balance
      simpa only [treasured, Option.some.injEq, eq_comm (a := self)] using balance
    · obtain nothing : slashedPart bond amount = 0 := le_antisymm none part
      simp [same, nothing]
  refine ⟨⟨rewarded.1.sound funded.claims, rewarded.1.finite funded.finite, ?_, ?_⟩, ?_⟩
  · rw [stored]
    simp only [Storage.stake, IdentityBond.stake]
    omega
  · rw [stored]
    exact funded.token
  · unfold Solvent SlashBacked
    rw [staked, rewarded.2, moved]
    simp only [found, Option.some.injEq, forall_eq']
    omega

/-- Every allowed step keeps the funds accounted for, and leaves the contract
solvent exactly when a slash in it is backed. -/
theorem step_solvent {label : Label} (exact : ext.token.Exact) (funded : Funded asset before)
    (stepped : Step ext self before label after) (moves : label.act.movesFunds = true) :
    Funded asset after ∧ (Solvent ext self asset before →
      (Solvent ext self asset after ↔ label.Backed ext self asset before)) := by
  cases stepped with
  | elsewhere kept =>
      refine ⟨⟨funded.claims, funded.finite, funded.stake, funded.token⟩, fun solvent => ?_⟩
      exact iff_of_true (solvent.trans (kept asset)) trivial
  | @call _ _ _ call addressed done =>
      cases call <;> simp only [invoke, Outcome.map_eq_ok] at done
      case createBond =>
        obtain ⟨kept, solvent⟩ := createBond_solvent exact funded addressed done
        exact ⟨kept, fun held => iff_of_true (solvent held) trivial⟩
      case topUp =>
        obtain ⟨kept, solvent⟩ := topUp_solvent exact funded addressed done
        exact ⟨kept, fun held => iff_of_true (solvent held) trivial⟩
      case withdrawEarly =>
        obtain ⟨kept, solvent⟩ := withdrawEarly_solvent exact funded addressed done
        exact ⟨kept, fun held => iff_of_true (solvent held) trivial⟩
      case slash =>
        obtain ⟨kept, same⟩ := slash_solvent exact funded addressed done
        exact ⟨kept, fun _ => same⟩
      case processClaims =>
        obtain ⟨⟨_, result⟩, done, rfl⟩ := done
        obtain ⟨kept, solvent⟩ := processClaims_solvent exact funded addressed done
        exact ⟨kept, fun held => iff_of_true (solvent held) trivial⟩
      all_goals cases moves

end Steps

section Runs

variable {Ledger : Type} {ext : Externals Ledger} {self asset : Address}
variable {start final : State Ledger} {trace : List (Event (State Ledger) Label)}

/-- Along a run of deposits, slashes, early exits and payments from a contract
without a bond or claims, the contract stays solvent if and only if every slash of
the run is backed. -/
theorem solvent_iff_slashes_backed (exact : ext.token.Exact)
    (run : Run (Step ext self) start trace final)
    (unbonded : start.storage.bond = none) (unclaimed : start.storage.claims = .empty)
    (configured : start.storage.bondToken = some asset)
    (nonnegative : 0 ≤ ext.token.balance start.ledger asset self)
    (moves : ∀ event ∈ trace, event.label.act.movesFunds = true) :
    (∀ event ∈ trace, Solvent ext self asset event.after) ↔
      ∀ event ∈ trace, event.label.Backed ext self asset event.before := by
  have none : start.storage.stake = 0 := by simp [Storage.stake, unbonded]
  have funded : Funded asset start :=
    ⟨unclaimed ▸ soundClaims_empty, unclaimed ▸ finite_empty, none.ge, configured⟩
  obtain ⟨allowed, -⟩ := run.restrict (fun event => event.label.act.movesFunds = true)
    (Funded asset) moves funded
    fun event moves funded stepped => (step_solvent exact funded stepped moves).1
  refine allowed.forall_after_iff (Solvent ext self asset) (Funded asset)
    (fun event => event.label.Backed ext self asset event.before) ?_ funded ?_ ?_
  · unfold Solvent
    rw [none, unclaimed, claimableTotal_empty]
    simpa using nonnegative
  · rintro event funded ⟨stepped, moves, -⟩
    exact (step_solvent exact funded stepped moves).1
  · rintro event funded solvent ⟨stepped, moves, -⟩
    exact (step_solvent exact funded stepped moves).2 solvent

end Runs

section Sample

theorem claimableTotal_single {claims : ClaimStore} {user : Address} {amount : Int}
    (single : claims.claimableAmount = Function.update (fun _ => 0) user amount) :
    claims.claimableTotal = amount := by
  have updated := Totals.finsum_update finite_empty user amount
  simpa [ClaimStore.claimableTotal, single, ClaimStore.empty] using updated

/-- A slash of nine adds no claim, so nothing has to back it. -/
theorem solvent_iff_slashes_backed_sample :
    ∃ trace final, Run (Step Externals.reference ⟨0⟩) bondSample trace final ∧
      trace.length = 3 ∧ final.storage.stake = 999999999999999991 ∧
        ∀ event ∈ trace, Solvent Externals.reference ⟨0⟩ ⟨9⟩ event.after := by
  obtain ⟨trace, final, run, recorded, left, moves, backed⟩ : ∃ trace final,
      Run (Step Externals.reference ⟨0⟩) bondSample trace final ∧ trace.length = 3 ∧
        final.storage.stake = 999999999999999991 ∧
          (∀ event ∈ trace, event.label.act.movesFunds = true) ∧
            ∀ event ∈ trace,
              event.label.Backed Externals.reference ⟨0⟩ ⟨9⟩ event.before := by
    refine ⟨_, _, .snoc (.snoc (.snoc .nil
      (.follow (.signedByAll ⟨0⟩ 0) (.createBond ⟨5⟩ 2000000000000000000 60 false 0) rfl
        (by decide +kernel)))
      (.follow (.signedByAll ⟨0⟩ 10) (.slash ⟨1⟩ 9) rfl (by decide +kernel)))
      (.follow (.signedByAll ⟨0⟩ 20) (.withdrawEarly ⟨5⟩ 1000000000000000000) rfl
        (by decide +kernel)), rfl, by decide +kernel, ?_, ?_⟩
    · simp only [List.forall_mem_append, List.forall_mem_singleton]
      exact ⟨⟨⟨by simp, rfl⟩, rfl⟩, rfl⟩
    · simp only [List.forall_mem_append, List.forall_mem_singleton]
      refine ⟨⟨⟨by simp, trivial⟩, ?_⟩, trivial⟩
      rintro bond ⟨⟩
      change 2000000000000000000 + ClaimStore.empty.claimableTotal + 0 ≤
        (2000000000000000000 + 0 + 0 : Int)
      rw [claimableTotal_empty]
  exact ⟨trace, final, run, recorded, left,
    (solvent_iff_slashes_backed ReferenceLedger.exact run rfl rfl rfl (by decide) moves).mpr
      backed⟩

/-- A slash of the whole bond sends all that the contract holds to the treasury and
adds a claim on a tenth of it. -/
theorem slash_claim_unbacked :
    ∃ trace final, Run (Step Externals.reference ⟨0⟩) bondSample trace final ∧
      trace.map (·.label.act) = [.call (.createBond ⟨5⟩ 1000000000000000000 60 false 0),
        .call (.slash ⟨1⟩ 1000000000000000000)] ∧
      Externals.reference.token.balance final.ledger ⟨9⟩ ⟨0⟩ = 0 ∧
        final.storage.claims.claimableAmount ⟨1⟩ = 100000000000000000 ∧
          ¬∀ event ∈ trace, Solvent Externals.reference ⟨0⟩ ⟨9⟩ event.after := by
  obtain ⟨trace, final, run, acts, held, staked, claimed, event, last, rfl⟩ : ∃ trace final,
      Run (Step Externals.reference ⟨0⟩) bondSample trace final ∧
        trace.map (·.label.act) = [.call (.createBond ⟨5⟩ 1000000000000000000 60 false 0),
          .call (.slash ⟨1⟩ 1000000000000000000)] ∧
        Externals.reference.token.balance final.ledger ⟨9⟩ ⟨0⟩ = 0 ∧
          final.storage.stake = 0 ∧
            final.storage.claims.claimableAmount =
              Function.update (fun _ => 0) ⟨1⟩ 100000000000000000 ∧
            ∃ event ∈ trace, event.after = final :=
    ⟨_, _, .snoc (.snoc .nil
      (.follow (.signedByAll ⟨0⟩ 0) (.createBond ⟨5⟩ 1000000000000000000 60 false 0) rfl
        (by decide +kernel)))
      (.follow (.signedByAll ⟨0⟩ 10) (.slash ⟨1⟩ 1000000000000000000) rfl (by decide +kernel)),
      rfl, by decide +kernel, by decide +kernel, rfl,
      _, List.mem_append_right _ List.mem_cons_self, rfl⟩
  refine ⟨trace, event.after, run, acts, held, by simp [claimed], fun every => ?_⟩
  have solvent := every event last
  unfold Solvent at solvent
  rw [staked, held, claimableTotal_single claimed] at solvent
  exact absurd solvent (by decide)

end Sample

end CredenceBond
