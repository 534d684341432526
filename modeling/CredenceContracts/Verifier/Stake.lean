import CredenceContracts.Library.Totals
import CredenceContracts.Verifier.Spec

/-!
# The stakes of the verifiers

The stake in a verifier's record, the stake its attestations are weighed by and the
tokens it has paid in and not got back are the same amount.
-/

namespace Verifier

open Soroban Transition

variable {Ledger : Type} {token : TokenInterface Ledger} {self : Address}

section Amounts

/-- What a step adds to the stake of a verifier. -/
def Label.deposited (verifier : Address) (label : Label Ledger) : Int :=
  match label.act with
  | .call (.registerWithStake payer stakeDeposit) => if verifier = payer then stakeDeposit else 0
  | _ => 0

/-- What a step pays a verifier back. -/
def Label.withdrawn (verifier : Address) (label : Label Ledger) : Int :=
  match label.act with
  | .call (.withdrawStake recipient amount) => if verifier = recipient then amount else 0
  | _ => 0

/-- The tokens that a step pulls in. -/
def Label.pulledIn (label : Label Ledger) : Int :=
  match label.act with
  | .call (.registerWithStake _ stakeDeposit) => stakeDeposit
  | _ => 0

/-- The tokens that a step pays out. -/
def Label.paidOut (label : Label Ledger) : Int :=
  match label.act with
  | .call (.withdrawStake _ amount) => amount
  | _ => 0

end Amounts

/-- The flags and the stakes agree, and nobody's stake is negative. -/
structure Sound (storage : Storage) : Prop where
  stake : ∀ verifier, stakeOf storage verifier = getAttesterStake storage verifier
  nonneg : ∀ verifier, 0 ≤ stakeOf storage verifier
  role : ∀ verifier, storage.attester verifier = true ↔
    storage.verifierRole verifier = some true

/-- No verifier was registered yet, and no stake or flag set. -/
structure Fresh (storage : Storage) : Prop where
  verifierInfo : storage.verifierInfo = fun _ => none
  verifierRole : storage.verifierRole = fun _ => none
  attester : storage.attester = fun _ => false
  attesterStake : storage.attesterStake = fun _ => none

section Steps

variable {before after : Storage} {state reached : State Ledger} {label : Label Ledger}

theorem Fresh.stakeOf_eq (fresh : Fresh before) (verifier : Address) :
    stakeOf before verifier = 0 := by
  simp [stakeOf, fresh.verifierInfo]

theorem Fresh.sound (fresh : Fresh before) : Sound before where
  stake verifier := by simp [fresh.stakeOf_eq, getAttesterStake, fresh.attesterStake]
  nonneg verifier := (fresh.stakeOf_eq verifier).ge
  role verifier := by simp [fresh.attester, fresh.verifierRole]

theorem getAttesterStake_of_set {verifier : Address} {amount : Int}
    (written : after.attesterStake = Function.update before.attesterStake verifier (some amount)) :
    getAttesterStake after = Function.update (getAttesterStake before) verifier amount := by
  funext other
  by_cases same : other = verifier
  · simp [same, getAttesterStake, written]
  · simp [same, getAttesterStake, written]

/-- Writing the same stake in both places keeps them in step. -/
theorem Sound.of_restaked {verifier : Address} {info : VerifierInfo} (sound : Sound before)
    (infos : after.verifierInfo = Function.update before.verifierInfo verifier (some info))
    (stakes : after.attesterStake =
      Function.update before.attesterStake verifier (some info.stake))
    (nonneg : 0 ≤ info.stake)
    (role : ∀ other, after.attester other = true ↔ after.verifierRole other = some true) :
    Sound after where
  stake other := by
    rw [stakeOf_of_put infos, getAttesterStake_of_set stakes, funext sound.stake]
  nonneg other := by
    rw [stakeOf_of_put infos, Function.update_apply]
    split
    · exact nonneg
    · exact sound.nonneg other
  role := role

theorem Sound.of_kept (sound : Sound before) (infos : stakeOf after = stakeOf before)
    (stakes : after.attesterStake = before.attesterStake)
    (role : ∀ other, after.attester other = true ↔ after.verifierRole other = some true) :
    Sound after where
  stake other := by
    rw [infos, sound.stake other]
    simp [getAttesterStake, stakes]
  nonneg other := by
    rw [infos]
    exact sound.nonneg other
  role := role

theorem Sound.change {call : Call} (sound : Sound before)
    (change : VerifierChange before after call) : Sound after := by
  have flags {verifier : Address} (enabled : Bool) (other : Address) :
      Function.update before.attester verifier enabled other = true ↔
        Function.update before.verifierRole verifier (some enabled) other = some true := by
    by_cases same : other = verifier
    · simp [same]
    · simp [same, sound.role other]
  cases change with
  | enrolled _ _ nonneg stored =>
      refine sound.of_restaked (by rw [stored]) (by rw [stored]) nonneg ?_
      rw [stored]
      exact flags true
  | withdrawn _ _ _ nonneg stored =>
      refine sound.of_restaked (by rw [stored]) (by rw [stored]) nonneg ?_
      rw [stored]
      exact sound.role
  | disabled _ stakes stored =>
      refine sound.of_kept stakes (by rw [stored]) ?_
      rw [stored]
      exact flags false
  | noted _ stakes stored =>
      refine sound.of_kept stakes (by rw [stored]) ?_
      rw [stored]
      exact sound.role

/-- A call adds its flow to one stake. -/
theorem stakes_change {call : Call} (change : VerifierChange before after call) :
    (∃ verifier amount, call.flow = some (verifier, amount) ∧
      stakeOf after = Function.update (stakeOf before) verifier
        (stakeOf before verifier + amount)) ∨
      call.flow = none ∧ stakeOf after = stakeOf before := by
  cases change with
  | @enrolled call verifier info deposit registers staked _ stored =>
      have written := stakeOf_of_put (congrArg Storage.verifierInfo stored)
      rw [staked] at written
      rcases registers with rfl | ⟨still, rfl⟩
      · exact .inl ⟨verifier, deposit, rfl, written⟩
      · refine .inr ⟨still, ?_⟩
        rw [written, add_zero, Function.update_eq_self]
  | @withdrawn verifier amount found info held _ paid _ stored =>
      refine .inl ⟨verifier, -amount, rfl, ?_⟩
      rw [stakeOf_of_put (congrArg Storage.verifierInfo stored), paid, stakeOf_of_info held]
      rfl
  | disabled still stakes _ => exact .inr ⟨still, stakes⟩
  | noted still stakes _ => exact .inr ⟨still, stakes⟩

/-- What a call moves is deposited or withdrawn by one verifier, pulled in or paid out. -/
theorem amounts_of_flow {call : Call} (acts : label.act = .call call) :
    (∀ verifier, label.deposited verifier - label.withdrawn verifier =
      call.flow.elim 0 fun moved => if verifier = moved.1 then moved.2 else 0) ∧
      label.pulledIn - label.paidOut = call.flow.elim 0 Prod.snd := by
  cases call with
  | registerWithStake payer stakeDeposit =>
      simp [Label.deposited, Label.withdrawn, Label.pulledIn, Label.paidOut, Call.flow, acts]
  | withdrawStake recipient amount =>
      refine ⟨fun verifier => ?_, by simp [Label.pulledIn, Label.paidOut, Call.flow, acts]⟩
      by_cases same : verifier = recipient <;>
        simp [Label.deposited, Label.withdrawn, Call.flow, acts, same]
  | _ => simp [Label.deposited, Label.withdrawn, Label.pulledIn, Label.paidOut, Call.flow, acts]

/-- A step changes every stake by what is deposited and withdrawn. -/
theorem step_stake (stepped : Step token self state label reached) (verifier : Address) :
    stakeOf reached.storage verifier = stakeOf state.storage verifier +
      label.deposited verifier - label.withdrawn verifier := by
  cases stepped with
  | elsewhere => simp [Label.deposited, Label.withdrawn]
  | @call env _ _ call addressed done =>
      have part := (amounts_of_flow (rfl : (⟨env, .call call⟩ : Label Ledger).act = _)).1 verifier
      rcases stakes_change (invoke_change done).1 with ⟨payer, amount, flow, written⟩ |
        ⟨still, kept⟩
      · simp only [flow, Option.elim_some] at part
        rw [written, Function.update_apply]
        split_ifs at part ⊢ with same
        · rw [same] at part ⊢
          omega
        · omega
      · simp only [still, Option.elim_none] at part
        rw [kept]
        omega

/-- A step changes the total of the stakes by the tokens that move. -/
theorem step_total (stepped : Step token self state label reached)
    (finite : (stakeOf state.storage).HasFiniteSupport) :
    (stakeOf reached.storage).HasFiniteSupport ∧
      ∑ᶠ verifier, stakeOf reached.storage verifier =
        ∑ᶠ verifier, stakeOf state.storage verifier + label.pulledIn - label.paidOut := by
  cases stepped with
  | elsewhere => simpa [Label.pulledIn, Label.paidOut] using finite
  | @call env _ _ call addressed done =>
      have whole := (amounts_of_flow (rfl : (⟨env, .call call⟩ : Label Ledger).act = _)).2
      rcases stakes_change (invoke_change done).1 with ⟨payer, amount, flow, written⟩ |
        ⟨still, kept⟩
      · simp only [flow, Option.elim_some] at whole
        rw [written, Totals.finsum_update finite]
        exact ⟨Totals.finite_update finite payer _, by omega⟩
      · simp only [still, Option.elim_none] at whole
        rw [kept]
        exact ⟨finite, by omega⟩

/-- The token is not replaced. -/
theorem step_bondToken (stepped : Step token self state label reached) :
    reached.storage.bondToken = state.storage.bondToken := by
  cases stepped with
  | elsewhere => rfl
  | call _ done =>
      cases (invoke_change done).1 with
      | enrolled _ _ _ stored | withdrawn _ _ _ _ stored | disabled _ _ stored
      | noted _ _ stored => rw [stored]

theorem Sound.step (sound : Sound state.storage)
    (stepped : Step token self state label reached) : Sound reached.storage := by
  cases stepped with
  | elsewhere => exact sound
  | call _ done => exact sound.change (invoke_change done).1

/-- What the contract holds changes by the tokens that a call pulls in and pays out. -/
theorem step_held {call : Call} {asset : Address} (exact : token.Exact)
    (stepped : Step token self state label reached) (acts : label.act = .call call)
    (configured : state.storage.bondToken = some asset)
    (foreign : ∀ amount, call.flow ≠ some (self, amount)) :
    token.balance reached.ledger asset self =
      token.balance state.ledger asset self + label.pulledIn - label.paidOut := by
  have whole := (amounts_of_flow acts).2
  cases stepped with
  | elsewhere => cases acts
  | call addressed done =>
      cases acts
      have settles := (invoke_change done).2 asset configured exact
      rw [addressed] at settles
      unfold Settles at settles
      split at settles
      · rename_i payer amount flow
        have other : self ≠ payer := by
          rintro rfl
          exact foreign amount flow
        have moved := settles self
        simp only [flow, Option.elim_some] at whole
        rw [if_neg other, if_pos rfl] at moved
        omega
      · rename_i still
        simp only [still, Option.elim_none] at whole
        rw [settles]
        omega

theorem withdrawn_inactive {env : Env} {verifier : Address} {amount : Int}
    (stepped : Step token self state ⟨env, .call (.withdrawStake verifier amount)⟩ reached) :
    ∃ info, state.storage.verifierInfo verifier = some info ∧ info.active = false := by
  cases stepped with
  | call _ done =>
      cases (invoke_change done).1 with
      | withdrawn held inactive _ _ _ => exact ⟨_, held, inactive⟩
      | enrolled registers _ _ _ => simp [Call.flow] at registers
      | disabled still _ _ | noted still _ _ => cases still

end Steps

section Runs

variable {start final : State Ledger} {trace : List (Event (State Ledger) (Label Ledger))}

/-- In every run that begins without verifiers the stake of every verifier is what its
attestations are weighed by and what it deposited less what it withdrew; the stakes
together are the tokens pulled in less those paid out, which are the tokens that move;
stake is withdrawn by inactive verifiers only; and the flag that attestations are gated by
is set exactly for those with the role. -/
theorem stakes_conserved (exact : token.Exact) (run : Run (Step token self) start trace final)
    (fresh : Fresh start.storage) :
    (∀ verifier info, final.storage.verifierInfo verifier = some info →
      info.stake = getAttesterStake final.storage verifier ∧ 0 ≤ info.stake ∧
        info.stake = (trace.map (·.label.deposited verifier)).sum -
          (trace.map (·.label.withdrawn verifier)).sum) ∧
      ∑ᶠ verifier, stakeOf final.storage verifier =
        (trace.map (·.label.pulledIn)).sum - (trace.map (·.label.paidOut)).sum ∧
      (∀ event ∈ trace, ∀ call asset, event.label.act = .call call →
        (∀ amount, call.flow ≠ some (self, amount)) →
          start.storage.bondToken = some asset →
            token.balance event.after.ledger asset self =
              token.balance event.before.ledger asset self + event.label.pulledIn -
                event.label.paidOut) ∧
      (∀ event ∈ trace, ∀ verifier amount,
        event.label.act = .call (.withdrawStake verifier amount) →
          ∃ info, event.before.storage.verifierInfo verifier = some info ∧
            info.active = false) ∧
      ∀ verifier, final.storage.attester verifier = true ↔
        final.storage.verifierRole verifier = some true := by
  have sound : Sound final.storage :=
    run.invariant (fun state => Sound state.storage) fresh.sound fun _ sound stepped =>
      sound.step stepped
  have finite : (stakeOf start.storage).HasFiniteSupport := by
    simp [Function.HasFiniteSupport, funext fresh.stakeOf_eq]
  refine ⟨fun verifier info found => ?_, ?_, ?_, ?_, sound.role⟩
  · rw [← stakeOf_of_info found]
    refine ⟨sound.stake verifier, sound.nonneg verifier, ?_⟩
    rw [run.sum_eq (fun state => stakeOf state.storage verifier)
      (fun event => event.label.deposited verifier) (fun event => event.label.withdrawn verifier)
      fun event stepped => step_stake stepped verifier, fresh.stakeOf_eq, zero_add]
  · obtain ⟨narrowed, -⟩ := run.restrict (fun _ => True)
      (fun state => (stakeOf state.storage).HasFiniteSupport) (fun _ _ => trivial) finite
      fun _ _ finite stepped => (step_total stepped finite).1
    rw [narrowed.sum_eq (fun state => ∑ᶠ verifier, stakeOf state.storage verifier)
      (fun event => event.label.pulledIn) (fun event => event.label.paidOut)
      fun event ⟨stepped, _, finite⟩ => (step_total stepped finite).2]
    simp [fresh.stakeOf_eq]
  · intro event member call asset acts foreign configured
    obtain ⟨earlier, reached, stepped⟩ := run.reached_of_mem member
    have same : event.before.storage.bondToken = some asset :=
      reached.invariant (fun state => state.storage.bondToken = some asset) configured
        fun _ kept stepped => (step_bondToken stepped).trans kept
    exact step_held exact stepped acts same foreign
  · rintro ⟨before, ⟨env, act⟩, after⟩ member verifier amount rfl
    exact withdrawn_inactive (run.stepped_of_mem member)

end Runs

section Sample

/-- Everyone holds some of every token, and has approved the contract. -/
def sampleState : State ReferenceLedger where
  storage := .configured ⟨9⟩
  ledger := {
    holding := fun _ _ => 1000
    approved := fun _ _ _ => 1000 }

/-- A verifier stakes, tops up, is deactivated and withdraws a part; another one is known
by an attestation only. -/
def stakedAndWithdrawn : List (Label ReferenceLedger) :=
  [ ⟨.signedByAll ⟨0⟩ 10, .call (.registerWithStake ⟨5⟩ 100)⟩,
    ⟨.signedByAll ⟨0⟩ 20, .call (.registerWithStake ⟨5⟩ 50)⟩,
    ⟨.signedByAll ⟨0⟩ 30, .call (.recordAttestationIssued ⟨6⟩ 3)⟩,
    ⟨.signedByAll ⟨0⟩ 40, .call (.deactivateIfExists ⟨5⟩)⟩,
    ⟨.signedByAll ⟨0⟩ 50, .call (.withdrawStake ⟨5⟩ 60)⟩ ]

theorem stakes_conserved_sample :
    ∃ trace final, Run (Step ReferenceLedger.token ⟨0⟩) sampleState trace final ∧
      (∃ info, final.storage.verifierInfo ⟨5⟩ = some info ∧ info.stake = 90 ∧
        info.stake = (trace.map (·.label.deposited ⟨5⟩)).sum -
          (trace.map (·.label.withdrawn ⟨5⟩)).sum) ∧
        ReferenceLedger.token.balance final.ledger ⟨9⟩ ⟨0⟩ = 1090 := by
  have run : Run (Step ReferenceLedger.token ⟨0⟩) sampleState
      (record (next ReferenceLedger.token ⟨0⟩) sampleState stakedAndWithdrawn)
      (stakedAndWithdrawn.foldl (advance (next ReferenceLedger.token ⟨0⟩)) sampleState) :=
    run_of_record step_of_next (by decide +kernel)
  obtain ⟨stakes, -⟩ := stakes_conserved ReferenceLedger.exact run ⟨rfl, rfl, rfl, rfl⟩
  refine ⟨_, _, run, ⟨_, rfl, by decide +kernel, (stakes ⟨5⟩ _ rfl).2.2⟩, by decide +kernel⟩

end Sample

end Verifier
