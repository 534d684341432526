import CredenceContracts.Verifier.Contract

/-!
# What the calls do to the stakes

Which records, flags and tokens a successful call writes.
-/

namespace Verifier

open Soroban MachineInt Transition

variable {Ledger : Type} {token : TokenInterface Ledger} {env : Env}
variable {storage stored before after : Storage} {state reached : State Ledger}
variable {verifier : Address} {amount : Int} {info : VerifierInfo}

/-- The stake on record for a verifier. -/
def stakeOf (storage : Storage) (verifier : Address) : Int :=
  ((storage.verifierInfo verifier).map VerifierInfo.stake).getD 0

theorem stakeOf_of_info (found : storage.verifierInfo verifier = some info) :
    stakeOf storage verifier = info.stake := by
  simp [stakeOf, found]

theorem stakeOf_of_put
    (written : after.verifierInfo = Function.update before.verifierInfo verifier (some info)) :
    stakeOf after = Function.update (stakeOf before) verifier info.stake := by
  funext other
  by_cases same : other = verifier
  · simp [same, stakeOf, written]
  · simp [same, stakeOf, written]

/-- The verifier whose tokens a call moves, and what the contract gets of them. -/
def Call.flow : Call → Option (Address × Int)
  | .registerWithStake verifier stakeDeposit => some (verifier, stakeDeposit)
  | .withdrawStake verifier amount => some (verifier, -amount)
  | _ => none

theorem enroll_eq_ok :
    enroll storage verifier info = .ok stored ↔
      0 ≤ info.stake ∧ stored = { storage with
        verifierInfo := Function.update storage.verifierInfo verifier (some info)
        verifierRole := Function.update storage.verifierRole verifier (some true)
        attester := Function.update storage.attester verifier true
        attesterStake := Function.update storage.attesterStake verifier (some info.stake) } := by
  simp only [enroll, setAttesterStake, putVerifierInfo, setVerifierRole, Outcome.bind_eq_ok,
    Outcome.rejectIf_eq_ok, Outcome.pure_eq_ok, not_lt, exists_const]

/-- A deposit is added to the stake on record. -/
theorem stakedInfo_stake {minStake stakeDeposit : Int}
    (staked : stakedInfo env minStake stakeDeposit (storage.verifierInfo verifier) = .ok info) :
    info.stake = stakeOf storage verifier + stakeDeposit := by
  cases found : storage.verifierInfo verifier with
  | none =>
      simp only [found, stakedInfo, Outcome.bind_eq_ok, Outcome.pure_eq_ok] at staked
      obtain ⟨-, -, rfl⟩ := staked
      simp [stakeOf, found, newVerifierInfo]
  | some known =>
      rw [stakeOf_of_info found]
      simp only [found, stakedInfo] at staked
      split at staked
      · simp only [Outcome.bind_eq_ok, Outcome.pure_eq_ok, checkedI128_eq_ok] at staked
        obtain ⟨-, -, stake, ⟨-, rfl⟩, rfl⟩ := staked
        rfl
      · simp only [Outcome.bind_eq_ok, Outcome.pure_eq_ok, checkedI128_eq_ok] at staked
        obtain ⟨stake, ⟨-, rfl⟩, -, -, rfl⟩ := staked
        rfl

section Calls

/-- The ways a call changes the entries. -/
inductive VerifierChange (before after : Storage) : Call → Prop where
  | enrolled {call : Call} {verifier : Address} {info : VerifierInfo} {deposit : Int}
      (registers : call = .registerWithStake verifier deposit ∨ call.flow = none ∧ deposit = 0)
      (staked : info.stake = stakeOf before verifier + deposit) (nonneg : 0 ≤ info.stake)
      (stored : after = { before with
        verifierInfo := Function.update before.verifierInfo verifier (some info)
        verifierRole := Function.update before.verifierRole verifier (some true)
        attester := Function.update before.attester verifier true
        attesterStake := Function.update before.attesterStake verifier (some info.stake) }) :
      VerifierChange before after call
  | withdrawn {verifier : Address} {amount : Int} {found info : VerifierInfo}
      (held : before.verifierInfo verifier = some found) (inactive : found.active = false)
      (paid : info.stake = found.stake - amount) (nonneg : 0 ≤ info.stake)
      (stored : after = { before with
        verifierInfo := Function.update before.verifierInfo verifier (some info)
        attesterStake := Function.update before.attesterStake verifier (some info.stake) }) :
      VerifierChange before after (.withdrawStake verifier amount)
  | disabled {call : Call} {verifier : Address} (still : call.flow = none)
      (stakes : stakeOf after = stakeOf before)
      (stored : after = { before with
        verifierInfo := after.verifierInfo
        verifierRole := Function.update before.verifierRole verifier (some false)
        attester := Function.update before.attester verifier false }) :
      VerifierChange before after call
  | noted {call : Call} (still : call.flow = none) (stakes : stakeOf after = stakeOf before)
      (stored : after = { before with
        minStake := after.minStake
        verifierInfo := after.verifierInfo }) :
      VerifierChange before after call

/-- Rewriting a record under its old stake leaves all stakes as they were. -/
theorem stakeOf_of_kept (kept : info.stake = stakeOf storage verifier) :
    stakeOf (putVerifierInfo storage verifier info) = stakeOf storage := by
  have written : (putVerifierInfo storage verifier info).verifierInfo =
      Function.update storage.verifierInfo verifier (some info) := rfl
  rw [stakeOf_of_put written, kept, Function.update_eq_self]

theorem registerWithStake_ok {stakeDeposit : Int}
    (done : registerWithStake token env state verifier stakeDeposit = .ok (reached, info)) :
    VerifierChange state.storage reached.storage (.registerWithStake verifier stakeDeposit) ∧
      ∀ asset, state.storage.bondToken = some asset → token.Exact →
        token.Moves asset verifier env.currentContractAddress stakeDeposit state.ledger
          reached.ledger := by
  simp only [registerWithStake, Outcome.bind_eq_ok, Outcome.rejectIf_eq_ok] at done
  obtain ⟨-, nonneg, staked, recorded, storage, enrolled, done⟩ := done
  obtain ⟨positive, stored⟩ := enroll_eq_ok.mp enrolled
  have change : VerifierChange state.storage storage
      (.registerWithStake verifier stakeDeposit) :=
    .enrolled (.inl rfl) (stakedInfo_stake recorded) positive stored
  split at done
  · obtain ⟨ledger, moved, same⟩ := Outcome.bind_eq_ok.mp done
    obtain ⟨rfl, rfl⟩ := Prod.mk.inj (Outcome.pure_eq_ok.mp same)
    refine ⟨change, fun asset configured exact => ?_⟩
    exact SafeToken.safeTransferFrom_moves exact (by rw [stored]; exact configured) moved
  · obtain ⟨rfl, rfl⟩ := Prod.mk.inj (Outcome.pure_eq_ok.mp done)
    have zero : stakeDeposit = 0 := by omega
    exact ⟨change, fun _ _ _ account => by simp [zero]⟩

theorem withdrawStake_ok
    (done : withdrawStake token env state verifier amount = .ok (reached, info)) :
    VerifierChange state.storage reached.storage (.withdrawStake verifier amount) ∧
      ∀ asset, state.storage.bondToken = some asset → token.Exact →
        token.Moves asset env.currentContractAddress verifier amount state.ledger
          reached.ledger := by
  simp only [withdrawStake, Outcome.bind_eq_ok, Outcome.rejectIf_eq_ok, Outcome.unwrapOr_eq_ok,
    checkedI128_eq_ok, setAttesterStake, putVerifierInfo, Outcome.pure_eq_ok] at done
  obtain ⟨-, -, found, held, -, inactive, -, within, stake, ⟨-, rfl⟩, storage,
    ⟨-, positive, rfl⟩, -, -, ledger, moved, same⟩ := done
  obtain ⟨rfl, rfl⟩ := Prod.mk.inj same
  refine ⟨?_, fun asset configured exact =>
    SafeToken.safeTransfer_moves exact configured moved⟩
  exact .withdrawn held (by simpa using inactive) rfl (by simpa using positive) rfl

theorem deactivateVerifier_ok
    (done : deactivateVerifier env storage verifier = .ok (stored, info)) :
    stakeOf stored = stakeOf storage ∧ stored = { storage with
      verifierInfo := stored.verifierInfo
      verifierRole := Function.update storage.verifierRole verifier (some false)
      attester := Function.update storage.attester verifier false } := by
  simp only [deactivateVerifier, Outcome.bind_eq_ok, Outcome.unwrapOr_eq_ok,
    Outcome.pure_eq_ok] at done
  obtain ⟨found, held, -, -, same⟩ := done
  obtain ⟨rfl, rfl⟩ := Prod.mk.inj same
  refine ⟨stakeOf_of_kept ?_, rfl⟩
  exact (stakeOf_of_info held).symm

/-- What a call does to the token ledger. -/
def Settles (token : TokenInterface Ledger) (self asset : Address) (call : Call)
    (before after : Ledger) : Prop :=
  match call.flow with
  | some (verifier, amount) => token.Moves asset verifier self amount before after
  | none => after = before

theorem storing_ok {computation : Outcome Storage}
    (done : state.storing computation = .ok reached) :
    computation = .ok reached.storage ∧ reached.ledger = state.ledger := by
  simp only [State.storing, Outcome.bind_eq_ok, Outcome.pure_eq_ok] at done
  obtain ⟨stored, computed, rfl⟩ := done
  exact ⟨computed, rfl⟩

/-- A call that moves no tokens and rewrites a record under its old stake. -/
theorem noted_of_put {call : Call} (still : call.flow = none)
    (kept : info.stake = stakeOf storage verifier) :
    VerifierChange storage (putVerifierInfo storage verifier info) call :=
  .noted still (stakeOf_of_kept kept) rfl

/-- What the calls do that move no tokens. -/
theorem storing_change {call : Call} (still : call.flow = none)
    (done : invoke token env state call = .ok reached) :
    VerifierChange state.storage reached.storage call ∧ reached.ledger = state.ledger := by
  cases call with
  | registerWithStake verifier stakeDeposit => cases still
  | withdrawStake verifier amount => cases still
  | setMinStake minStake =>
      obtain ⟨done, kept⟩ := storing_ok done
      simp only [setMinStake, Outcome.bind_eq_ok, Outcome.pure_eq_ok] at done
      obtain ⟨-, -, stored⟩ := done
      refine ⟨.noted rfl ?_ ?_, kept⟩
      · rw [stored]
        rfl
      · rw [stored]
  | registerLegacy verifier =>
      obtain ⟨done, kept⟩ := storing_ok done
      obtain ⟨⟨stored, info⟩, done, same⟩ := Outcome.map_eq_ok.mp done
      simp only [registerLegacy, Outcome.bind_eq_ok, Outcome.pure_eq_ok, Prod.mk.injEq] at done
      obtain ⟨enrolled, done, rfl, rfl⟩ := done
      obtain ⟨nonneg, stored⟩ := enroll_eq_ok.mp done
      refine ⟨.enrolled (.inr ⟨rfl, rfl⟩) ?_ nonneg (same.trans stored), kept⟩
      cases found : state.storage.verifierInfo verifier with
      | none => simp [stakeOf, found, newVerifierInfo]
      | some known => simp [stakeOf, found]
  | deactivateVerifier verifier =>
      obtain ⟨done, kept⟩ := storing_ok done
      obtain ⟨⟨stored, info⟩, done, same⟩ := Outcome.map_eq_ok.mp done
      obtain ⟨stakes, stored⟩ := deactivateVerifier_ok done
      exact ⟨same ▸ .disabled rfl stakes stored, kept⟩
  | deactivateIfExists verifier =>
      obtain ⟨done, kept⟩ := storing_ok done
      refine ⟨?_, kept⟩
      have cleared : VerifierChange state.storage
          (setVerifierRole state.storage verifier false) (.deactivateIfExists verifier) :=
        .disabled rfl rfl rfl
      unfold deactivateIfExists at done
      split at done
      · split at done
        · obtain ⟨⟨stored, info⟩, done, same⟩ := Outcome.map_eq_ok.mp done
          obtain ⟨stakes, stored⟩ := deactivateVerifier_ok done
          exact same ▸ .disabled rfl stakes stored
        · exact Outcome.pure_eq_ok.mp done ▸ cleared
      · exact Outcome.pure_eq_ok.mp done ▸ cleared
  | setReputation verifier newReputation =>
      obtain ⟨done, kept⟩ := storing_ok done
      simp only [setReputation, Outcome.bind_eq_ok, Outcome.unwrapOr_eq_ok,
        Outcome.pure_eq_ok] at done
      obtain ⟨found, held, stored⟩ := done
      exact ⟨stored ▸ noted_of_put rfl (stakeOf_of_info held).symm, kept⟩
  | recordAttestationIssued verifier weight =>
      obtain ⟨done, kept⟩ := storing_ok done
      simp only [recordAttestationIssued, Outcome.bind_eq_ok, Outcome.pure_eq_ok] at done
      obtain ⟨attestationsIssued, -, reputation, -, stored⟩ := done
      refine ⟨stored ▸ noted_of_put rfl ?_, kept⟩
      cases found : state.storage.verifierInfo verifier with
      | none => simp [stakeOf, found, newVerifierInfo]
      | some known => simp [stakeOf, found]
  | recordAttestationRevoked verifier weight =>
      obtain ⟨done, kept⟩ := storing_ok done
      refine ⟨?_, kept⟩
      simp only [recordAttestationRevoked] at done
      split at done
      · exact Outcome.pure_eq_ok.mp done ▸ .noted rfl rfl rfl
      · rename_i found held
        simp only [Outcome.bind_eq_ok, Outcome.pure_eq_ok] at done
        obtain ⟨attestationsRevoked, -, reputation, -, stored⟩ := done
        exact stored ▸ noted_of_put rfl (stakeOf_of_info held).symm

/-- A call changes the entries in one of the ways, and the tokens by its flow. -/
theorem invoke_change {call : Call} (done : invoke token env state call = .ok reached) :
    VerifierChange state.storage reached.storage call ∧
      ∀ asset, state.storage.bondToken = some asset → token.Exact →
        Settles token env.currentContractAddress asset call state.ledger reached.ledger := by
  cases flow : call.flow with
  | none =>
      obtain ⟨change, kept⟩ := storing_change flow done
      refine ⟨change, fun _ _ _ => ?_⟩
      simpa [Settles, flow] using kept
  | some moved =>
      cases call with
      | registerWithStake verifier stakeDeposit =>
          obtain ⟨⟨reached, info⟩, done, rfl⟩ := Outcome.map_eq_ok.mp done
          exact registerWithStake_ok done
      | withdrawStake verifier amount =>
          obtain ⟨⟨reached, info⟩, done, rfl⟩ := Outcome.map_eq_ok.mp done
          obtain ⟨change, settles⟩ := withdrawStake_ok done
          refine ⟨change, fun asset configured exact account => ?_⟩
          have paid := settles asset configured exact account
          split_ifs at paid ⊢ <;> omega
      | _ => cases flow

end Calls

end Verifier
