import CredenceContracts.Delegation.PauseSpec
import CredenceContracts.Delegation.Replay

/-!
# The pause signers never lock the contract out

The signers are counted exactly, the threshold stays within their number and is zero
only while there are none, and the admin can always unpause.  The count is a 32-bit word
that saturates, so it is exact while there are fewer signers than it can hold.
-/

namespace Delegations

open Soroban Transition
open Pausable (AdminAuth)

variable {sha256 : Bytes → BytesN 32} {self : Address} {env : Env}
variable {storedAdmin : Option Address} {pauses pausesAfter : Pausable.Storage}
variable {storage after : Storage} {label : Label} {trace : List (Event Storage Label)}

/-- The count is the number of signers, and the threshold is within it and positive as
soon as there is one. -/
structure SignersCounted (pauses : Pausable.Storage) : Prop where
  counted : (Flags.raised pauses.pauseSigner).encard = pauses.pauseSignerCount
  reachable : pauses.pauseThreshold ≤ pauses.pauseSignerCount
  positive : pauses.pauseThreshold = 0 ↔ pauses.pauseSignerCount = 0

/-- There are fewer pause signers than a 32-bit word can count. -/
def FewSigners (pauses : Pausable.Storage) : Prop :=
  (Flags.raised pauses.pauseSigner).encard < (2 ^ 32 : Nat)

namespace SignersCounted

theorem of_same (counted : SignersCounted pauses)
    (same : signerEntries pausesAfter = signerEntries pauses) :
    SignersCounted pausesAfter := by
  obtain ⟨signer, count, threshold⟩ : pausesAfter.pauseSigner = pauses.pauseSigner ∧
      pausesAfter.pauseSignerCount = pauses.pauseSignerCount ∧
        pausesAfter.pauseThreshold = pauses.pauseThreshold := by
    simpa [signerEntries] using same
  constructor
  · rw [signer, count]
    exact counted.counted
  · rw [threshold, count]
    exact counted.reachable
  · rw [threshold, count]
    exact counted.positive

theorem withSigner {signer : Address} (counted : SignersCounted pauses)
    (absent : pauses.pauseSigner signer = false) (few : FewSigners (withSigner pauses signer)) :
    SignersCounted (withSigner pauses signer) := by
  have more := Flags.encard_raised_set absent
  rw [counted.counted] at more
  have fits : pauses.pauseSignerCount + 1 < 2 ^ 32 := by
    unfold FewSigners Delegations.withSigner at few
    rw [more] at few
    exact_mod_cast few
  have reachable := counted.reachable
  constructor
  · simp only [Delegations.withSigner, more]
    rw [min_eq_left (by omega)]
    rfl
  · simp only [Delegations.withSigner]
    split <;> omega
  · simp only [Delegations.withSigner]
    split <;> omega

theorem withoutSigner {signer : Address} (counted : SignersCounted pauses)
    (present : pauses.pauseSigner signer = true) :
    SignersCounted (withoutSigner pauses signer) := by
  have fewer := Flags.encard_raised_clear present
  rw [counted.counted] at fewer
  have positive := counted.positive
  have some : pauses.pauseSignerCount ≠ 0 := by
    intro zero
    simp [zero] at fewer
  constructor
  · have number : ((pauses.pauseSignerCount - 1 : Nat) : ENat) + 1 =
        pauses.pauseSignerCount := by
      exact_mod_cast Nat.succ_pred_eq_of_ne_zero some
    exact WithTop.add_right_cancel ENat.one_ne_top (fewer.trans number.symm)
  · simp only [Delegations.withoutSigner]
    omega
  · simp only [Delegations.withoutSigner]
    omega

/-- Every pause call keeps the signers counted while there are few. -/
theorem effect {call : Pausable.Call} (counted : SignersCounted pauses)
    (few : FewSigners pausesAfter)
    (effect : PauseEffect sha256 env storedAdmin pauses call pausesAfter) :
    SignersCounted pausesAfter := by
  cases effect.signers with
  | kept same => exact counted.of_same same
  | added absent stored =>
      rw [stored] at few ⊢
      exact counted.withSigner absent few
  | removed present stored =>
      rw [stored]
      exact counted.withoutSigner present
  | thresholdSet reachable positive stored =>
      rw [stored]
      refine ⟨counted.counted, reachable, positive, fun none => ?_⟩
      exact Nat.le_zero.mp (reachable.trans (Nat.le_zero.mpr none))

end SignersCounted

/-- Without an admin no call of the pause module succeeds. -/
theorem no_effect_deployed {call : Pausable.Call} :
    ¬PauseEffect sha256 env none .deployed call pausesAfter := by
  intro effect
  cases effect with
  | immediate _ signed => simp [AdminAuth] at signed
  | submitted slow => exact slow (.inl rfl)
  | signerKept signed => simp [AdminAuth] at signed
  | signerAdded signed => simp [AdminAuth] at signed
  | signerRemoved signed => simp [AdminAuth] at signed
  | thresholdSet signed => simp [AdminAuth] at signed
  | approved _ live => simp [Pausable.Storage.deployed] at live
  | executed found => simp [Pausable.Storage.deployed] at found

/-- The signers are counted, and before there is an admin there are none. -/
structure SignersSound (storage : Storage) : Prop where
  counted : SignersCounted storage.pause
  fresh : storage.admin = none → storage.pause = .deployed

theorem signersSound_deployed : SignersSound .deployed where
  counted := by constructor <;> simp [Storage.deployed, Pausable.Storage.deployed]
  fresh := fun _ => rfl

theorem signersSound_step (sound : SignersSound storage) (few : FewSigners after.pause)
    (stepped : Step sha256 self storage label after) : SignersSound after := by
  cases step_pause stepped with
  | kept _ pause admin => exact ⟨pause ▸ sound.counted, by rw [pause, admin]; exact sound.fresh⟩
  | started _ unset pause admin =>
      refine ⟨?_, fun none => ?_⟩
      · rw [pause, sound.fresh unset]
        exact signersSound_deployed.counted.of_same rfl
      · simp [admin] at none
  | called _ effect admin =>
      refine ⟨sound.counted.effect few effect, fun none => ?_⟩
      rw [← admin, none, sound.fresh (admin ▸ none)] at effect
      exact absurd effect no_effect_deployed

/-- An unpause by the stored admin takes effect at once. -/
theorem admin_unpauses {admin : Address} (initialized : storage.admin = some admin)
    (called : label.call = .pausable (.unpause admin))
    (addressed : label.env.currentContractAddress = self)
    (signed : label.env.authorized admin = true) :
    ∃ after, Step sha256 self storage label after ∧ after.pause.paused = false := by
  obtain ⟨env, verify, call⟩ := label
  obtain rfl : call = .pausable (.unpause admin) := called
  have invoked : invokePausable sha256 env storage.admin storage.pause (.unpause admin) =
      .ok { storage.pause with paused := false } :=
    (@requesting_eq_ok _ _ _ _ _ .unpause admin).mpr
      (.inl ⟨.inr ⟨rfl, initialized⟩, ⟨initialized, signed⟩, rfl⟩)
  refine ⟨{ storage with pause := { storage.pause with paused := false } },
    ⟨addressed, ?_⟩, rfl⟩
  exact Outcome.bind_eq_ok.mpr ⟨_, invoked, rfl⟩

/-- After initialisation, while there are fewer signers than their count can hold, the
count is exact, the threshold stays within it and positive while there is a signer, and the
admin can always unpause. -/
theorem pause_signers_never_lock_out (run : Run (Step sha256 self) .deployed trace storage)
    (few : ∀ event ∈ trace, FewSigners event.after.pause) {admin : Address}
    (initialized : storage.admin = some admin) :
    SignersCounted storage.pause ∧
      ∀ label : Label, label.call = .pausable (.unpause admin) →
        label.env.currentContractAddress = self → label.env.authorized admin = true →
          ∃ after, Step sha256 self storage label after ∧ after.pause.paused = false := by
  have sound := (run.restrict (fun event => FewSigners event.after.pause) SignersSound few
    signersSound_deployed fun _ few sound stepped => signersSound_step sound few stepped).2
  exact ⟨sound.counted, fun _ => admin_unpauses initialized⟩

section Sample

/-- One signer is added, pauses by proposal and is outvoted by the admin. -/
theorem pause_signers_never_lock_out_sample :
    ∃ trace storage, Run (Step samplePadding ⟨0⟩) .deployed trace storage ∧
      storage.pause.paused = true ∧ SignersCounted storage.pause ∧
        ∃ after, Step samplePadding ⟨0⟩ storage
            (sampleLabel 5 (.pausable (.unpause ⟨1⟩))) after ∧
          after.pause.paused = false := by
  obtain ⟨initial, signed, proposed, paused, first, second, third, fourth, flag, admin,
      none, one, same, kept⟩ :
      ∃ initial signed proposed paused,
        next samplePadding ⟨0⟩ .deployed (sampleLabel 1 (.initializeDelegation ⟨1⟩)) =
            some initial ∧
          next samplePadding ⟨0⟩ initial
              (sampleLabel 2 (.pausable (.setPauseSigner ⟨1⟩ ⟨2⟩ true))) = some signed ∧
            next samplePadding ⟨0⟩ signed (sampleLabel 3 (.pausable (.pause ⟨2⟩))) =
                some proposed ∧
              next samplePadding ⟨0⟩ proposed
                  (sampleLabel 4 (.pausable (.executePauseProposal (2 ^ 32)))) =
                  some paused ∧
                paused.pause.paused = true ∧ paused.admin = some ⟨1⟩ ∧
                  initial.pause.pauseSigner = (fun _ => false) ∧
                    signed.pause.pauseSigner =
                        Function.update (fun _ => false) ⟨2⟩ true ∧
                      proposed.pause.pauseSigner = signed.pause.pauseSigner ∧
                        paused.pause.pauseSigner = signed.pause.pauseSigner := by
    refine ⟨_, _, _, _, rfl, rfl, rfl, rfl, ?_⟩
    exact ⟨rfl, rfl, rfl, rfl, rfl, rfl⟩
  have run := ((Run.nil.snoc (step_of_next first)).snoc (step_of_next second)).snoc
    (step_of_next third) |>.snoc (step_of_next fourth)
  have few {pauses : Pausable.Storage} (only : Flags.raised pauses.pauseSigner ⊆ {⟨2⟩}) :
      FewSigners pauses := by
    calc (Flags.raised pauses.pauseSigner).encard
      _ ≤ 1 := (Set.encard_le_encard only).trans (Set.encard_singleton _).le
      _ < (2 ^ 32 : Nat) := by exact_mod_cast (by decide : 1 < 2 ^ 32)
  have single : Flags.raised signed.pause.pauseSigner ⊆ {⟨2⟩} := by
    rw [one, Flags.raised_set, Flags.raised_none, insert_empty_eq]
  obtain ⟨counted, unpauses⟩ := pause_signers_never_lock_out run (by
    intro event member
    simp only [List.nil_append, List.mem_append, List.mem_singleton] at member
    rcases member with ((rfl | rfl) | rfl) | rfl
    · exact few (by simp [none])
    · exact few single
    · exact few (by simpa [same] using single)
    · exact few (by simpa [kept] using single)) admin
  exact ⟨_, paused, run, flag, counted, unpauses _ rfl rfl rfl⟩

end Sample

end Delegations
