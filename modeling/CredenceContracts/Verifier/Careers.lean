import CredenceContracts.Library.Onset
import CredenceContracts.Verifier.Stake

/-!
# The careers of the verifiers

A verifier's record and flags are kept up to date call by call.  Here they are read off
the history at once: the record tells what happened since the verifier became known, and
the flags whether it was registered or retired last.
-/

namespace Verifier

open Soroban MachineInt Transition Onset

variable {Ledger : Type} {token : TokenInterface Ledger} {self verifier : Address}

section Notes

/-- What a call can say of a verifier. -/
inductive Note where
  | registered
  | retired
  | issued (weight : Nat)
  | revoked (weight : Nat)
  | rated (reputation : Int)

/-- Whether the verifier has a record afterwards if it had none. -/
def Note.opens : Note → Bool
  | .registered => true
  | .issued _ => true
  | _ => false

/-- What becomes of the role of a verifier. -/
def Note.switch : Note → Option Bool
  | .registered => some true
  | .retired => some false
  | _ => none

def Note.isIssued : Note → Bool
  | .issued _ => true
  | _ => false

def Note.isRevoked : Note → Bool
  | .revoked _ => true
  | _ => false

/-- The reputation after a note. -/
def Note.reckon (reputation : Int) : Note → Int
  | .issued weight => reputation + weight
  | .revoked weight => reputation - weight
  | .rated newReputation => newReputation
  | _ => reputation

/-- The verifier that a call is about, and what it says of it; withdrawals and the
minimum stake are about no verifier's career. -/
def Call.about : Call → Option (Address × Note)
  | .setMinStake _ => none
  | .registerWithStake verifier _ => some (verifier, .registered)
  | .registerLegacy verifier => some (verifier, .registered)
  | .deactivateVerifier verifier => some (verifier, .retired)
  | .deactivateIfExists verifier => some (verifier, .retired)
  | .withdrawStake _ _ => none
  | .setReputation verifier newReputation => some (verifier, .rated newReputation)
  | .recordAttestationIssued verifier weight => some (verifier, .issued weight)
  | .recordAttestationRevoked verifier weight => some (verifier, .revoked weight)

/-- What a call says of a verifier. -/
def Call.note (verifier : Address) (call : Call) : Option Note :=
  call.about.bind fun about => if verifier = about.1 then some about.2 else none

/-- A note and when it was made. -/
structure Entry where
  timestamp : Nat
  note : Note

/-- What a step says of a verifier. -/
def Label.entry (verifier : Address) (label : Label Ledger) : Option Entry :=
  match label.act with
  | .call call => (call.note verifier).map (Entry.mk label.env.timestamp)
  | .elsewhere _ => none

/-- All that a history says of a verifier. -/
def career (verifier : Address) (trace : List (Event (State Ledger) (Label Ledger))) :
    List Entry :=
  trace.filterMap fun event => event.label.entry verifier

/-- What is said of a verifier from when it became known. -/
def known (entries : List Entry) : List Entry :=
  onward (fun entry => entry.note.opens) entries

/-- Whether a verifier was registered or retired last. -/
def standing (entries : List Entry) : Option Bool :=
  latest (fun entry => entry.note.switch) entries

/-- The retirement that ended the activity: it found the verifier active, and no
registration came after it. -/
def EndedBy (entries : List Entry) (retirement : Entry) : Prop :=
  ∃ earlier later, entries = earlier ++ retirement :: later ∧ retirement.note = .retired ∧
    (standing earlier).getD true = true ∧ ∀ entry ∈ later, entry.note ≠ .registered

/-- The reputation that the notes add up to. -/
def reputationOf (entries : List Entry) : Int :=
  entries.foldl (fun reputation entry => entry.note.reckon reputation) 0

@[simp] theorem standing_snoc {entries : List Entry} {entry : Entry} :
    standing (entries ++ [entry]) = entry.note.switch.or (standing entries) :=
  latest_snoc

@[simp] theorem reputationOf_snoc {entries : List Entry} {entry : Entry} :
    reputationOf (entries ++ [entry]) = entry.note.reckon (reputationOf entries) := by
  simp [reputationOf]

/-- Only a registration takes an ended activity up again. -/
theorem EndedBy.snoc {entries : List Entry} {retirement entry : Entry}
    (ended : EndedBy entries retirement) (other : entry.note ≠ .registered) :
    EndedBy (entries ++ [entry]) retirement := by
  obtain ⟨earlier, later, rfl, retired, active, since⟩ := ended
  refine ⟨earlier, later ++ [entry], by simp, retired, active, ?_⟩
  intro next member
  rcases List.mem_append.mp member with inside | last
  · exact since next inside
  · rw [List.mem_singleton.mp last]
    exact other

end Notes

/-- The record tells the career. -/
structure Tells (entries : List Entry) (info : VerifierInfo) : Prop where
  issued : info.attestationsIssued = entries.countP fun entry => entry.note.isIssued
  revoked : info.attestationsRevoked = entries.countP fun entry => entry.note.isRevoked
  reputation : info.reputation = reputationOf entries
  since : ∀ entry ∈ entries.head?, info.registeredAt = entry.timestamp
  active : info.active = (standing entries).getD true
  standing : info.active = true → info.deactivatedAt = 0
  left : info.active = false →
    ∃ retirement, EndedBy entries retirement ∧ info.deactivatedAt = retirement.timestamp

/-- A verifier that nothing opened has no record; any other's tells its career. -/
inductive Told : Option VerifierInfo → List Entry → Prop where
  | unknown : Told none []
  | known {info : VerifierInfo} {entries : List Entry} :
      entries ≠ [] → Tells entries info → Told (some info) entries

/-- What a call does to the record of a verifier that it says this of. -/
inductive Recorded (env : Env) :
    Option VerifierInfo → Option VerifierInfo → Option Note → Prop where
  | untouched {record : Option VerifierInfo} : Recorded env record record none
  | restaked {info : VerifierInfo} {stake : Int} :
      Recorded env (some info) (some { info with stake }) none
  | unknown {note : Note} (closed : note.opens = false) : Recorded env none none (some note)
  | registered {record : Option VerifierInfo} {stake : Int} :
      Recorded env record (some { record.getD (newVerifierInfo env 0) with
        stake
        active := true
        deactivatedAt := 0 }) (some .registered)
  | toppedUp {info : VerifierInfo} {stake : Int} (active : info.active = true) :
      Recorded env (some info) (some { info with stake }) (some .registered)
  | retired {info : VerifierInfo} (active : info.active = true) :
      Recorded env (some info) (some { info with
        active := false
        deactivatedAt := env.timestamp }) (some .retired)
  | retiredAgain {info : VerifierInfo} (inactive : info.active = false) :
      Recorded env (some info) (some info) (some .retired)
  | issued {record : Option VerifierInfo} {weight : Nat} :
      Recorded env record (some { record.getD (newVerifierInfo env 0) with
        attestationsIssued := (record.getD (newVerifierInfo env 0)).attestationsIssued + 1
        reputation := (record.getD (newVerifierInfo env 0)).reputation + weight })
        (some (.issued weight))
  | revoked {info : VerifierInfo} {weight : Nat} :
      Recorded env (some info) (some { info with
        attestationsRevoked := info.attestationsRevoked + 1
        reputation := info.reputation - weight }) (some (.revoked weight))
  | rated {info : VerifierInfo} {reputation : Int} :
      Recorded env (some info) (some { info with reputation }) (some (.rated reputation))

section Telling

variable {env : Env} {info : VerifierInfo} {entries : List Entry} {entry : Entry}

/-- The stake is no part of the career. -/
theorem Tells.restaked (tells : Tells entries info) (stake : Int) :
    Tells entries { info with stake } :=
  { tells with }

theorem head?_snoc (first : entries = [] → info.registeredAt = entry.timestamp)
    (since : ∀ earliest ∈ entries.head?, info.registeredAt = earliest.timestamp) :
    ∀ earliest ∈ (entries ++ [entry]).head?, info.registeredAt = earliest.timestamp := by
  cases entries with
  | nil => simpa using first rfl
  | cons head rest => simpa using since

/-- The record that is there, or the one that is begun. -/
theorem Told.begun (env : Env) {record : Option VerifierInfo} (told : Told record entries) :
    Tells entries (record.getD (newVerifierInfo env 0)) ∧
      (entries = [] → (record.getD (newVerifierInfo env 0)).registeredAt = env.timestamp) := by
  cases told with
  | unknown =>
      refine ⟨⟨rfl, rfl, rfl, ?_, rfl, fun _ => rfl, ?_⟩, fun _ => rfl⟩
      · simp
      · simp [newVerifierInfo]
  | known nonempty tells => exact ⟨tells, fun same => absurd same nonempty⟩

theorem Tells.registered (tells : Tells entries info)
    (first : entries = [] → info.registeredAt = env.timestamp) (stake : Int) :
    Tells (entries ++ [⟨env.timestamp, .registered⟩]) { info with
      stake
      active := true
      deactivatedAt := 0 } where
  issued := by simpa [Note.isIssued] using tells.issued
  revoked := by simpa [Note.isRevoked] using tells.revoked
  reputation := by simpa [Note.reckon] using tells.reputation
  since := head?_snoc first tells.since
  active := by simp [Note.switch]
  standing _ := rfl
  left inactive := by cases inactive

theorem Tells.retired (tells : Tells entries info)
    (first : entries = [] → info.registeredAt = env.timestamp) (active : info.active = true) :
    Tells (entries ++ [⟨env.timestamp, .retired⟩]) { info with
      active := false
      deactivatedAt := env.timestamp } where
  issued := by simpa [Note.isIssued] using tells.issued
  revoked := by simpa [Note.isRevoked] using tells.revoked
  reputation := by simpa [Note.reckon] using tells.reputation
  since := head?_snoc first tells.since
  active := by simp [Note.switch]
  standing active := by cases active
  left _ :=
    ⟨⟨env.timestamp, .retired⟩, ⟨entries, [], rfl, rfl, tells.active ▸ active, by simp⟩, rfl⟩

/-- A record that stays active, or inactive, as it was. -/
theorem Tells.going (tells : Tells entries info) {note : Note} {updated : VerifierInfo}
    (first : entries = [] → info.registeredAt = env.timestamp)
    (issued : updated.attestationsIssued =
      info.attestationsIssued + if note.isIssued then 1 else 0)
    (revoked : updated.attestationsRevoked =
      info.attestationsRevoked + if note.isRevoked then 1 else 0)
    (reputation : updated.reputation = note.reckon info.reputation)
    (since : updated.registeredAt = info.registeredAt)
    (active : updated.active = info.active)
    (left : updated.deactivatedAt = info.deactivatedAt)
    (switch : ∀ enabled ∈ note.switch, info.active = enabled) :
    Tells (entries ++ [⟨env.timestamp, note⟩]) updated where
  issued := by simp [issued, tells.issued, List.countP_singleton]
  revoked := by simp [revoked, tells.revoked, List.countP_singleton]
  reputation := by rw [reputation, reputationOf_snoc, tells.reputation]
  since := by
    rw [since]
    exact head?_snoc first tells.since
  active := by
    rw [active, standing_snoc]
    cases switched : note.switch with
    | none => simpa using tells.active
    | some enabled => simpa using switch enabled switched
  standing := by
    rw [active, left]
    exact tells.standing
  left := by
    rw [active, left]
    intro inactive
    obtain ⟨retirement, ended, same⟩ := tells.left inactive
    refine ⟨retirement, ended.snoc ?_, same⟩
    rintro rfl
    cases inactive.symm.trans (switch true rfl)

theorem known_snoc (entered : known entries ≠ [] ∨ entry.note.opens = true) :
    known (entries ++ [entry]) = known entries ++ [entry] := by
  by_cases unbegun : known entries = []
  · have opens := entered.resolve_left (absurd unbegun)
    rw [known, onward_snoc_of_nil unbegun, if_pos opens]
    exact (congrArg (· ++ [entry]) unbegun).symm
  · exact onward_snoc unbegun

/-- What a call does to a record keeps telling the career. -/
theorem Recorded.told {before after : Option VerifierInfo} {note : Option Note}
    (recorded : Recorded env before after note) (told : Told before (known entries)) :
    Told after (known (entries ++ (note.map (Entry.mk env.timestamp)).toList)) := by
  have entered {note : Note} {updated : VerifierInfo}
      (opened : known entries ≠ [] ∨ note.opens = true)
      (tells : Tells (known entries ++ [⟨env.timestamp, note⟩]) updated) :
      Told (some updated) (known (entries ++ [⟨env.timestamp, note⟩])) := by
    rw [known_snoc opened]
    exact .known (by simp) tells
  obtain ⟨begun, first⟩ := told.begun env
  cases recorded with
  | untouched => simpa using told
  | restaked =>
      cases told with
      | known nonempty tells => simpa using Told.known nonempty (tells.restaked _)
  | @unknown note closed =>
      generalize same : known entries = entries' at told
      cases told with
      | unknown =>
          have dropped : known (entries ++ [⟨env.timestamp, note⟩]) = [] := by
            rw [known, onward_snoc_of_nil same]
            simp [closed]
          simpa [dropped] using Told.unknown
  | registered => exact entered (.inr rfl) (begun.registered first _)
  | issued =>
      exact entered (.inr rfl)
        (begun.going first rfl rfl rfl rfl rfl rfl (by simp [Note.switch]))
  | toppedUp active =>
      exact entered (.inr rfl)
        (begun.going first rfl rfl rfl rfl rfl rfl (by simpa [Note.switch] using active))
  | retired active =>
      cases told with
      | known nonempty tells => exact entered (.inl nonempty) (tells.retired first active)
  | retiredAgain inactive =>
      cases told with
      | known nonempty tells =>
          exact entered (.inl nonempty)
            (tells.going first rfl rfl rfl rfl rfl rfl (by simpa [Note.switch] using inactive))
  | revoked =>
      cases told with
      | known nonempty tells =>
          exact entered (.inl nonempty)
            (tells.going first rfl rfl rfl rfl rfl rfl (by simp [Note.switch]))
  | rated =>
      cases told with
      | known nonempty tells =>
          exact entered (.inl nonempty)
            (tells.going first rfl rfl rfl rfl rfl rfl (by simp [Note.switch]))

end Telling

section Calls

variable {env : Env} {storage stored : Storage} {state reached : State Ledger}
variable {target : Address} {info : VerifierInfo} {call : Call}

/-- What a call says of a verifier is what it does to the verifier's entries. -/
structure Entered (env : Env) (verifier : Address) (note : Option Note)
    (before after : Storage) : Prop where
  record : Recorded env (before.verifierInfo verifier) (after.verifierInfo verifier) note
  role : after.verifierRole verifier = (note.bind Note.switch).or (before.verifierRole verifier)
  attester : after.attester verifier =
    (note.bind Note.switch).getD (before.attester verifier)

theorem entered_of_enroll (enrolled : enroll storage target info = .ok stored)
    (recorded : Recorded env (storage.verifierInfo target) (some info) (some .registered)) :
    Entered env verifier (if verifier = target then some .registered else none)
      storage stored := by
  obtain ⟨-, rfl⟩ := enroll_eq_ok.mp enrolled
  by_cases same : verifier = target
  · subst same
    exact ⟨by simpa using recorded, by simp [Note.switch], by simp [Note.switch]⟩
  · simp only [same, if_false]
    exact ⟨by simpa [same] using Recorded.untouched, by simp [same], by simp [same]⟩

theorem entered_of_put {note : Note} (still : note.switch = none)
    (recorded : Recorded env (storage.verifierInfo target) (some info) (some note)) :
    Entered env verifier (if verifier = target then some note else none) storage
      (putVerifierInfo storage target info) := by
  by_cases same : verifier = target
  · subst same
    exact ⟨by simpa [putVerifierInfo] using recorded, by simp [still, putVerifierInfo],
      by simp [still, putVerifierInfo]⟩
  · simp only [same, if_false]
    exact ⟨by simpa [same, putVerifierInfo] using Recorded.untouched,
      by simp [putVerifierInfo], by simp [putVerifierInfo]⟩

/-- Clearing the flags retires, where the record is told so. -/
theorem entered_of_disable
    (infos : ∀ other, other ≠ target → stored.verifierInfo other = storage.verifierInfo other)
    (roles : stored.verifierRole = Function.update storage.verifierRole target (some false))
    (attesters : stored.attester = Function.update storage.attester target false)
    (recorded : Recorded env (storage.verifierInfo target) (stored.verifierInfo target)
      (some .retired)) :
    Entered env verifier (if verifier = target then some .retired else none)
      storage stored := by
  by_cases same : verifier = target
  · subst same
    exact ⟨by simpa using recorded, by simp [Note.switch, roles],
      by simp [Note.switch, attesters]⟩
  · simp only [same, if_false]
    refine ⟨?_, by simp [roles, same], by simp [attesters, same]⟩
    rw [infos verifier same]
    exact .untouched

/-- A deposit makes a verifier active, and leaves all but the stake of one that is. -/
theorem recorded_of_staked {minStake stakeDeposit : Int} {record : Option VerifierInfo}
    (staked : stakedInfo env minStake stakeDeposit record = .ok info) :
    Recorded env record (some info) (some .registered) := by
  cases record with
  | none =>
      simp only [stakedInfo, Outcome.bind_eq_ok, Outcome.pure_eq_ok] at staked
      obtain ⟨-, -, rfl⟩ := staked
      exact .registered
  | some found =>
      simp only [stakedInfo] at staked
      split at staked
      · rename_i active
        simp only [Outcome.bind_eq_ok, Outcome.pure_eq_ok] at staked
        obtain ⟨-, -, stake, -, rfl⟩ := staked
        exact .toppedUp active
      · simp only [Outcome.bind_eq_ok, Outcome.pure_eq_ok] at staked
        obtain ⟨stake, -, -, -, rfl⟩ := staked
        exact .registered

theorem entered_of_deactivate
    (done : deactivateVerifier env storage target = .ok (stored, info)) :
    Entered env verifier (if verifier = target then some .retired else none)
      storage stored := by
  simp only [deactivateVerifier, Outcome.bind_eq_ok, Outcome.unwrapOr_eq_ok,
    Outcome.pure_eq_ok, putVerifierInfo, setVerifierRole] at done
  obtain ⟨found, held, _, accepted, same⟩ := done
  obtain ⟨rfl, rfl⟩ := Prod.mk.inj same
  have active : found.active = true := by simpa using accepted
  refine entered_of_disable ?_ rfl rfl ?_
  · intro other different
    exact Function.update_of_ne different _ _
  · simpa [held] using Recorded.retired active

theorem entered_of_deactivateIfExists
    (done : deactivateIfExists env storage target = .ok stored) :
    Entered env verifier (if verifier = target then some .retired else none)
      storage stored := by
  have cleared (recorded : Recorded env (storage.verifierInfo target)
      (storage.verifierInfo target) (some .retired)) :
      Entered env verifier (if verifier = target then some .retired else none) storage
        (setVerifierRole storage target false) :=
    entered_of_disable (fun _ _ => rfl) rfl rfl recorded
  unfold deactivateIfExists at done
  split at done
  · rename_i found held
    split at done
    · obtain ⟨⟨stored, info⟩, done, rfl⟩ := Outcome.map_eq_ok.mp done
      exact entered_of_deactivate done
    · rename_i inactive
      obtain rfl := Outcome.pure_eq_ok.mp done
      apply cleared
      rw [held]
      exact .retiredAgain (by simpa using inactive)
  · rename_i missing
    obtain rfl := Outcome.pure_eq_ok.mp done
    apply cleared
    rw [missing]
    exact .unknown rfl

theorem entered_of_register {stakeDeposit : Int}
    (done : registerWithStake token env state target stakeDeposit = .ok (reached, info)) :
    Entered env verifier (if verifier = target then some .registered else none)
      state.storage reached.storage := by
  simp only [registerWithStake, Outcome.bind_eq_ok] at done
  obtain ⟨-, -, staked, recorded, storage, enrolled, done⟩ := done
  have entered : Entered env verifier (if verifier = target then some .registered else none)
      state.storage storage := entered_of_enroll enrolled (recorded_of_staked recorded)
  split at done
  · obtain ⟨ledger, -, same⟩ := Outcome.bind_eq_ok.mp done
    obtain ⟨rfl, rfl⟩ := Prod.mk.inj (Outcome.pure_eq_ok.mp same)
    exact entered
  · obtain ⟨rfl, rfl⟩ := Prod.mk.inj (Outcome.pure_eq_ok.mp done)
    exact entered

/-- A withdrawal is about the stake alone. -/
theorem entered_of_withdraw {amount : Int}
    (done : withdrawStake token env state target amount = .ok (reached, info)) :
    Entered env verifier none state.storage reached.storage := by
  simp only [withdrawStake, Outcome.bind_eq_ok, Outcome.unwrapOr_eq_ok, setAttesterStake,
    putVerifierInfo, Outcome.pure_eq_ok] at done
  obtain ⟨-, -, found, held, -, -, -, -, stake, -, storage, ⟨-, -, rfl⟩, -, -, ledger, -,
    same⟩ := done
  obtain ⟨rfl, rfl⟩ := Prod.mk.inj same
  refine ⟨?_, rfl, rfl⟩
  by_cases same : verifier = target
  · subst same
    simpa [held] using Recorded.restaked
  · simpa [same] using Recorded.untouched

theorem entered_of_revoke {weight : Nat}
    (done : recordAttestationRevoked storage target weight = .ok stored) :
    Entered env verifier (if verifier = target then some (.revoked weight) else none)
      storage stored := by
  simp only [recordAttestationRevoked] at done
  split at done
  · rename_i missing
    obtain rfl := Outcome.pure_eq_ok.mp done
    by_cases same : verifier = target
    · subst same
      refine ⟨?_, by simp [Note.switch], by simp [Note.switch]⟩
      simpa [missing] using Recorded.unknown rfl
    · simp only [same, if_false]
      exact ⟨.untouched, rfl, rfl⟩
  · rename_i found held
    simp only [Outcome.bind_eq_ok, checkedU32_eq_ok, checkedI128_eq_ok,
      Outcome.pure_eq_ok] at done
    obtain ⟨attestationsRevoked, ⟨-, rfl⟩, reputation, ⟨-, rfl⟩, rfl⟩ := done
    exact entered_of_put rfl (held ▸ .revoked)

/-- A call leaves the entries of a verifier as what it says of it has them. -/
theorem entered_of_invoke (done : invoke token env state call = .ok reached)
    (verifier : Address) :
    Entered env verifier (call.note verifier) state.storage reached.storage := by
  cases call with
  | setMinStake minStake =>
      obtain ⟨done, -⟩ := storing_ok done
      simp only [setMinStake, Outcome.bind_eq_ok, Outcome.pure_eq_ok] at done
      obtain ⟨-, -, stored⟩ := done
      rw [stored]
      exact ⟨.untouched, rfl, rfl⟩
  | registerWithStake target stakeDeposit =>
      obtain ⟨⟨reached, info⟩, done, rfl⟩ := Outcome.map_eq_ok.mp done
      exact entered_of_register done
  | registerLegacy target =>
      obtain ⟨done, -⟩ := storing_ok done
      obtain ⟨⟨stored, info⟩, done, same⟩ := Outcome.map_eq_ok.mp done
      simp only [registerLegacy, Outcome.bind_eq_ok, Outcome.pure_eq_ok, Prod.mk.injEq] at done
      obtain ⟨enrolled, done, rfl, rfl⟩ := done
      rw [same]
      exact entered_of_enroll done .registered
  | deactivateVerifier target =>
      obtain ⟨done, -⟩ := storing_ok done
      obtain ⟨⟨stored, info⟩, done, same⟩ := Outcome.map_eq_ok.mp done
      rw [same]
      exact entered_of_deactivate done
  | deactivateIfExists target => exact entered_of_deactivateIfExists (storing_ok done).1
  | withdrawStake target amount =>
      obtain ⟨⟨reached, info⟩, done, rfl⟩ := Outcome.map_eq_ok.mp done
      exact entered_of_withdraw done
  | setReputation target newReputation =>
      obtain ⟨done, -⟩ := storing_ok done
      simp only [setReputation, Outcome.bind_eq_ok, Outcome.unwrapOr_eq_ok,
        Outcome.pure_eq_ok] at done
      obtain ⟨found, held, stored⟩ := done
      rw [stored]
      exact entered_of_put rfl (held ▸ .rated)
  | recordAttestationIssued target weight =>
      obtain ⟨done, -⟩ := storing_ok done
      simp only [recordAttestationIssued, Outcome.bind_eq_ok, checkedU32_eq_ok,
        checkedI128_eq_ok, Outcome.pure_eq_ok] at done
      obtain ⟨attestationsIssued, ⟨-, rfl⟩, reputation, ⟨-, rfl⟩, stored⟩ := done
      rw [stored]
      exact entered_of_put rfl .issued
  | recordAttestationRevoked target weight => exact entered_of_revoke (storing_ok done).1

end Calls

section Runs

variable {state start reached : State Ledger} {label : Label Ledger}
variable {trace : List (Event (State Ledger) (Label Ledger))}

/-- A step leaves the entries of a verifier as what it says of it has them. -/
theorem entered_of_step (stepped : Step token self state label reached) (verifier : Address) :
    ∃ note, label.entry verifier = note.map (Entry.mk label.env.timestamp) ∧
      Entered label.env verifier note state.storage reached.storage := by
  cases stepped with
  | elsewhere => exact ⟨none, rfl, .untouched, rfl, rfl⟩
  | call _ done => exact ⟨_, rfl, entered_of_invoke done verifier⟩

theorem career_snoc {event : Event (State Ledger) (Label Ledger)} :
    career verifier (trace ++ [event]) =
      career verifier trace ++ (event.label.entry verifier).toList := by
  cases said : event.label.entry verifier <;> simp [career, said]

/-- What the entries of a verifier tell is kept up along a run. -/
theorem told_of_run (fresh : Fresh start.storage)
    (run : Run (Step token self) start trace reached) (verifier : Address) :
    Told (reached.storage.verifierInfo verifier) (known (career verifier trace)) ∧
      reached.storage.verifierRole verifier = standing (career verifier trace) ∧
      reached.storage.attester verifier = (standing (career verifier trace)).getD false := by
  refine run.history (motive := fun trace state =>
    Told (state.storage.verifierInfo verifier) (known (career verifier trace)) ∧
      state.storage.verifierRole verifier = standing (career verifier trace) ∧
      state.storage.attester verifier = (standing (career verifier trace)).getD false)
    ?_ ?_
  · rw [fresh.verifierInfo, fresh.verifierRole, fresh.attester]
    exact ⟨.unknown, rfl, rfl⟩
  · rintro trace event - ⟨told, role, attester⟩ stepped
    obtain ⟨note, said, entered⟩ := entered_of_step stepped verifier
    rw [career_snoc, said]
    refine ⟨entered.record.told told, ?_, ?_⟩
    · rw [entered.role, role]
      cases note <;> simp
    · rw [entered.attester, attester]
      cases note with
      | none => simp
      | some note => cases switched : note.switch <;> simp [switched]

theorem opens_of_registers (entry : Entry) (registers : entry.note.switch = some true) :
    entry.note.opens = true := by
  obtain ⟨timestamp, note⟩ := entry
  cases note with
  | registered => rfl
  | _ => cases registers

theorem opens_of_isIssued (entry : Entry) (issues : entry.note.isIssued = true) :
    entry.note.opens = true := by
  obtain ⟨timestamp, note⟩ := entry
  cases note with
  | issued => rfl
  | _ => cases issues

/-- From a contract without verifiers on, the record of a verifier, which is there if and
only if something opened one, tells what was said of the verifier since, and every
attestation that was recorded; the flags are as it was registered or retired last; and
only an active verifier has the role. -/
theorem verifiers_follow_careers (fresh : Fresh start.storage)
    (run : Run (Step token self) start trace reached) (verifier : Address) :
    (reached.storage.verifierInfo verifier = none ↔ known (career verifier trace) = []) ∧
      (∀ info, reached.storage.verifierInfo verifier = some info →
        Tells (known (career verifier trace)) info ∧
          info.attestationsIssued =
            (career verifier trace).countP fun entry => entry.note.isIssued) ∧
      reached.storage.verifierRole verifier = standing (career verifier trace) ∧
      reached.storage.attester verifier = (standing (career verifier trace)).getD false ∧
      (reached.storage.verifierRole verifier = some true →
        ∃ info, reached.storage.verifierInfo verifier = some info ∧ info.active = true) := by
  obtain ⟨told, role, attester⟩ := told_of_run fresh run verifier
  refine ⟨?_, ?_, role, attester, ?_⟩
  · generalize known (career verifier trace) = entries at told
    generalize reached.storage.verifierInfo verifier = record at told
    cases told with
    | unknown => simp
    | known nonempty _ => simp [nonempty]
  · intro info found
    rw [found] at told
    cases told with
    | known _ tells =>
        refine ⟨tells, ?_⟩
        rw [tells.issued]
        exact countP_onward opens_of_isIssued
  · intro enabled
    have registers : standing (known (career verifier trace)) = some true :=
      latest_onward opens_of_registers (role.symm.trans enabled)
    generalize known (career verifier trace) = entries at told registers
    generalize reached.storage.verifierInfo verifier = record at told
    cases told with
    | unknown => cases registers
    | @known info _ _ tells =>
        refine ⟨info, rfl, ?_⟩
        rw [tells.active, registers]
        rfl

end Runs

section Sample

/-- A verifier attests before it is registered; one of its attestations is revoked, it is
rated, and it is retired twice. -/
def ratedAndRetired : List (Label ReferenceLedger) :=
  [ ⟨.signedByAll ⟨0⟩ 5, .call (.recordAttestationRevoked ⟨6⟩ 8)⟩,
    ⟨.signedByAll ⟨0⟩ 10, .call (.recordAttestationIssued ⟨6⟩ 3)⟩,
    ⟨.signedByAll ⟨0⟩ 20, .call (.registerWithStake ⟨6⟩ 50)⟩,
    ⟨.signedByAll ⟨0⟩ 30, .call (.setReputation ⟨6⟩ 100)⟩,
    ⟨.signedByAll ⟨0⟩ 40, .call (.recordAttestationIssued ⟨6⟩ 4)⟩,
    ⟨.signedByAll ⟨0⟩ 50, .call (.recordAttestationRevoked ⟨6⟩ 3)⟩,
    ⟨.signedByAll ⟨0⟩ 60, .call (.deactivateVerifier ⟨6⟩)⟩,
    ⟨.signedByAll ⟨0⟩ 70, .call (.deactivateIfExists ⟨6⟩)⟩ ]

theorem verifiers_follow_careers_sample :
    ∃ trace final, Run (Step ReferenceLedger.token ⟨0⟩) sampleState trace final ∧
      ∃ info, final.storage.verifierInfo ⟨6⟩ = some info ∧
        info.reputation = 101 ∧ info.attestationsIssued = 2 ∧ info.attestationsRevoked = 1 ∧
        info.registeredAt = 10 ∧ info.deactivatedAt = 60 ∧
        Tells (known (career ⟨6⟩ trace)) info ∧ standing (career ⟨6⟩ trace) = some false := by
  have run : Run (Step ReferenceLedger.token ⟨0⟩) sampleState
      (record (next ReferenceLedger.token ⟨0⟩) sampleState ratedAndRetired)
      (ratedAndRetired.foldl (advance (next ReferenceLedger.token ⟨0⟩)) sampleState) :=
    run_of_record step_of_next (by decide +kernel)
  obtain ⟨-, tells, role, -⟩ := verifiers_follow_careers ⟨rfl, rfl, rfl, rfl⟩ run ⟨6⟩
  refine ⟨_, _, run, _, rfl, ?_⟩
  refine ⟨by decide +kernel, by decide +kernel, by decide +kernel, by decide +kernel,
    by decide +kernel, (tells _ rfl).1, ?_⟩
  rw [← role]
  decide +kernel

end Sample

end Verifier
