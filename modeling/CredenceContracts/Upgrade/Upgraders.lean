import CredenceContracts.Library.Roster
import CredenceContracts.Upgrade.Spec

/-!
# The list of upgraders

Who may upgrade is stored twice: in the authorisation of every address and in one list.
An operation that activates an upgrader or revokes one writes both.
-/

namespace UpgradeAuth

open Soroban Transition Roster

variable {strkey : Address → String} {env : Env} {before after : Storage}
variable {address target : Address} {authorization : UpgradeAuthorization}

/-- The addresses with an active authorisation as upgrader. -/
def upgraders (storage : Storage) : Set Address :=
  {address | ∃ authorization, storage.auth address = some authorization ∧
    authorization.active = true ∧ authorization.role = .upgrader}

/-- The list names the upgraders, each of them once, and is empty before the
initialisation only. -/
structure Listed (storage : Storage) : Prop where
  listed : Lists storage.authorizedUpgraders (upgraders storage)
  empty_iff : storage.authorizedUpgraders = [] ↔ storage.admin = none

theorem upgraders_of_activated
    (written : after.auth = Function.update before.auth target (some authorization))
    (activated : authorization.active = true) (role : authorization.role = .upgrader) :
    upgraders after = insert target (upgraders before) := by
  ext address
  by_cases same : address = target
  · simp [upgraders, written, same, activated, role]
  · simp [upgraders, written, same]

theorem upgraders_of_other
    (written : after.auth = Function.update before.auth target (some authorization))
    (other : authorization.active = true → authorization.role ≠ .upgrader) :
    upgraders after = upgraders before \ {target} := by
  ext address
  by_cases same : address = target
  · simpa [upgraders, written, same] using other
  · simp [upgraders, written, same]

theorem not_mem_upgraders_of_absent (absent : before.auth target = none) :
    target ∉ upgraders before := by
  simp [upgraders, absent]

namespace Listed

theorem deployed : Listed .deployed where
  listed := Lists.empty.of_eq (by ext address; simp [upgraders, Storage.deployed])
  empty_iff := by simp [Storage.deployed]

theorem of_same (listed : Listed before) (same : SameAuthority before after) :
    Listed after where
  listed := by
    have unchanged : upgraders after = upgraders before := by simp [upgraders, same.auth]
    rw [same.authorizedUpgraders, unchanged]
    exact listed.listed
  empty_iff := by
    rw [same.authorizedUpgraders, same.admin]
    exact listed.empty_iff

theorem unlisted (listed : Listed before) (absent : target ∉ upgraders before) :
    target ∉ before.authorizedUpgraders :=
  mt (listed.listed.mem_iff target).mp absent

/-- An upgrader who is activated is listed, and enters the list where it is not yet. -/
theorem of_activated (listed : Listed before)
    (written : after.auth = Function.update before.auth target (some authorization))
    (activated : authorization.active = true) (role : authorization.role = .upgrader)
    (list : after.authorizedUpgraders =
      if target ∈ before.authorizedUpgraders then before.authorizedUpgraders
      else before.authorizedUpgraders ++ [target])
    (started : after.admin.isSome = true) : Listed after where
  listed := by
    rw [upgraders_of_activated written activated role, list]
    have known := listed.listed.mem_iff target
    split
    · rename_i member
      rw [Set.insert_eq_of_mem (known.mp member)]
      exact listed.listed
    · rename_i absent
      exact listed.listed.enter (mt known.mpr absent)
  empty_iff := by
    have member : target ∈ after.authorizedUpgraders := by
      rw [list]
      split <;> simp_all
    exact iff_of_false (List.ne_nil_of_mem member) (Option.isSome_iff_ne_none.mp started)

/-- Who is no active upgrader afterwards leaves the list, unless nobody else is there. -/
theorem of_other (listed : Listed before)
    (written : after.auth = Function.update before.auth target (some authorization))
    (other : authorization.active = true → authorization.role ≠ .upgrader)
    (list : after.authorizedUpgraders =
      before.authorizedUpgraders.filter fun upgrader => upgrader ≠ target)
    (started : before.admin.isSome = true) (admin : after.admin = before.admin)
    (others : target ∈ before.authorizedUpgraders → 1 < before.authorizedUpgraders.length) :
    Listed after where
  listed := by
    rw [upgraders_of_other written other, list]
    exact listed.listed.leave_filter
  empty_iff := by
    rw [admin]
    refine iff_of_false (fun emptied => ?_) (Option.isSome_iff_ne_none.mp started)
    rw [list, List.filter_eq_nil_iff] at emptied
    have alone : before.authorizedUpgraders ⊆ [target] := by
      intro upgrader member
      simpa using emptied upgrader member
    have known : before.authorizedUpgraders ≠ [] :=
      mt listed.empty_iff.mp (Option.isSome_iff_ne_none.mp started)
    have crowded : 1 < before.authorizedUpgraders.length := by
      obtain ⟨upgrader, member⟩ := List.exists_mem_of_ne_nil _ known
      obtain rfl := List.mem_singleton.mp (alone member)
      exact others member
    have few := (List.subperm_of_subset listed.listed.nodup alone).length_le
    simp only [List.length_singleton] at few
    omega

end Listed

theorem listed_step {label : Label} (listed : Listed before)
    (stepped : Step strkey before label after) : Listed after := by
  obtain ⟨env, call⟩ := label
  cases upgrade_change stepped with
  | initialized fresh stored =>
      refine listed.of_activated (congrArg Storage.auth stored) rfl rfl ?_ (by simp [stored])
      simp [stored, listed.empty_iff.mpr fresh]
  | @granted _ address role _ _ started absent ranked activated stored =>
      have unlisted := listed.unlisted (not_mem_upgraders_of_absent absent)
      have written := congrArg Storage.auth stored
      by_cases upgrader : role = .upgrader
      · apply listed.of_activated written activated (ranked.trans upgrader)
        · simp [stored, upgrader, unlisted]
        · simp [stored, started]
      · refine listed.of_other written (fun _ => ranked ▸ upgrader) ?_ (by simp [started])
          (by rw [stored]) (fun member => absurd member unlisted)
        rw [filter_of_not_mem unlisted, stored]
        exact if_neg upgrader
  | @revoked _ address authorization started found others stored =>
      have written := congrArg Storage.auth stored
      by_cases upgrader : authorization.role = .upgrader
      · refine listed.of_other written (by simp) ?_ (by simp [started]) (by rw [stored])
          (fun _ => others upgrader)
        simp [stored, upgrader]
      · have unlisted : address ∉ before.authorizedUpgraders :=
          listed.unlisted (by simp [upgraders, found, upgrader])
        refine listed.of_other written (by simp) ?_ (by simp [started]) (by rw [stored])
          (fun member => absurd member unlisted)
        rw [filter_of_not_mem unlisted, stored]
        exact if_neg upgrader
  | accepted started stored =>
      exact listed.of_activated (congrArg Storage.auth stored) rfl rfl (by rw [stored])
        (by rw [stored]; rfl)
  | executed present same => exact listed.of_same same
  | elsewhere same _ _ => exact listed.of_same same

theorem listed_of_run {trace : List (Event Storage Label)} {final : Storage}
    (run : Run (Step strkey) .deployed trace final) : Listed final :=
  run.invariant Listed .deployed fun _ listed stepped => listed_step listed stepped

/-- In every run the list of upgraders names those with an active authorisation as
upgrader, each once, and is not empty once there is an admin; and the authorised upgraders
are the listed ones whose authorisation has not expired. -/
theorem upgraders_listed {trace : List (Event Storage Label)} {final : Storage}
    (run : Run (Step strkey) .deployed trace final) :
    Lists final.authorizedUpgraders (upgraders final) ∧
      (final.admin.isSome = true → final.authorizedUpgraders ≠ []) ∧
        ∀ (env : Env) (address : Address), isAuthorizedUpgrader env final address = true ↔
          address ∈ final.authorizedUpgraders ∧
            ∃ authorization, final.auth address = some authorization ∧
              ¬authorization.hasExpired env.timestamp := by
  have listed := listed_of_run run
  refine ⟨listed.listed, ?_, ?_⟩
  · intro started emptied
    exact Option.isSome_iff_ne_none.mp started (listed.empty_iff.mp emptied)
  · intro env address
    rw [isAuthorizedUpgrader_iff, listed.listed.mem_iff]
    constructor
    · rintro ⟨authorization, found, active, role, valid⟩
      exact ⟨⟨authorization, found, active, role⟩, authorization, found, valid⟩
    · rintro ⟨⟨authorization, found, active, role⟩, _, same, valid⟩
      obtain rfl := Option.some.inj (found.symm.trans same)
      exact ⟨authorization, found, active, role, valid⟩

section Sample

def sampleStrkey (address : Address) : String :=
  "G" ++ toString address.key

/-- A proposer takes over the admin role, and the former admin is revoked. -/
def promotion : List Label :=
  [ ⟨.signedByAll ⟨0⟩ 10, .initializeUpgradeAuth ⟨1⟩⟩,
    ⟨.signedByAll ⟨0⟩ 20, .grantUpgradeAuth ⟨1⟩ ⟨2⟩ .proposer 50⟩,
    ⟨.signedByAll ⟨0⟩ 30, .grantUpgradeAuth ⟨1⟩ ⟨3⟩ .upgrader 50⟩,
    ⟨.signedByAll ⟨0⟩ 40, .transferUpgradeAdmin ⟨1⟩ ⟨2⟩⟩,
    ⟨.signedByAll ⟨0⟩ 50, .acceptUpgradeAdmin ⟨2⟩⟩,
    ⟨.signedByAll ⟨0⟩ 60, .revokeUpgradeAuth ⟨2⟩ ⟨1⟩⟩ ]

/-- Two upgraders are left, and one of them is authorised at that time. -/
theorem upgraders_listed_sample :
    ∃ trace final, Run (Step sampleStrkey) .deployed trace final ∧
      final.authorizedUpgraders = [⟨3⟩, ⟨2⟩] ∧ (⟨2⟩ : Address) ∈ upgraders final ∧
        isAuthorizedUpgrader (.signedByAll ⟨0⟩ 60) final ⟨3⟩ = false := by
  have run : Run (Step sampleStrkey) .deployed
      (record (next sampleStrkey) .deployed promotion)
      (promotion.foldl (advance (next sampleStrkey)) .deployed) :=
    run_of_record step_of_next (by decide +kernel)
  obtain ⟨listed, -, -⟩ := upgraders_listed run
  exact ⟨_, _, run, by decide +kernel, (listed.mem_iff _).mp (by decide +kernel),
    by decide +kernel⟩

end Sample

end UpgradeAuth
