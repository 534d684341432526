import CredenceContracts.Bond.Change

/-!
# The authority of the bond admin

After the initialisation the admin is to hand on its own office, and privileged
calls are to be made on its authorization.  Most of them compare the named admin
with the stored one and ask it to authorise.  Slashing compares only, and a
repeated initialisation asks only the admin that it installs.
-/

namespace CredenceBond

open Soroban Transition

/-- The calls reserved for the admin: slashing, liquidation, the collection of fees
and the configuration. -/
def Call.privileged : Call → Bool
  | .slash .. | .slashBond .. | .liquidate .. => true
  | call => call.administers

section Authority

variable {Ledger : Type}

/-- The stored admin authorised its replacement and every privileged call. -/
structure AdminObeyed (event : Event (State Ledger) Label) : Prop where
  replaced : event.after.storage.admin ≠ event.before.storage.admin →
    AdminAuthorized event.label.env event.before.storage
  privileged : ∀ call, event.label.act = .call call → call.privileged = true →
    AdminAuthorized event.label.env event.before.storage

/-- An initialisation or a slash is authorised by the stored admin. -/
def Label.Sanctioned (label : Label) (storage : Storage) : Prop :=
  match label.act with
  | .call (.initializeBond _) | .call (.slash ..) => AdminAuthorized label.env storage
  | _ => True

variable {ext : Externals Ledger} {self : Address} {env : Env} {call : Call}
variable {before after : State Ledger}

theorem Label.Sanctioned.of_authorized {label : Label} {storage : Storage}
    (authorized : AdminAuthorized label.env storage) : label.Sanctioned storage := by
  unfold Label.Sanctioned
  split
  · exact authorized
  · exact authorized
  · trivial

/-- What the stored admin authorised obeys it. -/
theorem AdminObeyed.of_authorized {event : Event (State Ledger) Label}
    (authorized : AdminAuthorized event.label.env event.before.storage) : AdminObeyed event :=
  ⟨fun _ => authorized, fun _ _ _ => authorized⟩

/-- An unprivileged call that keeps the admin obeys it. -/
theorem AdminObeyed.of_kept (plain : call.privileged = false)
    (kept : after.storage.admin = before.storage.admin) :
    AdminObeyed ⟨before, ⟨env, .call call⟩, after⟩ := by
  constructor
  · intro changed
    exact absurd kept changed
  · rintro _ ⟨⟩ privileged
    simp [plain] at privileged

theorem plain_of_bystands (bystands : call.bystands = true) : call.privileged = false := by
  cases call <;> trivial

theorem sanctioned_of_bystands {storage : Storage} (bystands : call.bystands = true) :
    Label.Sanctioned ⟨env, .call call⟩ storage := by
  cases call <;> trivial

/-- A call obeys the admin exactly when it is sanctioned. -/
theorem change_obeyed_iff (change : Change ext env before after call) :
    AdminObeyed ⟨before, ⟨env, .call call⟩, after⟩ ↔
      Label.Sanctioned ⟨env, .call call⟩ before.storage := by
  cases change with
  | @initialized admin authorized stored _ =>
      constructor
      · intro obeyed
        by_cases kept : after.storage.admin = before.storage.admin
        · exact ⟨admin, kept ▸ stored, authorized⟩
        · exact obeyed.replaced kept
      · intro sanctioned
        exact .of_authorized sanctioned
  | slashed _ _ _ _ _ _ =>
      exact ⟨fun obeyed => obeyed.privileged _ rfl rfl, fun authorized => .of_authorized authorized⟩
  | transferred authorized _ _ | liquidated _ authorized _ | slashBonded _ authorized _ _ _ =>
      exact iff_of_true (.of_authorized authorized) trivial
  | administered _ authorized _ =>
      exact iff_of_true (.of_authorized authorized) (.of_authorized authorized)
  | unrelated bystands same =>
      exact iff_of_true (.of_kept (plain_of_bystands bystands) same.admin)
        (sanctioned_of_bystands bystands)
  | notRenewed same => exact iff_of_true (.of_kept rfl same.admin) trivial
  | created _ _ _ _ written | toppedUp _ _ _ _ _ written | withdrawn _ _ _ _ _ _ written
  | leftEarly _ _ _ written | closed _ _ _ _ written | requested _ _ written
  | renewed _ _ written | extended _ _ written =>
      exact iff_of_true (.of_kept rfl written.admin) trivial

/-- No call takes the admin away. -/
theorem Change.admin_stored (change : Change ext env before after call)
    (stored : before.storage.admin.isSome) : after.storage.admin.isSome := by
  cases change with
  | initialized _ installed _ | transferred _ installed _ => simp [installed]
  | administered _ _ same | unrelated _ same | notRenewed same => rwa [same.admin]
  | created _ _ _ _ written | toppedUp _ _ _ _ _ written | withdrawn _ _ _ _ _ _ written
  | leftEarly _ _ _ written | closed _ _ _ _ written | requested _ _ written
  | renewed _ _ written | extended _ _ written | liquidated _ _ written
  | slashed _ _ _ _ _ written | slashBonded _ _ _ _ written => rwa [written.admin]

end Authority

section Runs

variable {Ledger : Type} {ext : Externals Ledger} {self admin : Address} {env : Env}
variable {fresh initial final : State Ledger} {trace : List (Event (State Ledger) Label)}

theorem admin_stored_of_run (guarded : ext.Guarded self)
    (started : Step ext self fresh ⟨env, .call (.initializeBond admin)⟩ initial)
    (run : Run (Step ext self) initial trace final) : final.storage.admin.isSome := by
  apply run.invariant (fun state => state.storage.admin.isSome)
  · rcases step_change guarded started with ⟨_, ⟨⟩, -, change⟩ | ⟨⟨⟩, -⟩
    cases change with
    | initialized _ installed _ => simp [installed]
    | administered admin _ _ => cases admin
    | unrelated bystands _ => cases bystands
  · intro event stored stepped
    rcases step_change guarded stepped with ⟨call, -, -, change⟩ | ⟨-, same⟩
    · exact change.admin_stored stored
    · rwa [same.admin]

/-- After the initialisation an admin stays stored, and every step obeys it, if and
only if the step is no slash and no other initialisation, or the stored admin
authorised it. -/
theorem admin_obeyed_iff (guarded : ext.Guarded self)
    (started : Step ext self fresh ⟨env, .call (.initializeBond admin)⟩ initial)
    (run : Run (Step ext self) initial trace final) {event : Event (State Ledger) Label}
    (member : event ∈ trace) :
    event.before.storage.admin.isSome ∧
      (AdminObeyed event ↔ event.label.Sanctioned event.before.storage) := by
  obtain ⟨earlier, reached, stepped⟩ := run.reached_of_mem member
  refine ⟨admin_stored_of_run guarded started reached, ?_⟩
  obtain ⟨before, ⟨env, act⟩, after⟩ := event
  rcases step_change guarded stepped with ⟨call, rfl, -, change⟩ | ⟨rfl, same⟩
  · exact change_obeyed_iff change
  · apply iff_of_true
    · constructor
      · intro changed
        exact absurd same.admin changed
      · rintro _ ⟨⟩
    · trivial

end Runs

section Sample

/-- The sample contract before its initialisation. -/
def uninitialized : State ReferenceLedger :=
  { bondSample with storage := { bondSample.storage with admin := none } }

def initialized : State ReferenceLedger :=
  advance (next Externals.reference ⟨0⟩) uninitialized
    ⟨.signedBy ⟨1⟩ ⟨0⟩ 1, .call (.initializeBond ⟨1⟩)⟩

theorem initialized_step : Step Externals.reference ⟨0⟩ uninitialized
    ⟨.signedBy ⟨1⟩ ⟨0⟩ 1, .call (.initializeBond ⟨1⟩)⟩ initialized :=
  step_of_next (next_eq_advance (by decide +kernel))

/-- A user deposits; a stranger slashes the bond and takes the contract over. -/
def usurpation : List Label :=
  [ ⟨.signedBy ⟨5⟩ ⟨0⟩ 2, .call (.createBond ⟨5⟩ 2000000000000000000 60 false 0)⟩,
    ⟨.signedBy ⟨6⟩ ⟨0⟩ 3, .call (.slash ⟨1⟩ 1000000000000000000)⟩,
    ⟨.signedBy ⟨6⟩ ⟨0⟩ 4, .call (.initializeBond ⟨6⟩)⟩ ]

def usurpationTrace : List (Event (State ReferenceLedger) Label) :=
  record (next Externals.reference ⟨0⟩) initialized usurpation

theorem usurpationTrace_run :
    Run (Step Externals.reference ⟨0⟩) initialized usurpationTrace
      (usurpation.foldl (advance (next Externals.reference ⟨0⟩)) initialized) :=
  run_of_record step_of_next (by decide +kernel)

/-- Neither the slash nor the takeover obeyed the admin. -/
theorem stranger_slashes_and_takes_over :
    ∃ trace final slashing takeover,
      Run (Step Externals.reference ⟨0⟩) initialized trace final ∧
        slashing ∈ trace ∧ slashing.label.act = .call (.slash ⟨1⟩ 1000000000000000000) ∧
          ¬AdminObeyed slashing ∧
            takeover ∈ trace ∧ takeover.label.act = .call (.initializeBond ⟨6⟩) ∧
              ¬AdminObeyed takeover := by
  refine ⟨_, _, usurpationTrace.get ⟨1, by decide⟩, usurpationTrace.get ⟨2, by decide⟩,
    usurpationTrace_run, List.get_mem _ _, rfl, fun obeyed => ?_, List.get_mem _ _, rfl,
    fun obeyed => ?_⟩
  · have stored : (usurpationTrace.get ⟨1, by decide⟩).before.storage.admin = some ⟨1⟩ := by
      decide +kernel
    exact AdminAuthorized.not_signedBy stored (by decide) (obeyed.privileged _ rfl rfl)
  · have stored : (usurpationTrace.get ⟨2, by decide⟩).before.storage.admin = some ⟨1⟩ := by
      decide +kernel
    have replaced : (usurpationTrace.get ⟨2, by decide⟩).after.storage.admin ≠
        (usurpationTrace.get ⟨2, by decide⟩).before.storage.admin := by
      decide +kernel
    exact AdminAuthorized.not_signedBy stored (by decide) (obeyed.replaced replaced)

/-- The deposit before them obeyed it. -/
theorem admin_obeyed_sample :
    ∃ trace final event, Run (Step Externals.reference ⟨0⟩) initialized trace final ∧
      event ∈ trace ∧ event.before.storage.admin.isSome ∧ AdminObeyed event := by
  have member : usurpationTrace.get ⟨0, by decide⟩ ∈ usurpationTrace := List.get_mem _ _
  obtain ⟨stored, obeyed⟩ :=
    admin_obeyed_iff (guarded_reference ⟨0⟩) initialized_step usurpationTrace_run member
  exact ⟨_, _, _, usurpationTrace_run, member, stored, obeyed.mpr trivial⟩

end Sample

end CredenceBond
