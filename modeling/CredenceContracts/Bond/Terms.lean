import CredenceContracts.Bond.Lockup

/-!
# The terms of a bond

When the lock-up of a bond began, how long it is and when a withdrawal was requested are
the terms of the bond.  Only its owner changes them, and its lock-up is never cut short.
-/

namespace CredenceBond

open Soroban Transition

/-- When the lock-up of a bond began, how long it is and when a withdrawal was requested. -/
def IdentityBond.terms (bond : IdentityBond) : Nat × Nat × Nat :=
  (bond.bondStart, bond.bondDuration, bond.withdrawalRequestedAt)

/-- What a bond of the same owner and kind has become whose lock-up began no earlier and is
no shorter. -/
structure IdentityBond.Becomes (bond later : IdentityBond) : Prop where
  identity : later.identity = bond.identity
  isRolling : later.isRolling = bond.isRolling
  noticePeriodDuration : later.noticePeriodDuration = bond.noticePeriodDuration
  bondStart : bond.bondStart ≤ later.bondStart
  bondDuration : bond.bondDuration ≤ later.bondDuration

theorem IdentityBond.Becomes.refl (bond : IdentityBond) : bond.Becomes bond :=
  ⟨rfl, rfl, rfl, le_rfl, le_rfl⟩

theorem IdentityBond.Becomes.trans {bond middle later : IdentityBond}
    (first : bond.Becomes middle) (second : middle.Becomes later) : bond.Becomes later where
  identity := second.identity.trans first.identity
  isRolling := second.isRolling.trans first.isRolling
  noticePeriodDuration := second.noticePeriodDuration.trans first.noticePeriodDuration
  bondStart := first.bondStart.trans second.bondStart
  bondDuration := first.bondDuration.trans second.bondDuration

/-- The call begins a lock-up. -/
def Act.begins : Act → Bool
  | .call (.createBond ..) | .call (.renewIfRolling _) => true
  | _ => false

section History

variable {Ledger : Type} {ext : Externals Ledger} {self : Address} {env : Env} {call : Call}
variable {before after : State Ledger} {storage stored : Storage}
variable {trace : List (Event (State Ledger) Label)} {event : Event (State Ledger) Label}

/-- Time never runs backwards along the trace. -/
def InOrder (trace : List (Event (State Ledger) Label)) : Prop :=
  trace.Pairwise fun first second => first.label.env.timestamp ≤ second.label.env.timestamp

/-- The lock-up of the stored bond began when an event of the history says so. -/
def Begun (trace : List (Event (State Ledger) Label)) (storage : Storage) : Prop :=
  ∀ bond, storage.bond = some bond → ∃ past ∈ trace, past.label.act.begins = true ∧
    bond.bondStart = past.label.env.timestamp

/-- The stored bond stays the same bond, and its terms change only with its owner. -/
structure Continues (env : Env) (before after : Storage) : Prop where
  becomes : ∀ bond, before.bond = some bond →
    ∃ later, after.bond = some later ∧ bond.Becomes later
  terms : ∀ bond later, before.bond = some bond → after.bond = some later →
    later.terms ≠ bond.terms → env.authorized bond.identity = true

theorem Continues.of_same (same : stored.bond = storage.bond) : Continues env storage stored where
  becomes bond found := ⟨bond, same ▸ found, .refl bond⟩
  terms bond later found stands differ := by
    have kept : later = bond := Option.some.inj (stands.symm.trans (same.trans found))
    exact absurd (congrArg IdentityBond.terms kept) differ

theorem Continues.of_written {bond updated : IdentityBond} (found : storage.bond = some bond)
    (written : storage.Writes stored updated) (becomes : bond.Becomes updated)
    (terms : updated.terms = bond.terms ∨ env.authorized bond.identity = true) :
    Continues env storage stored where
  becomes other stands := by
    obtain rfl := Option.some.inj (found.symm.trans stands)
    exact ⟨updated, written.bond, becomes⟩
  terms other later stands result differ := by
    obtain rfl := Option.some.inj (found.symm.trans stands)
    obtain rfl := written.unique result
    exact terms.resolve_left differ

/-- A call other than a creation continues the bond, whose lock-up began in the past. -/
theorem Change.continues (change : Change ext env before after call)
    (goes : Act.creates (.call call) = false)
    (past : ∀ bond, before.storage.bond = some bond → bond.bondStart ≤ env.timestamp) :
    Continues env before.storage after.storage := by
  cases change with
  | initialized _ _ same | transferred _ _ same => exact .of_same same
  | administered _ _ same | unrelated _ same | notRenewed same => exact .of_same same.bond
  | created => cases goes
  | toppedUp found _ _ _ _ written | withdrawn found _ _ _ _ _ written
  | leftEarly found _ _ written | closed found _ _ _ written | liquidated found _ written
  | slashed found _ _ _ _ written | slashBonded found _ _ _ written =>
      exact .of_written found written ⟨rfl, rfl, rfl, le_rfl, le_rfl⟩ (.inl rfl)
  | requested found authorized written =>
      exact .of_written found written ⟨rfl, rfl, rfl, le_rfl, le_rfl⟩ (.inr authorized)
  | renewed found authorized written =>
      exact .of_written found written ⟨rfl, rfl, rfl, past _ found, le_rfl⟩ (.inr authorized)
  | extended found authorized written =>
      exact .of_written found written ⟨rfl, rfl, rfl, le_rfl, Nat.le_add_right _ _⟩
        (.inr authorized)

theorem Begun.kept {bond updated : IdentityBond} (begun : Begun trace storage)
    (found : storage.bond = some bond) (written : storage.Writes stored updated)
    (same : updated.bondStart = bond.bondStart) : Begun (trace ++ [event]) stored := by
  intro other stands
  obtain rfl := written.unique stands
  obtain ⟨past, recorded, begins, started⟩ := begun bond found
  exact ⟨past, List.mem_append_left _ recorded, begins, same.trans started⟩

theorem Begun.same (begun : Begun trace storage) (same : stored.bond = storage.bond) :
    Begun (trace ++ [event]) stored := by
  intro other stands
  obtain ⟨past, recorded, begins, started⟩ := begun other (same ▸ stands)
  exact ⟨past, List.mem_append_left _ recorded, begins, started⟩

theorem Begun.now {updated : IdentityBond} (written : storage.Writes stored updated)
    (begins : event.label.act.begins = true)
    (started : updated.bondStart = event.label.env.timestamp) :
    Begun (trace ++ [event]) stored := by
  intro other stands
  obtain rfl := written.unique stands
  exact ⟨event, by simp, begins, started⟩

theorem Change.begun (change : Change ext env before after call)
    (begun : Begun trace before.storage) :
    Begun (trace ++ [⟨before, ⟨env, .call call⟩, after⟩]) after.storage := by
  cases change with
  | initialized _ _ same | transferred _ _ same => exact begun.same same
  | administered _ _ same | unrelated _ same | notRenewed same => exact begun.same same.bond
  | created _ _ _ _ written | renewed _ _ written => exact .now written rfl rfl
  | toppedUp found _ _ _ _ written | withdrawn found _ _ _ _ _ written
  | leftEarly found _ _ written | closed found _ _ _ written | liquidated found _ written
  | slashed found _ _ _ _ written | slashBonded found _ _ _ written
  | requested found _ written | extended found _ written => exact begun.kept found written rfl

end History

section Runs

variable {Ledger : Type} {ext : Externals Ledger} {self : Address}
variable {start final : State Ledger} {trace : List (Event (State Ledger) Label)}

theorem Begun.of_run (guarded : ext.Guarded self) (unbonded : start.storage.bond = none)
    (run : Run (Step ext self) start trace final) : Begun trace final.storage := by
  refine run.history (motive := fun trace state => Begun trace state.storage) ?_ ?_
  · intro bond found
    simp [unbonded] at found
  · rintro trace ⟨before, ⟨env, act⟩, after⟩ - begun stepped
    rcases step_change guarded stepped with ⟨call, rfl, -, change⟩ | ⟨rfl, same⟩
    · exact change.begun begun
    · exact begun.same same.bond

/-- Every event of a run in order that is not a creation continues the bond. -/
theorem continues_of_run (guarded : ext.Guarded self) (unbonded : start.storage.bond = none)
    (run : Run (Step ext self) start trace final) (order : InOrder trace)
    {event : Event (State Ledger) Label} (member : event ∈ trace)
    (goes : event.label.act.creates = false) :
    Continues event.label.env event.before.storage event.after.storage := by
  obtain ⟨earlier, later, rfl⟩ := List.append_of_mem member
  obtain ⟨reached, stepped, -⟩ := run.split rfl
  have past : ∀ bond, event.before.storage.bond = some bond →
      bond.bondStart ≤ event.label.env.timestamp := by
    intro bond found
    obtain ⟨beginning, recorded, -, started⟩ :=
      Begun.of_run guarded unbonded reached bond found
    rw [started]
    exact (List.pairwise_append.mp order).2.2 beginning recorded event (by simp)
  rcases step_change guarded stepped with ⟨call, acts, -, change⟩ | ⟨-, same⟩
  · exact change.continues (acts ▸ goes) past
  · exact .of_same same.bond

/-- In every run in the order of time, until another is created the stored bond keeps its
owner, its kind and its notice period, its lock-up begins no earlier and gets no shorter,
so that it ends no earlier; its terms change only in steps that its owner authorized; and
its lock-up began when it was created or renewed. -/
theorem terms_only_advance (guarded : ext.Guarded self) (unbonded : start.storage.bond = none)
    (run : Run (Step ext self) start trace final) (order : InOrder trace) :
    (∀ earlier event later, trace = earlier ++ event :: later →
      (∀ other ∈ event :: later, other.label.act.creates = false) →
      ∀ bond, event.before.storage.bond = some bond →
        ∃ last, final.storage.bond = some last ∧ bond.Becomes last ∧
          bond.bondStart + bond.bondDuration ≤ last.bondStart + last.bondDuration) ∧
    (∀ event ∈ trace, event.label.act.creates = false →
      ∀ bond later, event.before.storage.bond = some bond →
        event.after.storage.bond = some later → later.terms ≠ bond.terms →
          event.label.env.authorized bond.identity = true) ∧
    Begun trace final.storage := by
  refine ⟨?_, ?_, .of_run guarded unbonded run⟩
  · intro earlier event later position quiet bond found
    obtain ⟨-, stepped, rest⟩ := run.split position
    have quietly : ∀ other ∈ event :: later,
        Continues other.label.env other.before.storage other.after.storage := by
      intro other member
      refine continues_of_run guarded unbonded run order ?_ (quiet other member)
      rw [position]
      exact List.mem_append_right _ member
    obtain ⟨-, last, stands, becomes⟩ := (Run.cons stepped rest).restrict
      (fun event => Continues event.label.env event.before.storage event.after.storage)
      (fun state => ∃ last, state.storage.bond = some last ∧ bond.Becomes last) quietly
      ⟨bond, found, .refl bond⟩ fun other continues reached _ => by
        obtain ⟨middle, held, becomes⟩ := reached
        obtain ⟨last, stands, further⟩ := continues.becomes middle held
        exact ⟨last, stands, becomes.trans further⟩
    refine ⟨last, stands, becomes, ?_⟩
    exact Nat.add_le_add becomes.bondStart becomes.bondDuration
  · intro event member goes
    exact (continues_of_run guarded unbonded run order member goes).terms

end Runs

section Sample

/-- A rolling bond is extended, and renewed once the longer lock-up is over. -/
def extendedAndRenewed : List Label :=
  [ ⟨.signedBy ⟨5⟩ ⟨0⟩ 0, .call (.createBond ⟨5⟩ 2000000000000000000 60 true 30)⟩,
    ⟨.signedBy ⟨5⟩ ⟨0⟩ 50, .call (.extendDuration ⟨5⟩ 40)⟩,
    ⟨.signedBy ⟨5⟩ ⟨0⟩ 70, .call (.renewIfRolling ⟨5⟩)⟩,
    ⟨.signedBy ⟨5⟩ ⟨0⟩ 130, .call (.renewIfRolling ⟨5⟩)⟩ ]

def extendedTrace : List (Event (State ReferenceLedger) Label) :=
  record (next Externals.reference ⟨0⟩) bondSample extendedAndRenewed

theorem terms_only_advance_sample :
    ∃ trace final, Run (Step Externals.reference ⟨0⟩) bondSample trace final ∧
      ∃ earlier event later bond last, trace = earlier ++ event :: later ∧
        event.before.storage.bond = some bond ∧ bond.bondStart + bond.bondDuration = 60 ∧
          final.storage.bond = some last ∧ bond.Becomes last ∧
            last.bondStart + last.bondDuration = 230 := by
  have run : Run (Step Externals.reference ⟨0⟩) bondSample extendedTrace
      (extendedAndRenewed.foldl (advance (next Externals.reference ⟨0⟩)) bondSample) :=
    run_of_record step_of_next (by decide +kernel)
  have position : extendedTrace = [extendedTrace.get ⟨0, by decide⟩] ++
      extendedTrace.get ⟨1, by decide⟩ :: [extendedTrace.get ⟨2, by decide⟩,
        extendedTrace.get ⟨3, by decide⟩] := rfl
  have order : InOrder extendedTrace := by
    unfold InOrder
    decide +kernel
  obtain ⟨advances, -, -⟩ := terms_only_advance (guarded_reference ⟨0⟩) rfl run order
  obtain ⟨last, stands, becomes, -⟩ := advances _ _ _ position (by decide +kernel) _ rfl
  refine ⟨_, _, run, _, _, _, _, last, position, rfl, by decide +kernel, stands, becomes, ?_⟩
  obtain rfl := Option.some.inj stands
  decide +kernel

end Sample

end CredenceBond
