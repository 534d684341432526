import CredenceContracts.Bond.Change

/-!
# Slashing is monotone and bounded

Two entry points slash the same record.  One caps the amount at what is left and
rejects a negative one.  The other rejects a total beyond the bonded amount and
leaves the sign of its amount to the check after the write, which admits what only
undoes earlier slashes.  The unchecked addition of the second can only leave the
range of a signed word into what that check rejects.
-/

namespace CredenceBond

open Soroban MachineInt Transition

def Act.slashes : Act → Bool
  | .call (.slash ..) | .call (.slashBond ..) => true
  | _ => false

/-- From one bond to the next the slashed amount does not fall, it stays within the
bonded amount, and the stake does not rise. -/
structure IdentityBond.SlashedTo (bond later : IdentityBond) : Prop where
  before : 0 ≤ bond.slashedAmount ∧ bond.slashedAmount ≤ bond.bondedAmount
  after : 0 ≤ later.slashedAmount ∧ later.slashedAmount ≤ later.bondedAmount
  slashed : bond.slashedAmount ≤ later.slashedAmount
  stake : later.stake ≤ bond.stake

/-- A slash slashes the stored bond. -/
def SlashesMonotonically {Ledger : Type} (event : Event (State Ledger) Label) : Prop :=
  event.label.act.slashes = true → ∃ bond later, event.before.storage.bond = some bond ∧
    event.after.storage.bond = some later ∧ bond.SlashedTo later

/-- The amount of a slash of the second kind is not negative. -/
def Label.SlashesForward (label : Label) : Prop :=
  match label.act with
  | .call (.slashBond _ slashAmount _) => 0 ≤ slashAmount
  | _ => True

/-- The amount of a slash of the second kind is a signed 128-bit word. -/
def Label.SlashTyped (label : Label) : Prop :=
  match label.act with
  | .call (.slashBond _ slashAmount _) => FitsI128 slashAmount
  | _ => True

section Steps

variable {Ledger : Type} {ext : Externals Ledger} {self : Address} {env : Env} {call : Call}
variable {before after : State Ledger} {bond : IdentityBond} {amount : Int}

/-- What a slash takes, and the dust it wipes out, are not negative. -/
theorem slashed_nonneg (sound : bond.Sound) (nonnegative : 0 ≤ amount) :
    0 ≤ slashedPart bond amount ∧ 0 ≤ slashedDust bond amount := by
  have part : slashedPart bond amount ≤ bond.stake := min_le_left _ _
  constructor
  · exact le_min sound.stake_nonneg nonnegative
  · unfold slashedDust
    split
    · exact sub_nonneg.mpr part
    · exact le_rfl

/-- A total that wraps around is negative, so an admitted total is exact. -/
theorem slashBond_total (sound : bond.Sound) (fits : FitsI128 amount)
    (low : 0 ≤ wrappingI128 (bond.slashedAmount + amount)) :
    wrappingI128 (bond.slashedAmount + amount) = bond.slashedAmount + amount := by
  obtain ⟨nonnegative, within, bounded⟩ := sound
  unfold FitsI128 at fits
  unfold wrappingI128 at low ⊢
  omega

theorem slashedTo_of_raise {total : Int} (sound : bond.Sound)
    (raised : bond.slashedAmount ≤ total) (within : total ≤ bond.bondedAmount) :
    bond.SlashedTo { bond with slashedAmount := total } where
  before := ⟨sound.nonnegative, sound.within⟩
  after := ⟨sound.nonnegative.trans raised, within⟩
  slashed := raised
  stake := sub_le_sub_left raised _

theorem slashes_of_spares (spares : call.Spares) : Act.slashes (.call call) = false := by
  rcases spares with admitted | admitted <;> cases call <;> trivial

/-- A call slashes monotonically exactly when it slashes forward. -/
theorem change_slashes_iff (change : Change ext env before after call)
    (sound : before.storage.Sound) (typed : Label.SlashTyped ⟨env, .call call⟩) :
    SlashesMonotonically ⟨before, ⟨env, .call call⟩, after⟩ ↔
      Label.SlashesForward ⟨env, .call call⟩ := by
  by_cases slashes : Act.slashes (.call call) = true
  · cases change with
    | @slashed bond _ amount found nonnegative _ _ within written =>
        apply iff_of_true
        · intro _
          obtain ⟨part, dust⟩ := slashed_nonneg (sound _ found) nonnegative
          have raised : bond.slashedAmount ≤
              bond.slashedAmount + slashedPart bond amount + slashedDust bond amount := by omega
          exact ⟨bond, _, found, written.bond, slashedTo_of_raise (sound _ found) raised within⟩
        · trivial
    | @slashBonded bond _ amount _ found _ low within written =>
        have total := slashBond_total (sound _ found) typed low
        rw [total] at written within
        constructor
        · intro monotone
          obtain ⟨other, later, stored, stands, slashed⟩ := monotone rfl
          obtain rfl := Option.some.inj (found.symm.trans stored)
          obtain rfl := written.unique stands
          exact nonneg_of_le_add_right slashed.slashed
        · intro forward _
          exact ⟨bond, _, found, written.bond,
            slashedTo_of_raise (sound _ found) (le_add_of_nonneg_right forward) within⟩
    | administered administers _ _ => simp [slashes_of_spares (.inl administers)] at slashes
    | unrelated bystands _ => simp [slashes_of_spares (.inr bystands)] at slashes
    | _ => cases slashes
  · apply iff_of_true
    · intro slashing
      exact absurd slashing slashes
    · cases call <;> trivial

end Steps

section Runs

variable {Ledger : Type} {ext : Externals Ledger} {self : Address}
variable {start final : State Ledger} {trace : List (Event (State Ledger) Label)}

/-- In every run, every slash is monotone and bounded, if and only if it is not a
slash of the second kind with a negative amount. -/
theorem slashes_monotonically_iff (guarded : ext.Guarded self)
    (unbonded : start.storage.bond = none) (run : Run (Step ext self) start trace final)
    {event : Event (State Ledger) Label} (member : event ∈ trace)
    (typed : event.label.SlashTyped) :
    SlashesMonotonically event ↔ event.label.SlashesForward := by
  obtain ⟨sound, effect⟩ := change_of_mem guarded unbonded run member
  obtain ⟨before, ⟨env, act⟩, after⟩ := event
  rcases effect with ⟨call, rfl, -, change⟩ | ⟨rfl, -⟩
  · exact change_slashes_iff change sound typed
  · apply iff_of_true
    · intro slashing
      cases slashing
    · trivial

end Runs

section Sample

/-- The admin slashes a bond and takes the slash back. -/
def unslashing : List Label :=
  [ ⟨.signedBy ⟨5⟩ ⟨0⟩ 0, .call (.createBond ⟨5⟩ 1000000000000000000 60 false 0)⟩,
    ⟨.signedBy ⟨1⟩ ⟨0⟩ 10, .call (.slashBond ⟨1⟩ 400000000000000000 [])⟩,
    ⟨.signedBy ⟨1⟩ ⟨0⟩ 20, .call (.slashBond ⟨1⟩ (-300000000000000000) [])⟩ ]

def unslashingTrace : List (Event (State ReferenceLedger) Label) :=
  record (next Externals.reference ⟨0⟩) bondSample unslashing

theorem unslashingTrace_run :
    Run (Step Externals.reference ⟨0⟩) bondSample unslashingTrace
      (unslashing.foldl (advance (next Externals.reference ⟨0⟩)) bondSample) :=
  run_of_record step_of_next (by decide +kernel)

/-- The negative slash lowers the slashed amount. -/
theorem slash_taken_back :
    ∃ trace final event, Run (Step Externals.reference ⟨0⟩) bondSample trace final ∧
      event ∈ trace ∧ event.label.act = .call (.slashBond ⟨1⟩ (-300000000000000000) []) ∧
        ¬SlashesMonotonically event := by
  have member : unslashingTrace.get ⟨2, by decide⟩ ∈ unslashingTrace := List.get_mem _ _
  refine ⟨_, _, _, unslashingTrace_run, member, rfl, fun monotone => ?_⟩
  obtain ⟨bond, later, found, stands, slashed⟩ := monotone rfl
  have earlier : (unslashingTrace.get ⟨2, by decide⟩).before.storage.bond.map
      IdentityBond.slashedAmount = some 400000000000000000 := by decide +kernel
  have less : (unslashingTrace.get ⟨2, by decide⟩).after.storage.bond.map
      IdentityBond.slashedAmount = some 100000000000000000 := by decide +kernel
  rw [found] at earlier
  rw [stands] at less
  have raised := slashed.slashed
  rw [Option.some.inj earlier, Option.some.inj less] at raised
  exact absurd raised (by decide)

/-- The slash before it was monotone. -/
theorem slashes_monotonically_sample :
    ∃ trace final event, Run (Step Externals.reference ⟨0⟩) bondSample trace final ∧
      event ∈ trace ∧ event.label.act = .call (.slashBond ⟨1⟩ 400000000000000000 []) ∧
        SlashesMonotonically event := by
  have member : unslashingTrace.get ⟨1, by decide⟩ ∈ unslashingTrace := List.get_mem _ _
  have fits : FitsI128 400000000000000000 := by decide
  have forward : (0 : Int) ≤ 400000000000000000 := by decide
  exact ⟨_, _, _, unslashingTrace_run, member, rfl,
    (slashes_monotonically_iff (guarded_reference ⟨0⟩) rfl unslashingTrace_run member fits).mpr
      forward⟩

end Sample

end CredenceBond
