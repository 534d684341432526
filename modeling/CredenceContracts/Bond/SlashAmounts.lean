import CredenceContracts.Bond.Change

/-!
# One slash, one amount

A slash cuts its amount down to the available stake, and the history, the treasury
and the events are all given that amount.  The slashed amount alone is also raised by
a rest of one unit, which is wiped out without being recorded or sent.
-/

namespace CredenceBond

open Soroban MachineInt Transition

section Readers

/-- The amount in a slashing event. -/
def BondEvent.slashAmount : BondEvent → Option Int
  | .bondSlashed _ slashAmount _ => some slashAmount
  | .bondSlashedV2 _ slashAmount _ _ _ _ _ => some slashAmount
  | _ => none

/-- The amounts in the slashing events of a log. -/
def slashedAmounts (events : List BondEvent) : List Int :=
  events.filterMap BondEvent.slashAmount

/-- The slash history of an identity, as far as its records are counted. -/
def slashHistory (storage : Storage) (identity : Address) : List SlashRecord :=
  (List.range (storage.slashCount identity)).filterMap (storage.slashRecord identity)

/-- The sum of the amounts in a slash history. -/
def recordedSlashes (storage : Storage) (identity : Address) : Int :=
  ((slashHistory storage identity).map SlashRecord.slashAmount).sum

section Appending

variable {env : Env} {storage : Storage} {identity : Address} {slashAmount total : Int}
variable {reason : String}

/-- While the counter has room, an appended record comes after all the others. -/
theorem recordedSlashes_append (room : storage.slashCount identity + 1 < 2 ^ 32) :
    recordedSlashes (appendSlashHistory env storage identity slashAmount reason total) identity =
      recordedSlashes storage identity + slashAmount := by
  have earlier : (List.range (storage.slashCount identity)).filterMap
      (Function.update (storage.slashRecord identity) (storage.slashCount identity)
        (some ⟨identity, slashAmount, reason, env.timestamp, total⟩)) =
        (List.range (storage.slashCount identity)).filterMap (storage.slashRecord identity) := by
    refine List.filterMap_congr fun index listed => ?_
    rw [Function.update_of_ne (List.mem_range.mp listed).ne]
  simp only [recordedSlashes, slashHistory, appendSlashHistory, Function.update_self,
    Nat.mod_eq_of_lt room, List.range_succ, List.filterMap_append]
  rw [earlier]
  simp

/-- A counter that starts over forgets the history. -/
theorem recordedSlashes_wrapped (full : storage.slashCount identity + 1 = 2 ^ 32) :
    recordedSlashes (appendSlashHistory env storage identity slashAmount reason total) identity =
      0 := by
  simp [recordedSlashes, slashHistory, appendSlashHistory, full]

end Appending

theorem slashedAmounts_tierEvents (env : Env) (identity : Address)
    (oldTier newTier : BondTier) :
    slashedAmounts (tierEvents env identity oldTier newTier) = [] := by
  unfold slashedAmounts tierEvents
  split <;> rfl

theorem slashedAmounts_append (events later : List BondEvent) :
    slashedAmounts (events ++ later) = slashedAmounts events ++ slashedAmounts later :=
  List.filterMap_append

end Readers

section Slash

variable {Ledger : Type} {ext : Externals Ledger} {self : Address} {env : Env}
variable {before after : State Ledger} {bond : IdentityBond} {admin : Address} {amount : Int}

/-- The storage with the record of a slash appended. -/
def slashAppended (env : Env) (storage : Storage) (bond : IdentityBond) (amount : Int) :
    Storage :=
  appendSlashHistory env storage bond.identity (slashedPart bond amount) "admin_slash"
    (bond.slashedBy amount).slashedAmount

/-- What a slash writes: the bond, one record and two slashing events. -/
structure SlashWrites (env : Env) (before after : State Ledger) (bond : IdentityBond)
    (amount : Int) : Prop where
  written : after.storage.bond = some (bond.slashedBy amount)
  counts : after.storage.slashCount = (slashAppended env before.storage bond amount).slashCount
  records :
    after.storage.slashRecord = (slashAppended env before.storage bond amount).slashRecord
  events : slashedAmounts after.storage.events = slashedAmounts before.storage.events ++
    [slashedPart bond amount, slashedPart bond amount]
  token : after.storage.bondToken = before.storage.bondToken
  treasury : after.storage.slashTreasury = before.storage.slashTreasury

theorem slashLogged_appends (env : Env) (storage : Storage) (bond : IdentityBond)
    (amount : Int) :
    slashLogged env storage bond amount =
      { slashAppended env storage bond amount with
        events := storage.events ++ tierEvents env bond.identity
          (getTierForAmount storage (saturatingI128 bond.stake))
          (getTierForAmount storage (saturatingI128 (bond.slashedBy amount).stake)) } := by
  rw [slashLogged, emitTierChangeIfNeeded_events]
  rfl

/-- A reward adds no slashing event and leaves the history alone. -/
theorem rewarding_keeps {storage rewarded : Storage} {part : Int}
    (done : whenPositive part storage (addSlashReward env storage admin part) = .ok rewarded) :
    rewarded.slashRecord = storage.slashRecord ∧ rewarded.slashCount = storage.slashCount ∧
      slashedAmounts rewarded.events = slashedAmounts storage.events ∧
        rewarded.bondToken = storage.bondToken ∧
          rewarded.slashTreasury = storage.slashTreasury := by
  have same : slashedAmounts rewarded.events = slashedAmounts storage.events := by
    rcases rewarding_events done with same | ⟨_, _, _, added⟩
    · rw [same]
    · rw [added]
      simp [Storage.publish, slashedAmounts, BondEvent.slashAmount]
  obtain ⟨⟨_, _, _, rfl⟩, -⟩ := rewarding_ok done
  exact ⟨rfl, rfl, same, rfl, rfl⟩

theorem slash_writes (done : slash ext env before admin amount = .ok after)
    (found : before.storage.bond = some bond) : SlashWrites env before after bond amount := by
  obtain ⟨-, -, -, other, stored, -, -, rewarded, rewards, -, _, -, rfl⟩ := slash_eq_ok.mp done
  obtain rfl := Option.some.inj (found.symm.trans stored)
  obtain ⟨records, counts, events, token, treasury⟩ := rewarding_keeps rewards
  rw [slashLogged_appends] at records counts events token treasury
  constructor
  · rfl
  · exact counts
  · exact records
  · simp only [Storage.publish, slashedAmounts_append, events, slashedAmounts_tierEvents,
      List.append_nil, List.append_assoc]
    rfl
  · exact token
  · exact treasury

end Slash

section Agreement

variable {Ledger : Type}

/-- The state, the treasury, the history and the events tell of one amount, which is
within what was asked for and what was available. -/
structure OneAmount (token : TokenInterface Ledger) (contract : Address)
    (before after : State Ledger) (bond later : IdentityBond) (amount slashed : Int) :
    Prop where
  raised : later.slashedAmount - bond.slashedAmount = slashed
  sent : slashed = 0 ∧ after.ledger = before.ledger ∨ ∃ asset treasury,
    before.storage.bondToken = some asset ∧ before.storage.slashTreasury = some treasury ∧
      token.Moves asset contract treasury slashed before.ledger after.ledger
  recorded : ∃ record, after.storage.slashRecord bond.identity
      (before.storage.slashCount bond.identity) = some record ∧
    record.identity = bond.identity ∧ record.slashAmount = slashed
  published : slashedAmounts after.storage.events =
    slashedAmounts before.storage.events ++ [slashed, slashed]
  within : slashed ≤ amount ∧ slashed ≤ bond.stake

/-- Everything that a slash leaves tells of one amount. -/
def SlashesOneAmount (token : TokenInterface Ledger) (self : Address)
    (event : Event (State Ledger) Label) : Prop :=
  ∀ admin amount, event.label.act = .call (.slash admin amount) →
    ∃ bond later slashed, event.before.storage.bond = some bond ∧
      event.after.storage.bond = some later ∧
        OneAmount token self event.before event.after bond later amount slashed

/-- A slash does not ask for all but one unit of what is available. -/
def LeavesNoUnit (event : Event (State Ledger) Label) : Prop :=
  ∀ admin amount, event.label.act = .call (.slash admin amount) →
    ∀ bond, event.before.storage.bond = some bond → bond.stake ≠ amount + 1

variable {ext : Externals Ledger} {self : Address} {env : Env} {before after : State Ledger}
variable {bond : IdentityBond} {admin : Address} {amount : Int}

/-- Only a rest of exactly one unit is wiped out. -/
theorem slashedDust_eq_zero_iff (sound : bond.Sound) :
    slashedDust bond amount = 0 ↔ bond.stake ≠ amount + 1 := by
  have available := sound.stake_nonneg
  unfold slashedDust slashedPart dustThreshold
  split <;> omega

/-- The tokens that a slash sends are what it takes from the stake. -/
theorem slash_sent (exact : ext.token.Exact) (sound : bond.Sound)
    (done : slash ext env before admin amount = .ok after)
    (found : before.storage.bond = some bond) :
    slashedPart bond amount = 0 ∧ after.ledger = before.ledger ∨ ∃ asset treasury,
      before.storage.bondToken = some asset ∧ before.storage.slashTreasury = some treasury ∧
        ext.token.Moves asset env.currentContractAddress treasury (slashedPart bond amount)
          before.ledger after.ledger := by
  obtain ⟨other, stored, nonnegative, -, sent, -⟩ := slash_ok done
  obtain rfl := Option.some.inj (found.symm.trans stored)
  have part : 0 ≤ slashedPart bond amount := le_min sound.stake_nonneg nonnegative
  rcases sent with ⟨-, treasury, asset, configured, token, moved⟩ | ⟨none, same⟩
  · exact .inr ⟨asset, treasury, token, configured, exact.transfer moved⟩
  · exact .inl ⟨le_antisymm none part, same⟩

/-- A slash tells of one amount everywhere exactly when it leaves no single unit. -/
theorem slash_oneAmount_iff (exact : ext.token.Exact) (sound : bond.Sound)
    (found : before.storage.bond = some bond)
    (done : slash ext env before admin amount = .ok after) :
    (∃ later slashed, after.storage.bond = some later ∧
        OneAmount ext.token env.currentContractAddress before after bond later amount slashed) ↔
      bond.stake ≠ amount + 1 := by
  obtain ⟨written, -, records, events, -, -⟩ := slash_writes done found
  have recorded : after.storage.slashRecord bond.identity
      (before.storage.slashCount bond.identity) =
        some ⟨bond.identity, slashedPart bond amount, "admin_slash", env.timestamp,
          (bond.slashedBy amount).slashedAmount⟩ := by
    simp [records, slashAppended, appendSlashHistory]
  rw [← slashedDust_eq_zero_iff sound]
  have raised : (bond.slashedBy amount).slashedAmount - bond.slashedAmount =
      slashedPart bond amount + slashedDust bond amount := by
    simp only [IdentityBond.slashedBy]
    omega
  constructor
  · rintro ⟨later, slashed, stored, raises, -, ⟨record, held, -, same⟩, -⟩
    obtain rfl := Option.some.inj (written.symm.trans stored)
    obtain rfl := Option.some.inj (recorded.symm.trans held)
    have part : slashedPart bond amount = slashed := same
    omega
  · intro clean
    refine ⟨_, slashedPart bond amount, written, by omega, slash_sent exact sound done found,
      ⟨_, recorded, rfl, rfl⟩, events, min_le_right _ _, min_le_left _ _⟩

/-- In a sound state every step tells of one amount exactly when it leaves no unit. -/
theorem step_oneAmount_iff {event : Event (State Ledger) Label} (exact : ext.token.Exact)
    (sound : event.before.storage.Sound)
    (stepped : Step ext self event.before event.label event.after) :
    SlashesOneAmount ext.token self event ↔ LeavesNoUnit event := by
  by_cases slashing : ∃ admin amount, event.label.act = .call (.slash admin amount)
  · obtain ⟨admin, amount, acted⟩ := slashing
    obtain ⟨addressed, done⟩ := stepped.called acted
    obtain ⟨bond, found, -⟩ := slash_ok done
    have agrees := slash_oneAmount_iff exact (sound bond found) found done
    rw [addressed] at agrees
    constructor
    · intro slashes _ _ called other stored
      cases acted.symm.trans called
      obtain rfl := Option.some.inj (found.symm.trans stored)
      obtain ⟨_, later, slashed, again, written, one⟩ := slashes _ _ acted
      obtain rfl := Option.some.inj (found.symm.trans again)
      exact agrees.mp ⟨later, slashed, written, one⟩
    · intro leaves _ _ called
      cases acted.symm.trans called
      obtain ⟨later, slashed, written, one⟩ := agrees.mpr (leaves _ _ acted bond found)
      exact ⟨bond, later, slashed, found, written, one⟩
  · apply iff_of_true
    · intro admin amount called
      exact absurd ⟨admin, amount, called⟩ slashing
    · intro admin amount called
      exact absurd ⟨admin, amount, called⟩ slashing

end Agreement

section Totals

variable {Ledger : Type}

/-- An unslashed bond of an identity without a slash history. -/
def Unslashed (state : State Ledger) : Prop :=
  ∃ bond, state.storage.bond = some bond ∧ bond.slashedAmount = 0 ∧
    state.storage.slashCount bond.identity = 0

def SlashesAlone (event : Event (State Ledger) Label) : Prop :=
  ∃ admin amount, event.label.act = .call (.slash admin amount)

/-- Since the bond was created, the history and the treasury got what was slashed. -/
structure Balanced (token : TokenInterface Ledger) (contract : Address)
    (created state : State Ledger) : Prop where
  recorded : ∀ bond, state.storage.bond = some bond →
    recordedSlashes state.storage bond.identity = bond.slashedAmount
  sent : ∀ bond asset treasury, state.storage.bond = some bond →
    created.storage.bondToken = some asset → created.storage.slashTreasury = some treasury →
      token.Moves asset contract treasury bond.slashedAmount created.ledger state.ledger

/-- A slash leaves no single unit; one that fills up the counter of the history takes
nothing, and nothing was taken before it. -/
def KeepsTotals (event : Event (State Ledger) Label) : Prop :=
  ∀ admin amount, event.label.act = .call (.slash admin amount) →
    ∀ bond, event.before.storage.bond = some bond →
      if event.before.storage.slashCount bond.identity + 1 < 2 ^ 32 then
        bond.stake ≠ amount + 1
      else
        bond.slashedAmount = 0 ∧ (bond.bondedAmount = 0 ∨ amount = 0 ∧ bond.bondedAmount ≠ 1)

/-- What slashes keep: sound amounts, the configuration, and a counter in its range. -/
structure Comparable (created state : State Ledger) : Prop where
  sound : state.storage.Sound
  token : state.storage.bondToken = created.storage.bondToken
  treasury : state.storage.slashTreasury = created.storage.slashTreasury
  counter : ∀ bond, state.storage.bond = some bond →
    state.storage.slashCount bond.identity < 2 ^ 32

variable {ext : Externals Ledger} {self : Address} {env : Env}
variable {created before after : State Ledger} {bond : IdentityBond} {admin : Address}
variable {amount : Int}

theorem Comparable.slashed (comparable : Comparable created before)
    (change : after.storage.Sound) (written : SlashWrites env before after bond amount) :
    Comparable created after where
  sound := change
  token := written.token.trans comparable.token
  treasury := written.treasury.trans comparable.treasury
  counter := by
    intro later stored
    obtain rfl := Option.some.inj (written.written.symm.trans stored)
    rw [written.counts]
    simp only [slashAppended, appendSlashHistory, IdentityBond.slashedBy,
      Function.update_self]
    exact Nat.mod_lt _ (by decide)

/-- What the history of the bond's identity sums up to after a slash. -/
theorem recordedSlashes_slashed (written : SlashWrites env before after bond amount) :
    recordedSlashes after.storage bond.identity =
      recordedSlashes (slashAppended env before.storage bond amount) bond.identity := by
  unfold recordedSlashes slashHistory
  rw [written.counts, written.records]

/-- The treasury got what a slash took, whichever it is. -/
theorem slash_moves (exact : ext.token.Exact) (sound : bond.Sound)
    (done : slash ext env before admin amount = .ok after)
    (found : before.storage.bond = some bond) {asset treasury : Address}
    (token : before.storage.bondToken = some asset)
    (configured : before.storage.slashTreasury = some treasury) :
    ext.token.Moves asset env.currentContractAddress treasury (slashedPart bond amount)
      before.ledger after.ledger := by
  rcases slash_sent exact sound done found with ⟨none, same⟩ |
    ⟨other, receiver, named, stored, moved⟩
  · rw [none, same]
    exact TokenInterface.Moves.refl _
  · obtain rfl := Option.some.inj (token.symm.trans named)
    obtain rfl := Option.some.inj (configured.symm.trans stored)
    exact moved

/-- From one slash to the next the totals stay equal exactly under the condition. -/
theorem slash_balanced_iff (exact : ext.token.Exact) (comparable : Comparable created before)
    (balanced : Balanced ext.token env.currentContractAddress created before)
    (found : before.storage.bond = some bond)
    (done : slash ext env before admin amount = .ok after) :
    Balanced ext.token env.currentContractAddress created after ↔
      if before.storage.slashCount bond.identity + 1 < 2 ^ 32 then
        bond.stake ≠ amount + 1
      else
        bond.slashedAmount = 0 ∧
          (bond.bondedAmount = 0 ∨ amount = 0 ∧ bond.bondedAmount ≠ 1) := by
  have written := slash_writes done found
  have sound := comparable.sound bond found
  obtain ⟨_, _, nonnegative, -⟩ := slash_ok done
  have recorded := balanced.recorded bond found
  have appended := recordedSlashes_slashed written
  have total : (bond.slashedBy amount).slashedAmount =
      bond.slashedAmount + slashedPart bond amount + slashedDust bond amount := rfl
  -- the tokens follow the record as soon as no dust is wiped out
  have exactly (clean : slashedDust bond amount = 0)
      (sum : recordedSlashes after.storage bond.identity =
        bond.slashedAmount + slashedPart bond amount) :
      Balanced ext.token env.currentContractAddress created after := by
    constructor
    · intro later stored
      obtain rfl := Option.some.inj (written.written.symm.trans stored)
      rw [total, clean, add_zero]
      exact sum
    · intro later asset treasury stored token configured
      obtain rfl := Option.some.inj (written.written.symm.trans stored)
      rw [total, clean, add_zero]
      exact TokenInterface.Moves.trans
        (balanced.sent bond asset treasury found token configured)
        (slash_moves exact sound done found (comparable.token.trans token)
          (comparable.treasury.trans configured))
  split
  · rename_i room
    rw [slashAppended, recordedSlashes_append room, recorded] at appended
    rw [← slashedDust_eq_zero_iff sound]
    constructor
    · intro after
      have sum := after.recorded _ written.written
      change recordedSlashes _ bond.identity = _ at sum
      omega
    · exact fun clean => exactly clean appended
  · rename_i full
    have last : before.storage.slashCount bond.identity + 1 = 2 ^ 32 := by
      have bounded := comparable.counter bond found
      omega
    rw [slashAppended, recordedSlashes_wrapped last] at appended
    have nothing : bond.slashedAmount + slashedPart bond amount + slashedDust bond amount = 0 ↔
        bond.slashedAmount = 0 ∧
          (bond.bondedAmount = 0 ∨ amount = 0 ∧ bond.bondedAmount ≠ 1) := by
      obtain ⟨low, within, -⟩ := sound
      unfold slashedDust slashedPart dustThreshold IdentityBond.stake
      split <;> omega
    rw [← nothing]
    constructor
    · intro after
      have sum := after.recorded _ written.written
      change recordedSlashes _ bond.identity = _ at sum
      omega
    · intro zero
      obtain ⟨part, dust⟩ : 0 ≤ slashedPart bond amount ∧ 0 ≤ slashedDust bond amount := by
        have available := sound.stake_nonneg
        unfold slashedDust slashedPart
        split <;> omega
      have low := sound.nonnegative
      exact exactly (by omega) (by omega)

theorem balanced_created (unslashed : Unslashed created) {contract : Address} :
    Balanced ext.token contract created created := by
  obtain ⟨bond, found, nothing, new⟩ := unslashed
  constructor
  · intro other stored
    obtain rfl := Option.some.inj (found.symm.trans stored)
    simp [recordedSlashes, slashHistory, new, nothing]
  · intro other asset treasury stored _ _
    obtain rfl := Option.some.inj (found.symm.trans stored)
    rw [nothing]
    exact TokenInterface.Moves.refl _

theorem comparable_created (sound : created.storage.Sound) (unslashed : Unslashed created) :
    Comparable created created where
  sound := sound
  token := rfl
  treasury := rfl
  counter := by
    obtain ⟨bond, found, -, new⟩ := unslashed
    intro other stored
    obtain rfl := Option.some.inj (found.symm.trans stored)
    rw [new]
    decide

/-- In a run of slashes alone the totals are equal in every state, if and only if every
slash meets the condition. -/
theorem balanced_iff (exact : ext.token.Exact) (guarded : ext.Guarded self)
    (sound : created.storage.Sound) (unslashed : Unslashed created) {final : State Ledger}
    {trace : List (Event (State Ledger) Label)} (run : Run (Step ext self) created trace final)
    (alone : ∀ event ∈ trace, SlashesAlone event) :
    (∀ event ∈ trace, Balanced ext.token self created event.after) ↔
      ∀ event ∈ trace, KeepsTotals event := by
  have kept (event : Event (State Ledger) Label) (slashes : SlashesAlone event)
      (comparable : Comparable created event.before)
      (stepped : Step ext self event.before event.label event.after) :
      Comparable created event.after := by
    obtain ⟨admin, amount, acted⟩ := slashes
    have done := (stepped.called acted).2
    obtain ⟨bond, found, -⟩ := slash_ok done
    exact comparable.slashed ((invoke_change guarded done).sound comparable.sound)
      (slash_writes done found)
  have slashing := (run.restrict SlashesAlone (Comparable created) alone
    (comparable_created sound unslashed) kept).1
  refine slashing.forall_after_iff (Balanced ext.token self created) (fun _ => True)
    KeepsTotals (balanced_created unslashed) trivial (fun _ _ _ => trivial) ?_
  rintro event - balanced ⟨stepped, ⟨admin, amount, acted⟩, comparable⟩
  obtain ⟨rfl, done⟩ := stepped.called acted
  obtain ⟨bond, found, -⟩ := slash_ok done
  rw [slash_balanced_iff exact comparable balanced found done]
  constructor
  · intro condition _ _ called other stored
    cases acted.symm.trans called
    obtain rfl := Option.some.inj (found.symm.trans stored)
    exact condition
  · exact fun keeps => keeps admin amount acted bond found

/-- In every run every slash tells of one amount if and only if it leaves no single
unit of the stake; and from a bond without slashes on, the history, the treasury and the
bond agree on the total in every state that slashes alone reach, if and only if all
these slashes leave no single unit and the history has room for them. -/
theorem one_slash_one_amount_iff (exact : ext.token.Exact) (guarded : ext.Guarded self)
    {start : State Ledger} (unbonded : start.storage.bond = none)
    {trace : List (Event (State Ledger) Label)}
    (run : Run (Step ext self) start trace created) :
    (∀ event ∈ trace, SlashesOneAmount ext.token self event ↔ LeavesNoUnit event) ∧
      ∀ slashes final, Unslashed created → Run (Step ext self) created slashes final →
        (∀ event ∈ slashes, SlashesAlone event) →
          ((∀ event ∈ slashes, Balanced ext.token self created event.after) ↔
            ∀ event ∈ slashes, KeepsTotals event) := by
  constructor
  · intro event member
    obtain ⟨earlier, reached, stepped⟩ := run.reached_of_mem member
    exact step_oneAmount_iff exact (.of_run guarded unbonded reached) stepped
  · intro slashes final unslashed slashing alone
    exact balanced_iff exact guarded (.of_run guarded unbonded run) unslashed slashing alone

end Totals

section Sample

/-- A contract in which a user just bonded two tokens. -/
def bondedSample : State ReferenceLedger :=
  bondSample.follow Externals.reference (.signedBy ⟨5⟩ ⟨0⟩ 0)
    (.createBond ⟨5⟩ 2000000000000000000 60 false 0)

/-- Slashing an amount of the bond, as the admin. -/
def slashing (amount : Int) : Label where
  env := .signedBy ⟨1⟩ ⟨0⟩ 1
  act := .call (.slash ⟨1⟩ amount)

theorem run_bondedSample : ∃ trace,
    Run (Step Externals.reference ⟨0⟩) bondSample trace bondedSample :=
  ⟨_, .single (.follow _ _ rfl (by decide +kernel))⟩

theorem unslashed_bondedSample : Unslashed bondedSample :=
  ⟨{ identity := ⟨5⟩
     bondedAmount := 2000000000000000000
     bondStart := 0
     bondDuration := 60
     slashedAmount := 0
     active := true
     isRolling := false
     withdrawalRequestedAt := 0
     noticePeriodDuration := 0 }, by decide +kernel, rfl, by decide +kernel⟩

/-- Half a token is slashed, and then more than is left. -/
theorem one_slash_one_amount_sample :
    ∃ slashes final, Run (Step Externals.reference ⟨0⟩) bondedSample slashes final ∧
      slashes.length = 2 ∧ recordedSlashes final.storage ⟨5⟩ = 2000000000000000000 ∧
        ∀ event ∈ slashes, Balanced ReferenceLedger.token ⟨0⟩ bondedSample event.after := by
  let slashes := [slashing 500000000000000000, slashing 5000000000000000000]
  have run : Run (Step Externals.reference ⟨0⟩) bondedSample
      (record (next Externals.reference ⟨0⟩) bondedSample slashes)
      (slashes.foldl (advance (next Externals.reference ⟨0⟩)) bondedSample) :=
    run_of_record step_of_next (by decide +kernel)
  obtain ⟨trace, created⟩ := run_bondedSample
  have totals := (one_slash_one_amount_iff ReferenceLedger.exact (guarded_reference ⟨0⟩) rfl
    created).2 _ _ unslashed_bondedSample run (by simp [record, slashes, slashing, SlashesAlone])
  refine ⟨_, _, run, rfl, by decide +kernel, totals.mpr ?_⟩
  simp only [record, slashes, List.forall_mem_cons]
  refine ⟨?_, ?_, by simp⟩
  · rintro admin amount called bond found
    cases called
    cases found
    decide +kernel
  · rintro admin amount called bond found
    cases called
    cases found
    decide +kernel

/-- All but one unit of two tokens is slashed: the bond counts two tokens as slashed, the
history and the treasury got one unit less. -/
theorem slash_amounts_differ :
    ∃ trace after, Run (Step Externals.reference ⟨0⟩) bondSample trace bondedSample ∧
      Step Externals.reference ⟨0⟩ bondedSample (slashing 1999999999999999999) after ∧
        after.storage.bond.map IdentityBond.slashedAmount = some 2000000000000000000 ∧
          recordedSlashes after.storage ⟨5⟩ = 1999999999999999999 ∧
            after.ledger.holding ⟨9⟩ ⟨7⟩ = 1999999999999999999 ∧
              ¬SlashesOneAmount ReferenceLedger.token ⟨0⟩
                  ⟨bondedSample, slashing 1999999999999999999, after⟩ ∧
                ¬Balanced ReferenceLedger.token ⟨0⟩ bondedSample after := by
  obtain ⟨trace, created⟩ := run_bondedSample
  have stepped : Step Externals.reference ⟨0⟩ bondedSample (slashing 1999999999999999999)
      (bondedSample.follow Externals.reference (.signedBy ⟨1⟩ ⟨0⟩ 1)
        (.slash ⟨1⟩ 1999999999999999999)) :=
    .follow _ _ rfl (by decide +kernel)
  have sound := Storage.Sound.of_run (guarded_reference ⟨0⟩) rfl created
  refine ⟨trace, _, created, stepped, by decide +kernel, by decide +kernel, by decide +kernel,
    ?_, ?_⟩
  · intro one
    have agrees : SlashesOneAmount Externals.reference.token ⟨0⟩
        ⟨bondedSample, slashing 1999999999999999999, _⟩ ↔ LeavesNoUnit _ :=
      step_oneAmount_iff ReferenceLedger.exact sound stepped
    exact agrees.mp one _ _ rfl _ rfl (by decide +kernel)
  · intro balanced
    have sum := balanced.recorded _ rfl
    revert sum
    decide +kernel

end Sample

end CredenceBond
