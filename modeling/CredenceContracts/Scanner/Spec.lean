import CredenceContracts.Bond.Funds
import CredenceContracts.Library.Roster
import CredenceContracts.Scanner.Contract

/-!
# What the scanner does

When the calls of the scanner succeed and what they write, and what the registry is in
every run: a list without repeats, with the number of its active entries beside it.
-/

namespace LiquidationScanner

open Soroban MachineInt Transition
open CredenceBond (IdentityBond)

variable {env : Env} {storage after : Storage} {identity keeper : Address}
variable {cursor maxIter minSlashRatioBps : Nat} {result : ScanResult}

section Registry

theorem pushBack_eq_ok {registry longer : List Address} :
    pushBack registry identity = .ok longer ↔
      registry.length + 1 < 2 ^ 32 ∧ longer = registry ++ [identity] := by
  simp only [pushBack, Outcome.bind_eq_ok, Outcome.rejectIf_eq_ok, Outcome.pure_eq_ok, not_le,
    exists_const]

/-- The registry names every holder once, has as many slots as a host vector can have,
and its active holders are counted. -/
structure Registered (storage : Storage) : Prop where
  nodup : storage.bondHolderRegistry.Nodup
  fits : storage.bondHolderRegistry.length < 2 ^ 32
  size : storage.registrySize = storage.bondHolderRegistry.countP (isActive storage)

/-- The ways a step changes the registry. -/
inductive RegistryChange (before after : Storage) : Prop where
  | entered {identity : Address} (absent : identity ∉ before.bondHolderRegistry)
      (fits : before.bondHolderRegistry.length + 1 < 2 ^ 32)
      (stored : after = { before with
        bondHolderRegistry := before.bondHolderRegistry ++ [identity]
        bondHolderActive := Function.update before.bondHolderActive identity (some true)
        registrySize := before.registrySize + 1 }) :
      RegistryChange before after
  | activated {identity : Address} (present : identity ∈ before.bondHolderRegistry)
      (inactive : isActive before identity = false)
      (stored : after = { before with
        bondHolderActive := Function.update before.bondHolderActive identity (some true)
        registrySize := before.registrySize + 1 }) :
      RegistryChange before after
  | deactivated {identity : Address} (present : identity ∈ before.bondHolderRegistry)
      (active : isActive before identity = true)
      (stored : after = { before with
        bondHolderActive := Function.update before.bondHolderActive identity (some false)
        registrySize := before.registrySize - 1 }) :
      RegistryChange before after
  | kept (registry : after.bondHolderRegistry = before.bondHolderRegistry)
      (active : after.bondHolderActive = before.bondHolderActive)
      (size : after.registrySize = before.registrySize) :
      RegistryChange before after

theorem isActive_of_update {flag : Bool}
    (written : after.bondHolderActive =
      Function.update storage.bondHolderActive identity (some flag)) :
    isActive after = Function.update (isActive storage) identity flag := by
  funext other
  by_cases same : other = identity
  · simp [isActive, written, same]
  · simp [isActive, written, same]

/-- Changing the flag of one holder changes the count by that flag. -/
theorem countP_isActive {flag : Bool} (registered : Registered storage)
    (present : identity ∈ storage.bondHolderRegistry)
    (written : after.bondHolderActive =
      Function.update storage.bondHolderActive identity (some flag)) :
    storage.bondHolderRegistry.countP (isActive after) + (isActive storage identity).toNat =
      storage.registrySize + flag.toNat := by
  have flags := isActive_of_update written
  have counts := Roster.countP_add_toNat registered.nodup present
    fun other different => (congrFun flags other ▸ Function.update_of_ne different _ _).symm
  rw [counts, registered.size, flags, Function.update_self]

/-- Changing the flag of a listed holder, and the size with it, keeps the count right. -/
theorem Registered.flagged {flag : Bool} (registered : Registered storage)
    (present : identity ∈ storage.bondHolderRegistry)
    (listed : after.bondHolderRegistry = storage.bondHolderRegistry)
    (written : after.bondHolderActive =
      Function.update storage.bondHolderActive identity (some flag))
    (sized : after.registrySize + (isActive storage identity).toNat =
      storage.registrySize + flag.toNat) : Registered after where
  nodup := listed ▸ registered.nodup
  fits := listed ▸ registered.fits
  size := by
    have counts := countP_isActive registered present written
    rw [listed]
    omega

/-- A new holder is active and enters after the others. -/
theorem Registered.entered (registered : Registered storage)
    (absent : identity ∉ storage.bondHolderRegistry)
    (fits : storage.bondHolderRegistry.length + 1 < 2 ^ 32)
    (listed : after.bondHolderRegistry = storage.bondHolderRegistry ++ [identity])
    (written : after.bondHolderActive =
      Function.update storage.bondHolderActive identity (some true))
    (sized : after.registrySize = storage.registrySize + 1) : Registered after where
  nodup := by
    rw [listed]
    exact registered.nodup.append (List.nodup_singleton identity) (by simpa using absent)
  fits := by
    rw [listed]
    simpa using fits
  size := by
    have flags := isActive_of_update written
    have others : storage.bondHolderRegistry.countP (isActive after) =
        storage.bondHolderRegistry.countP (isActive storage) := by
      apply List.countP_congr
      intro other member
      rw [flags, Function.update_of_ne (ne_of_mem_of_not_mem member absent)]
    have active : isActive after identity = true := by
      rw [flags, Function.update_self]
    rw [listed, List.countP_append, others, ← registered.size, sized]
    simpa using active

theorem Registered.change (registered : Registered storage)
    (change : RegistryChange storage after) : Registered after := by
  cases change with
  | kept registry active size =>
      have flags : isActive after = isActive storage := by
        funext other
        simp [isActive, active]
      constructor
      · rw [registry]
        exact registered.nodup
      · rw [registry]
        exact registered.fits
      · rw [registry, size, flags]
        exact registered.size
  | entered absent fits stored =>
      exact registered.entered absent fits (congrArg Storage.bondHolderRegistry stored)
        (congrArg Storage.bondHolderActive stored) (congrArg Storage.registrySize stored)
  | activated present inactive stored =>
      have size := congrArg Storage.registrySize stored
      have listed : after.bondHolderRegistry = storage.bondHolderRegistry := by rw [stored]
      refine registered.flagged present listed (congrArg Storage.bondHolderActive stored) ?_
      rw [size, inactive]
      rfl
  | deactivated present active stored =>
      have size := congrArg Storage.registrySize stored
      have written := congrArg Storage.bondHolderActive stored
      have counts := countP_isActive registered present written
      have listed : after.bondHolderRegistry = storage.bondHolderRegistry := by rw [stored]
      refine registered.flagged present listed written ?_
      simp only [active, Bool.toNat_true, Bool.toNat_false] at counts size ⊢
      omega

end Registry

section Page

/-- A list whose elements all have an image is mapped to the list of the images. -/
theorem mapM_eq_some_filterMap {α β : Type} {image : α → Option β} {elements : List α}
    (mapped : ∀ element ∈ elements, (image element).isSome = true) :
    elements.mapM image = some (elements.filterMap image) := by
  induction elements with
  | nil => rfl
  | cons element rest ih =>
      obtain ⟨value, first⟩ := Option.isSome_iff_exists.mp (mapped element List.mem_cons_self)
      have others := ih fun other member => mapped other (List.mem_cons_of_mem _ member)
      simp [List.mapM_cons, first, others]

theorem pageEnd_le : pageEnd storage cursor maxIter ≤ storage.bondHolderRegistry.length :=
  min_le_right _ _

theorem pageDone_eq_true :
    pageDone storage cursor maxIter = true ↔
      pageEnd storage cursor maxIter = storage.bondHolderRegistry.length := by
  have bound : pageEnd storage cursor maxIter ≤ storage.bondHolderRegistry.length := pageEnd_le
  simp only [pageDone, decide_eq_true_eq]
  omega

theorem mem_pageSlots {slot : Nat} :
    slot ∈ pageSlots storage cursor maxIter ↔
      cursor ≤ slot ∧ slot < pageEnd storage cursor maxIter := by
  simp only [pageSlots, List.mem_range'_1]
  omega

/-- The holders in some slots. -/
def holdersAt (storage : Storage) (slots : List Nat) : List Address :=
  slots.filterMap fun slot => storage.bondHolderRegistry[slot]?

/-- What a scan returns. -/
def pageResult (storage : Storage) (cursor maxIter minSlashRatioBps : Nat) : ScanResult where
  candidates :=
    (holdersAt storage (pageSlots storage cursor maxIter)).filterMap
      (candidate storage minSlashRatioBps)
  nextCursor := nextCursor storage cursor maxIter
  done := pageDone storage cursor maxIter
  registrySize := storage.registrySize

theorem scanLiquidationCandidates_eq_ok :
    scanLiquidationCandidates storage env keeper cursor maxIter minSlashRatioBps =
        .ok (after, result) ↔
      env.authorized keeper = true ∧
        (storage.bondHolderRegistry ≠ [] → cursor < storage.bondHolderRegistry.length) ∧
          result = pageResult storage cursor maxIter minSlashRatioBps ∧
            after = { storage with
              keeperCursor := Function.update storage.keeperCursor keeper
                (nextCursor storage cursor maxIter) } := by
  have found : (pageSlots storage cursor maxIter).mapM (fun slot =>
      storage.bondHolderRegistry[slot]?) =
        some (holdersAt storage (pageSlots storage cursor maxIter)) := by
    apply mapM_eq_some_filterMap
    intro slot member
    have inside := (mem_pageSlots.mp member).2.trans_le pageEnd_le
    simpa using inside
  simp only [scanLiquidationCandidates, found, Outcome.bind_eq_ok, requireAuth_eq_ok,
    Outcome.rejectIf_eq_ok, Outcome.unwrapOr_eq_ok, Outcome.pure_eq_ok, Option.some.injEq,
    exists_const, exists_eq_left', Prod.mk.injEq, ← List.length_pos_iff]
  constructor
  · rintro ⟨authorized, inside, rfl, rfl⟩
    exact ⟨authorized, fun some => by omega, rfl, rfl⟩
  · rintro ⟨authorized, inside, rfl, rfl⟩
    exact ⟨authorized, fun outside => by omega, rfl, rfl⟩

/-- The amounts are as those of a validated bond. -/
structure WithinMax (bond : IdentityBond) : Prop where
  slashed : 0 ≤ bond.slashedAmount
  slashedMax : bond.slashedAmount ≤ CredenceBond.maxBondAmount
  bondedMax : bond.bondedAmount ≤ CredenceBond.maxBondAmount

/-- Active in the registry, with an active bond that was slashed enough. -/
def liquidatable (storage : Storage) (minSlashRatioBps : Nat) (identity : Address) : Bool :=
  isActive storage identity && (storage.bond identity).any fun bond =>
    bond.active && decide (0 < bond.bondedAmount) &&
      decide ((minSlashRatioBps : Int) ≤ bond.slashedAmount * 10000 / bond.bondedAmount)

theorem slashRatioBps_of_withinMax {bond : IdentityBond} (within : WithinMax bond) :
    slashRatioBps bond = bond.slashedAmount * 10000 / bond.bondedAmount := by
  have slashed := within.slashed
  have most := within.slashedMax
  have fits : FitsI128 (bond.slashedAmount * bpsDenominator) := by
    unfold FitsI128 bpsDenominator
    unfold CredenceBond.maxBondAmount at most
    omega
  have product : 0 ≤ bond.slashedAmount * bpsDenominator := by
    unfold bpsDenominator
    omega
  rw [slashRatioBps, i128OrZero, if_pos fits, Int.tdiv_eq_ediv_of_nonneg product]
  rfl

/-- A holder is a candidate if and only if it is liquidatable. -/
theorem candidate_identity
    (within : ∀ bond, storage.bond identity = some bond → WithinMax bond) :
    (candidate storage minSlashRatioBps identity).map LiquidationCandidate.identity =
      if liquidatable storage minSlashRatioBps identity = true then some identity else none := by
  cases active : isActive storage identity with
  | false => simp [candidate, liquidatable, active]
  | true =>
      cases stored : storage.bond identity with
      | none => simp [candidate, liquidatable, active, stored]
      | some bond =>
          have ratio := slashRatioBps_of_withinMax (within bond stored)
          simp only [candidate, liquidatable, active, stored]
          grind

theorem candidates_identity {holders : List Address}
    (within : ∀ identity ∈ holders, ∀ bond, storage.bond identity = some bond → WithinMax bond) :
    (holders.filterMap (candidate storage minSlashRatioBps)).map LiquidationCandidate.identity =
      holders.filter (liquidatable storage minSlashRatioBps) := by
  rw [List.map_filterMap, ← List.filterMap_eq_filter]
  refine List.filterMap_congr fun identity member => ?_
  rw [candidate_identity (within identity member)]
  simp [Option.guard]

end Page

section Steps

/-- A new holder takes the slot after the others. -/
theorem registerBondHolder_eq_ok_of_absent (absent : identity ∉ storage.bondHolderRegistry) :
    registerBondHolder storage identity = .ok after ↔
      (storage.bondHolderRegistry.length + 1 < 2 ^ 32 ∧ storage.registrySize + 1 < 2 ^ 32) ∧
        after = { storage with
          bondHolderRegistry := storage.bondHolderRegistry ++ [identity]
          bondHolderActive := Function.update storage.bondHolderActive identity (some true)
          registrySize := storage.registrySize + 1 } := by
  simp only [registerBondHolder, if_neg absent, Outcome.bind_eq_ok, pushBack_eq_ok,
    checkedU32_eq_ok, Outcome.pure_eq_ok]
  constructor
  · rintro ⟨longer, ⟨fits, rfl⟩, size, ⟨sized, rfl⟩, stored⟩
    exact ⟨⟨fits, sized⟩, stored⟩
  · rintro ⟨⟨fits, sized⟩, stored⟩
    exact ⟨_, ⟨fits, rfl⟩, _, ⟨sized, rfl⟩, stored⟩

/-- A holder of the registry is activated, if it is not active. -/
theorem registerBondHolder_of_present (present : identity ∈ storage.bondHolderRegistry)
    (done : registerBondHolder storage identity = .ok after) :
    after = storage ∨ isActive storage identity = false ∧ after = { storage with
      bondHolderActive := Function.update storage.bondHolderActive identity (some true)
      registrySize := storage.registrySize + 1 } := by
  rw [registerBondHolder, if_pos present] at done
  cases active : isActive storage identity with
  | true =>
      rw [if_pos active] at done
      exact .inl (Outcome.pure_eq_ok.mp done)
  | false =>
      rw [if_neg (by simp [active])] at done
      simp only [Outcome.bind_eq_ok, checkedU32_eq_ok, Outcome.pure_eq_ok] at done
      obtain ⟨size, ⟨-, rfl⟩, stored⟩ := done
      exact .inr ⟨rfl, stored⟩

theorem registerBondHolder_change (done : registerBondHolder storage identity = .ok after) :
    RegistryChange storage after := by
  by_cases present : identity ∈ storage.bondHolderRegistry
  · rcases registerBondHolder_of_present present done with rfl | ⟨inactive, stored⟩
    · exact .kept rfl rfl rfl
    · exact .activated present inactive stored
  · obtain ⟨⟨fits, -⟩, stored⟩ := (registerBondHolder_eq_ok_of_absent present).mp done
    exact .entered present fits stored

theorem registerBondHolder_keeperCursor
    (done : registerBondHolder storage identity = .ok after) :
    after.keeperCursor = storage.keeperCursor := by
  by_cases present : identity ∈ storage.bondHolderRegistry
  · rcases registerBondHolder_of_present present done with rfl | ⟨-, rfl⟩
    · rfl
    · rfl
  · obtain ⟨-, rfl⟩ := (registerBondHolder_eq_ok_of_absent present).mp done
    rfl

theorem deregisterBondHolder_keeperCursor :
    (deregisterBondHolder storage identity).keeperCursor = storage.keeperCursor := by
  unfold deregisterBondHolder
  split <;> rfl

theorem deregisterBondHolder_change :
    RegistryChange storage (deregisterBondHolder storage identity) := by
  unfold deregisterBondHolder
  split
  next listed => exact .deactivated listed.1 listed.2 rfl
  next => exact .kept rfl rfl rfl

theorem advanceKeeperCursor_eq_ok {next : Nat} :
    advanceKeeperCursor storage keeper next = .ok after ↔
      (next = 0 ∨ next > storage.keeperCursor keeper ∧
        next ≤ storage.bondHolderRegistry.length) ∧
          after = { storage with
            keeperCursor := Function.update storage.keeperCursor keeper next } := by
  simp only [advanceKeeperCursor, Outcome.bind_eq_ok, Outcome.rejectIf_eq_ok,
    Outcome.pure_eq_ok, Decidable.not_not, exists_const]

theorem Step.change {label : Label} (stepped : Step storage label after) :
    RegistryChange storage after := by
  cases stepped with
  | elsewhere => exact .kept rfl rfl rfl
  | @call env _ _ call done =>
      cases call with
      | registerBondHolder identity => exact registerBondHolder_change done
      | deregisterBondHolder identity =>
          obtain rfl := Outcome.pure_eq_ok.mp done
          exact deregisterBondHolder_change
      | advanceKeeperCursor keeper nextCursor =>
          obtain ⟨-, rfl⟩ := advanceKeeperCursor_eq_ok.mp done
          exact .kept rfl rfl rfl
      | scanLiquidationCandidates keeper cursor maxIter minSlashRatioBps =>
          obtain ⟨⟨reached, result⟩, done, rfl⟩ := Outcome.map_eq_ok.mp done
          obtain ⟨-, -, -, rfl⟩ := scanLiquidationCandidates_eq_ok.mp done
          exact .kept rfl rfl rfl

variable {trace : List (Event Storage Label)} {start final : Storage}

theorem Registered.deployed : Registered .deployed where
  nodup := List.nodup_nil
  fits := by decide
  size := rfl

theorem Registered.run (registered : Registered start) (run : Run Step start trace final) :
    Registered final :=
  run.invariant Registered registered fun _ before stepped => before.change stepped.change

/-- Slots are only ever added, at the end. -/
theorem RegistryChange.grows (change : RegistryChange storage after) :
    storage.bondHolderRegistry <+: after.bondHolderRegistry := by
  cases change with
  | entered absent fits stored =>
      rw [stored]
      exact List.prefix_append _ _
  | activated present inactive stored => rw [stored]
  | deactivated present active stored => rw [stored]
  | kept registry active size => rw [registry]

theorem grows_of_run (run : Run Step start trace final) :
    start.bondHolderRegistry <+: final.bondHolderRegistry := by
  refine run.invariant (fun state => start.bondHolderRegistry <+: state.bondHolderRegistry)
    (List.prefix_refl _) ?_
  exact fun _ before stepped => before.trans stepped.change.grows

end Steps

end LiquidationScanner
