import CredenceContracts.Scanner.Spec

/-!
# What a stored cursor stands for

The cursor of a keeper is meant to say how far its scans have come: it is what the last
of them returned, and every slot before it was inspected since the cursor was last at the
start.  The entries alone do not tell, so both are read off the history.
-/

namespace LiquidationScanner

open Soroban MachineInt Transition

/-- A step and the entries around it. -/
abbrev CursorEvent :=
  Event Storage Label

section History

variable (keeper : Address)

/-- The next cursor that the step returns, if it is a scan of the keeper. -/
def returned (event : CursorEvent) : Option Nat :=
  match event.label.act with
  | .call (.scanLiquidationCandidates scanner cursor maxIter _) =>
      if scanner = keeper then some (nextCursor event.before cursor maxIter) else none
  | _ => none

/-- The next cursor that the most recent scan of the keeper returned. -/
def lastReturned (trace : List CursorEvent) : Option Nat :=
  (trace.filterMap (returned keeper)).getLast?

/-- The step is a scan of the keeper that goes through the slot. -/
def ScansSlot (slot : Nat) (event : CursorEvent) : Prop :=
  ∃ cursor maxIter minSlashRatioBps,
    event.label.act =
      .call (.scanLiquidationCandidates keeper cursor maxIter minSlashRatioBps) ∧
    slot ∈ pageSlots event.before cursor maxIter

/-- The keeper's cursor is at the start after the step. -/
def Resets (event : CursorEvent) : Prop :=
  event.after.keeperCursor keeper = 0

/-- A scan of the keeper went through the slot since its cursor was last at the start. -/
def CoveredSince (slot : Nat) (trace : List CursorEvent) : Prop :=
  Since (fun event => ScansSlot keeper slot event ∧ ¬Resets keeper event) (Resets keeper) trace

/-- The stored cursor stands for the keeper's progress. -/
structure Faithful (trace : List CursorEvent) (storage : Storage) : Prop where
  fromScan : storage.keeperCursor keeper = 0 ∨
    lastReturned keeper trace = some (storage.keeperCursor keeper)
  covered : ∀ slot < storage.keeperCursor keeper, CoveredSince keeper slot trace

/-- The keeper advances its cursor to the start only, and its scans skip no slot: where
one does not come to the end of the registry, the slots before it were covered. -/
def SkipsNothing (earlier : List CursorEvent) (event : CursorEvent) : Prop :=
  match event.label.act with
  | .call (.advanceKeeperCursor advancer next) => advancer = keeper → next = 0
  | .call (.scanLiquidationCandidates scanner cursor maxIter _) =>
      scanner = keeper → pageDone event.before cursor maxIter = false →
        ∀ slot < cursor, slot < pageEnd event.before cursor maxIter →
          CoveredSince keeper slot earlier
  | _ => True

end History

section Steps

variable {keeper : Address} {trace : List CursorEvent} {event : CursorEvent}
variable {slot : Nat}

/-- A cursor under which a slot was covered is past the start. -/
def Progressed (keeper : Address) (trace : List CursorEvent) (storage : Storage) : Prop :=
  ∀ slot, CoveredSince keeper slot trace → storage.keeperCursor keeper ≠ 0

theorem coveredSince_snoc :
    CoveredSince keeper slot (trace ++ [event]) ↔
      event.after.keeperCursor keeper ≠ 0 ∧
        (ScansSlot keeper slot event ∨ CoveredSince keeper slot trace) := by
  unfold CoveredSince
  rw [since_snoc]
  unfold Resets
  tauto

theorem Progressed.snoc : Progressed keeper (trace ++ [event]) event.after := by
  intro slot covered
  exact (coveredSince_snoc.mp covered).1

theorem lastReturned_snoc_of_none (quiet : returned keeper event = none) :
    lastReturned keeper (trace ++ [event]) = lastReturned keeper trace := by
  simp [lastReturned, List.filterMap_append, quiet]

theorem lastReturned_snoc_of_some {next : Nat} (scanned : returned keeper event = some next) :
    lastReturned keeper (trace ++ [event]) = some next := by
  simp [lastReturned, List.filterMap_append, scanned]

/-- A step that is not of the keeper keeps what its cursor stands for. -/
theorem Faithful.elsewhere (faithful : Faithful keeper trace event.before)
    (quiet : returned keeper event = none)
    (kept : event.after.keeperCursor keeper = event.before.keeperCursor keeper) :
    Faithful keeper (trace ++ [event]) event.after where
  fromScan := by
    rw [kept, lastReturned_snoc_of_none quiet]
    exact faithful.fromScan
  covered slot below := by
    rw [kept] at below
    exact coveredSince_snoc.mpr ⟨by omega, .inr (faithful.covered slot below)⟩

/-- An advance keeps what the cursor stands for if and only if it is to the start. -/
theorem faithful_advance_iff {next : Nat} (progressed : Progressed keeper trace event.before)
    (faithful : Faithful keeper trace event.before)
    (called : event.label.act = .call (.advanceKeeperCursor keeper next))
    (forward : next = 0 ∨ next > event.before.keeperCursor keeper)
    (stored : event.after.keeperCursor keeper = next) :
    Faithful keeper (trace ++ [event]) event.after ↔ next = 0 := by
  have quiet : returned keeper event = none := by simp [returned, called]
  constructor
  · intro kept
    by_contra further
    -- the first slot was covered before, so that the cursor is the one last returned
    have first := kept.covered 0 (by omega)
    have earlier : CoveredSince keeper 0 trace := by
      refine (coveredSince_snoc.mp first).2.resolve_left ?_
      rintro ⟨cursor, maxIter, minSlashRatioBps, scanned, -⟩
      simp [called] at scanned
    have returnedBefore := faithful.fromScan.resolve_left (progressed 0 earlier)
    have returnedNow := kept.fromScan.resolve_left (by omega)
    rw [lastReturned_snoc_of_none quiet, returnedBefore, stored] at returnedNow
    have same := Option.some.inj returnedNow
    omega
  · rintro rfl
    exact ⟨.inl stored, fun slot below => by omega⟩

/-- A scan keeps what the cursor stands for if and only if it skips no slot. -/
theorem faithful_scan_iff {cursor maxIter minSlashRatioBps : Nat}
    (called : event.label.act =
      .call (.scanLiquidationCandidates keeper cursor maxIter minSlashRatioBps))
    (stored : event.after.keeperCursor keeper = nextCursor event.before cursor maxIter) :
    Faithful keeper (trace ++ [event]) event.after ↔
      (pageDone event.before cursor maxIter = false →
        ∀ slot < cursor, slot < pageEnd event.before cursor maxIter →
          CoveredSince keeper slot trace) := by
  have scans : ∀ slot, ScansSlot keeper slot event ↔
      cursor ≤ slot ∧ slot < pageEnd event.before cursor maxIter := by
    intro slot
    simp [ScansSlot, called, mem_pageSlots]
  have answered : returned keeper event = some (nextCursor event.before cursor maxIter) := by
    simp [returned, called]
  cases finished : pageDone event.before cursor maxIter with
  | true =>
      have start : event.after.keeperCursor keeper = 0 := by simp [stored, nextCursor, finished]
      refine iff_of_true ⟨.inl start, fun slot below => by omega⟩ ?_
      simp
  | false =>
      have ends : event.after.keeperCursor keeper = pageEnd event.before cursor maxIter := by
        simp [stored, nextCursor, finished]
      constructor
      · rintro kept - slot before below
        have covered := coveredSince_snoc.mp (kept.covered slot (by omega))
        refine covered.2.resolve_left fun scanned => ?_
        have inside := (scans slot).mp scanned
        omega
      · intro skipsNothing
        refine ⟨.inr ?_, fun slot below => ?_⟩
        · rw [lastReturned_snoc_of_some answered, stored]
        · refine coveredSince_snoc.mpr ⟨by omega, ?_⟩
          by_cases before : slot < cursor
          · exact .inr (skipsNothing rfl slot before (by omega))
          · exact .inl ((scans slot).mpr ⟨by omega, by omega⟩)

theorem faithful_snoc_iff (progressed : Progressed keeper trace event.before)
    (faithful : Faithful keeper trace event.before)
    (stepped : Step event.before event.label event.after) :
    Faithful keeper (trace ++ [event]) event.after ↔ SkipsNothing keeper trace event := by
  obtain ⟨before, ⟨env, act⟩, after⟩ := event
  change Step before ⟨env, act⟩ after at stepped
  cases stepped with
  | elsewhere => exact iff_of_true (faithful.elsewhere rfl rfl) trivial
  | @call _ _ _ call done =>
      cases call with
      | registerBondHolder identity =>
          have kept := congrFun (registerBondHolder_keeperCursor done) keeper
          exact iff_of_true (faithful.elsewhere rfl kept) trivial
      | deregisterBondHolder identity =>
          obtain rfl := Outcome.pure_eq_ok.mp done
          have kept : (deregisterBondHolder before identity).keeperCursor keeper =
              before.keeperCursor keeper := congrFun deregisterBondHolder_keeperCursor keeper
          exact iff_of_true (faithful.elsewhere rfl kept) trivial
      | advanceKeeperCursor advancer next =>
          obtain ⟨forward, rfl⟩ := advanceKeeperCursor_eq_ok.mp done
          by_cases own : advancer = keeper
          · subst own
            refine (faithful_advance_iff progressed faithful rfl
              (forward.imp_right And.left) (Function.update_self _ _ _)).trans ?_
            simp [SkipsNothing]
          · have kept := faithful.elsewhere rfl (Function.update_of_ne (Ne.symm own) _ _)
            exact iff_of_true kept fun same => absurd same own
      | scanLiquidationCandidates scanner cursor maxIter minSlashRatioBps =>
          obtain ⟨⟨reached, result⟩, done, rfl⟩ := Outcome.map_eq_ok.mp done
          obtain ⟨-, -, -, rfl⟩ := scanLiquidationCandidates_eq_ok.mp done
          by_cases own : scanner = keeper
          · subst own
            refine (faithful_scan_iff rfl (Function.update_self _ _ _)).trans ?_
            simp [SkipsNothing]
          · have kept := faithful.elsewhere (if_neg own)
              (Function.update_of_ne (Ne.symm own) _ _)
            exact iff_of_true kept fun same => absurd same own

end Steps

section Claim

variable {trace : List CursorEvent} {final : Storage}

/-- In every run the cursor of a keeper stands for its progress after every step if and
only if the keeper advances it to the start only and its scans skip no slot. -/
theorem keeper_cursor_faithful_iff (run : Run Step .deployed trace final) (keeper : Address) :
    (∀ earlier event later, trace = earlier ++ event :: later →
      Faithful keeper (earlier ++ [event]) event.after) ↔
      ∀ earlier event later, trace = earlier ++ event :: later →
        SkipsNothing keeper earlier event := by
  apply run.forall_history_iff_at (Faithful keeper) (Progressed keeper) (SkipsNothing keeper)
  · exact ⟨.inl rfl, fun slot below => absurd below (Nat.not_lt_zero slot)⟩
  · intro slot covered
    exact absurd covered not_since_nil
  · intro trace event progressed faithful stepped
    exact Progressed.snoc
  · intro trace event progressed faithful stepped
    exact faithful_snoc_iff progressed faithful stepped

end Claim

section Sample

def cursorEnv : Env :=
  .signedByAll ⟨0⟩ 10

/-- Three holders enter, and a keeper advances its cursor past two that it never met. -/
def advancedUnscanned : List Label :=
  [ ⟨cursorEnv, .call (.registerBondHolder ⟨2⟩)⟩,
    ⟨cursorEnv, .call (.registerBondHolder ⟨3⟩)⟩,
    ⟨cursorEnv, .call (.registerBondHolder ⟨4⟩)⟩,
    ⟨cursorEnv, .call (.advanceKeeperCursor ⟨9⟩ 2)⟩ ]

theorem advance_skips_slots :
    ¬∀ (trace : List CursorEvent) (final : Storage), Run Step .deployed trace final →
      ∀ keeper earlier event later, trace = earlier ++ event :: later →
        Faithful keeper (earlier ++ [event]) event.after := by
  intro every
  have run : Run Step .deployed (record next .deployed advancedUnscanned)
      (advancedUnscanned.foldl (advance next) .deployed) :=
    run_of_record step_of_next rfl
  have faithful := every _ _ run ⟨9⟩ ((record next .deployed advancedUnscanned).take 3)
    ((record next .deployed advancedUnscanned).get ⟨3, by decide⟩) [] rfl
  have moved : ((record next .deployed advancedUnscanned).get ⟨3, by decide⟩).after.keeperCursor
      ⟨9⟩ = 2 := rfl
  have fromScan := faithful.fromScan
  rw [moved] at fromScan
  exact absurd fromScan (by decide +kernel)

/-- Two pages from where the last one ended, and a reset. -/
def scannedInOrder : List Label :=
  [ ⟨cursorEnv, .call (.registerBondHolder ⟨2⟩)⟩,
    ⟨cursorEnv, .call (.registerBondHolder ⟨3⟩)⟩,
    ⟨cursorEnv, .call (.registerBondHolder ⟨4⟩)⟩,
    ⟨cursorEnv, .call (.scanLiquidationCandidates ⟨9⟩ 0 1 5000)⟩,
    ⟨cursorEnv, .call (.scanLiquidationCandidates ⟨9⟩ 1 1 5000)⟩,
    ⟨cursorEnv, .call (.advanceKeeperCursor ⟨9⟩ 0)⟩ ]

theorem cursor_follows_scans :
    ∃ trace final, Run Step .deployed trace final ∧
      (∃ event ∈ trace, event.after.keeperCursor ⟨9⟩ = 2) ∧
        ∀ earlier event later, trace = earlier ++ event :: later →
          Faithful ⟨9⟩ (earlier ++ [event]) event.after := by
  have run : Run Step .deployed (record next .deployed scannedInOrder)
      (scannedInOrder.foldl (advance next) .deployed) :=
    run_of_record step_of_next rfl
  refine ⟨_, _, run, ⟨(record next .deployed scannedInOrder).get ⟨4, by decide⟩,
    List.get_mem _ _, rfl⟩, (keeper_cursor_faithful_iff run ⟨9⟩).mpr ?_⟩
  intro earlier event later position
  change ([] ++ [_] ++ [_] ++ [_] ++ [_] ++ [_]) ++ [_] = _ at position
  revert earlier event later
  simp only [forall_position_snoc]
  refine ⟨⟨⟨⟨⟨⟨by simp, trivial⟩, trivial⟩, trivial⟩, ?_⟩, ?_⟩, fun _ => rfl⟩
  · rintro - - slot before
    omega
  · rintro - - slot before -
    obtain rfl : slot = 0 := by omega
    exact coveredSince_snoc.mpr ⟨by decide +kernel, .inl ⟨0, 1, 5000, rfl, by decide +kernel⟩⟩

end Sample

end LiquidationScanner
