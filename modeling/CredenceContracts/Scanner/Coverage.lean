import CredenceContracts.Scanner.Spec

/-!
# Coverage of a pass over the registry

A keeper's pass feeds the cursor of each page back until a page says that it was the
last, and anything may happen to the registry between two pages.  It goes through every
slot once, unless the end of a page does not fit a word and wraps to an earlier slot.
-/

namespace LiquidationScanner

open Soroban MachineInt Transition

/-- One page of a pass and the entries it was read from. -/
structure Page where
  before : Storage
  env : Env
  cursor : Nat
  maxIter : Nat
  minSlashRatioBps : Nat
  result : ScanResult

namespace Page

variable (page : Page)

/-- The slots that the page goes through. -/
def inspected : List Nat :=
  pageSlots page.before page.cursor page.maxIter

/-- The cursor that the keeper feeds back, unless the page was the last. -/
def next : Option Nat :=
  if page.result.done then none else some page.result.nextCursor

/-- The end of the page fits a word. -/
def Unwrapped : Prop :=
  page.cursor + effectiveMax page.maxIter < 2 ^ 32

end Page

/-- The keeper's loop over some pages, with anything between them, up to the cursor that
it goes on with; none once it is done. -/
inductive Pass (keeper : Address) (start : Storage) :
    List Page → Storage → Option Nat → Prop where
  | begin : Pass keeper start [] start (some 0)
  | page {pages : List Page} {now after : Storage} {trace : List (Event Storage Label)}
      {page : Page} :
      Pass keeper start pages now (some page.cursor) → Run Step now trace page.before →
      scanLiquidationCandidates page.before page.env keeper page.cursor page.maxIter
        page.minSlashRatioBps = .ok (after, page.result) →
      Pass keeper start (pages ++ [page]) after page.next

/-- The slots of the registry. -/
def slots (storage : Storage) : Nat :=
  storage.bondHolderRegistry.length

section Page

variable {storage : Storage} {cursor maxIter : Nat}

theorem effectiveMax_pos (maxIter : Nat) : 0 < effectiveMax maxIter := by
  unfold effectiveMax defaultMaxIter maxIterHardCap
  split <;> omega

theorem effectiveMax_le (maxIter : Nat) : effectiveMax maxIter ≤ 200 := by
  unfold effectiveMax defaultMaxIter maxIterHardCap
  split <;> omega

theorem pageEnd_of_fits (fits : cursor + effectiveMax maxIter < 2 ^ 32) :
    pageEnd storage cursor maxIter = min (cursor + effectiveMax maxIter) (slots storage) := by
  rw [pageEnd, wrappingU32, Nat.mod_eq_of_lt fits, slots]

/-- The end of a page lies before the page if and only if it wraps. -/
theorem pageEnd_lt_iff (registered : Registered storage)
    (inside : cursor = 0 ∨ cursor < slots storage) :
    pageEnd storage cursor maxIter < cursor ↔ 2 ^ 32 ≤ cursor + effectiveMax maxIter := by
  have fits := registered.fits
  have few := effectiveMax_le maxIter
  unfold slots at inside
  unfold pageEnd wrappingU32
  omega

theorem nextCursor_of_not_done (unfinished : pageDone storage cursor maxIter = false) :
    nextCursor storage cursor maxIter = pageEnd storage cursor maxIter := by
  rw [nextCursor, unfinished]
  simp

theorem pageEnd_lt_of_not_done (unfinished : pageDone storage cursor maxIter = false) :
    pageEnd storage cursor maxIter < slots storage := by
  simpa [pageDone, slots] using unfinished

/-- The slots before a page and the slots of the page are those before its end. -/
theorem range_append_pageSlots (forward : cursor ≤ pageEnd storage cursor maxIter) :
    List.range cursor ++ pageSlots storage cursor maxIter =
      List.range (pageEnd storage cursor maxIter) := by
  have glued := List.range'_append_1 (s := 0) (m := cursor)
    (n := pageEnd storage cursor maxIter - cursor)
  rw [Nat.zero_add, Nat.add_sub_cancel' forward] at glued
  rw [pageSlots, List.range_eq_range', List.range_eq_range', glued]

end Page

section Pass

variable {keeper : Address} {start now after : Storage} {pages : List Page} {page : Page}
variable {next : Option Nat}

theorem Page.step
    (scanned : scanLiquidationCandidates page.before page.env keeper page.cursor page.maxIter
      page.minSlashRatioBps = .ok (after, page.result)) :
    Step page.before ⟨page.env, .call (.scanLiquidationCandidates keeper page.cursor
      page.maxIter page.minSlashRatioBps)⟩ after :=
  .call (Outcome.map_eq_ok.mpr ⟨_, scanned, rfl⟩)

/-- A page was the last, at the end of the registry, or the keeper goes on inside it. -/
theorem Page.next_of_scanned
    (scanned : scanLiquidationCandidates page.before page.env keeper page.cursor page.maxIter
      page.minSlashRatioBps = .ok (after, page.result)) :
    slots after = slots page.before ∧
      (page.next = none ∧ pageEnd page.before page.cursor page.maxIter = slots after ∨
        page.next = some (pageEnd page.before page.cursor page.maxIter) ∧
          pageEnd page.before page.cursor page.maxIter < slots after) := by
  obtain ⟨-, -, result, rfl⟩ := scanLiquidationCandidates_eq_ok.mp scanned
  refine ⟨rfl, ?_⟩
  cases finished : pageDone page.before page.cursor page.maxIter with
  | true =>
      left
      refine ⟨?_, pageDone_eq_true.mp finished⟩
      simp [Page.next, result, pageResult, finished]
  | false =>
      right
      refine ⟨?_, pageEnd_lt_of_not_done finished⟩
      simp [Page.next, result, pageResult, finished, nextCursor_of_not_done finished]

theorem Pass.grows (pass : Pass keeper start pages now next) :
    start.bondHolderRegistry <+: now.bondHolderRegistry := by
  induction pass with
  | begin => exact List.prefix_refl _
  | page _ run scanned ih =>
      exact (ih.trans (grows_of_run run)).trans (Page.step scanned).change.grows

theorem Pass.registered (pass : Pass keeper start pages now next)
    (registered : Registered start) : Registered now := by
  induction pass with
  | begin => exact registered
  | page _ run scanned ih => exact (ih.run run).change (Page.step scanned).change

/-- A pass that is not done goes on inside the registry, or at its start. -/
theorem Pass.inside (pass : Pass keeper start pages now next) :
    ∀ cursor, next = some cursor → cursor = 0 ∨ cursor < slots now := by
  cases pass with
  | begin =>
      rintro cursor ⟨⟩
      exact .inl rfl
  | page _ run scanned =>
      intro cursor goes
      obtain ⟨-, ⟨done, -⟩ | ⟨continues, inside⟩⟩ := Page.next_of_scanned scanned
      · rw [done] at goes
        contradiction
      · obtain rfl : _ = cursor := Option.some.inj (continues.symm.trans goes)
        exact .inr inside

theorem slots_le_of_run {trace : List (Event Storage Label)} (run : Run Step start trace now) :
    slots start ≤ slots now :=
  (grows_of_run run).length_le

theorem Pass.inside_of_run {before : Storage} {cursor : Nat}
    {trace : List (Event Storage Label)} (pass : Pass keeper start pages now (some cursor))
    (run : Run Step now trace before) : cursor = 0 ∨ cursor < slots before :=
  (pass.inside cursor rfl).imp_right fun inside => inside.trans_le (slots_le_of_run run)

/-- The next scan of a keeper that goes on is accepted, whatever happened meanwhile. -/
theorem Pass.accepts {before : Storage} {env : Env} {cursor maxIter minSlashRatioBps : Nat}
    {trace : List (Event Storage Label)} (pass : Pass keeper start pages now (some cursor))
    (run : Run Step now trace before) (authorized : env.authorized keeper = true) :
    ∃ after result, scanLiquidationCandidates before env keeper cursor maxIter
      minSlashRatioBps = .ok (after, result) := by
  refine ⟨_, _, scanLiquidationCandidates_eq_ok.mpr ⟨authorized, fun some => ?_, rfl, rfl⟩⟩
  rcases pass.inside_of_run run with rfl | inside
  · exact List.length_pos_iff.mpr some
  · exact inside

/-- The slots that the pages went through, in order. -/
def inspected (pages : List Page) : List Nat :=
  pages.flatMap Page.inspected

/-- The page goes back over a slot. -/
def Page.Rewinds (page : Page) (slot : Nat) : Prop :=
  pageEnd page.before page.cursor page.maxIter ≤ slot ∧ slot < page.cursor

instance (page : Page) (slot : Nat) : Decidable (page.Rewinds slot) :=
  inferInstanceAs (Decidable (_ ∧ _))

/-- A page takes the slots before it to those before its end, and goes back over the
others. -/
theorem Page.count_inspected (slot : Nat) :
    (if slot < page.cursor then 1 else 0) + page.inspected.count slot =
      (if slot < pageEnd page.before page.cursor page.maxIter then 1 else 0) +
        if page.Rewinds slot then 1 else 0 := by
  have once : page.inspected.count slot =
      if page.cursor ≤ slot ∧ slot < pageEnd page.before page.cursor page.maxIter then 1
      else 0 := by
    have nodup : page.inspected.Nodup := List.nodup_range'
    rw [nodup.count]
    simp only [Page.inspected, mem_pageSlots]
  have steps : ∀ first last : Nat, (if slot < first then 1 else 0) +
      (if first ≤ slot ∧ slot < last then 1 else 0) =
        (if slot < last then 1 else 0) + if last ≤ slot ∧ slot < first then 1 else 0 := by
    intro first last
    split_ifs <;> omega
  rw [once]
  exact steps page.cursor (pageEnd page.before page.cursor page.maxIter)

theorem inspected_snoc : inspected (pages ++ [page]) = inspected pages ++ page.inspected := by
  simp [inspected]

/-- A slot was inspected once if it lies before the cursor to go on with, and once more
for every page that went back over it. -/
theorem Pass.count_inspected (pass : Pass keeper start pages now next) (slot : Nat) :
    (inspected pages).count slot =
      (if slot < next.getD (slots now) then 1 else 0) + pages.countP (·.Rewinds slot) := by
  induction pass with
  | begin => simp [inspected]
  | @page pages now after trace page pass run scanned ih =>
      have here := page.count_inspected slot
      have goes : page.next.getD (slots after) =
          pageEnd page.before page.cursor page.maxIter := by
        obtain ⟨-, ⟨done, last⟩ | ⟨continues, -⟩⟩ := Page.next_of_scanned scanned
        · rw [done, Option.getD_none, last]
        · rw [continues, Option.getD_some]
      rw [Option.getD_some] at ih
      rw [inspected_snoc, List.count_append, List.countP_append, List.countP_singleton, ih, goes]
      simp only [decide_eq_true_eq]
      omega

theorem Pass.count_eq_iff (pass : Pass keeper start pages now next) (slot : Nat) :
    (inspected pages).count slot = (if slot < next.getD (slots now) then 1 else 0) ↔
      ∀ page ∈ pages, ¬page.Rewinds slot := by
  rw [pass.count_inspected slot, Nat.add_eq_left, List.countP_eq_zero]
  simp only [decide_eq_true_eq]

/-- The page was read at a cursor of the registry, or at the start of an empty one. -/
structure Page.Sound (page : Page) : Prop where
  registered : Registered page.before
  inside : page.cursor = 0 ∨ page.cursor < slots page.before
  result : page.result =
    pageResult page.before page.cursor page.maxIter page.minSlashRatioBps

theorem Page.Sound.back_iff (sound : page.Sound) :
    pageEnd page.before page.cursor page.maxIter < page.cursor ↔
      2 ^ 32 ≤ page.cursor + effectiveMax page.maxIter :=
  pageEnd_lt_iff sound.registered sound.inside

/-- The page goes back over no slot below a limit if and only if it does not wrap, or
wraps to the limit or beyond. -/
theorem Page.Sound.forall_not_rewinds_iff (sound : page.Sound) (limit : Nat) :
    (∀ slot < limit, ¬page.Rewinds slot) ↔
      page.Unwrapped ∨ limit ≤ pageEnd page.before page.cursor page.maxIter := by
  unfold Page.Unwrapped Page.Rewinds
  constructor
  · intro kept
    by_contra! wrapped
    exact kept _ wrapped.2 ⟨le_rfl, sound.back_iff.mpr wrapped.1⟩
  · rintro kept slot below ⟨late, early⟩
    have wraps := sound.back_iff.mp (late.trans_lt early)
    omega

theorem Page.Sound.never_rewinds_iff (sound : page.Sound) :
    (∀ slot, ¬page.Rewinds slot) ↔ page.Unwrapped := by
  have before : (∀ slot, ¬page.Rewinds slot) ↔ ∀ slot < page.cursor, ¬page.Rewinds slot :=
    ⟨fun kept slot _ => kept slot, fun kept slot rewinds => kept slot rewinds.2 rewinds⟩
  rw [before, sound.forall_not_rewinds_iff, or_iff_left_iff_imp]
  intro forward
  exact not_le.mp (mt sound.back_iff.mpr (not_lt.mpr forward))

theorem Pass.sound (pass : Pass keeper start pages now next) (registered : Registered start) :
    ∀ page ∈ pages, page.Sound := by
  induction pass with
  | begin => simp
  | @page pages now after trace page pass run scanned ih =>
      obtain ⟨-, -, result, -⟩ := scanLiquidationCandidates_eq_ok.mp scanned
      have last : page.Sound :=
        ⟨(pass.registered registered).run run, pass.inside_of_run run, result⟩
      simpa [or_imp, forall_and] using ⟨ih, last⟩

/-- Every slot before the cursor to go on with was inspected once, and no other, if and only
if no page wraps. -/
theorem Pass.counts_iff (pass : Pass keeper start pages now next)
    (registered : Registered start) :
    (∀ slot, (inspected pages).count slot = if slot < next.getD (slots now) then 1 else 0) ↔
      ∀ page ∈ pages, page.Unwrapped := by
  have sound := pass.sound registered
  rw [forall_congr' pass.count_eq_iff]
  constructor
  · intro kept page member
    exact (sound page member).never_rewinds_iff.mp fun slot => kept slot page member
  · intro fits slot page member
    exact (sound page member).never_rewinds_iff.mpr (fits page member) slot

/-- A finished pass inspected every slot of its start once if and only if no page wraps to
one of these. -/
theorem Pass.once_iff (pass : Pass keeper start pages now none)
    (registered : Registered start) :
    (∀ slot < slots start, (inspected pages).count slot = 1) ↔
      ∀ page ∈ pages, page.Unwrapped ∨
        slots start ≤ pageEnd page.before page.cursor page.maxIter := by
  have sound := pass.sound registered
  have exact : (∀ slot < slots start, (inspected pages).count slot = 1) ↔
      ∀ slot < slots start, ∀ page ∈ pages, ¬page.Rewinds slot := by
    refine forall₂_congr fun slot inside => ?_
    have below : slot < slots now := inside.trans_le pass.grows.length_le
    rw [← pass.count_eq_iff slot, Option.getD_none, if_pos below]
  rw [exact]
  constructor
  · intro kept page member
    exact ((sound page member).forall_not_rewinds_iff _).mp fun slot inside =>
      kept slot inside page member
  · intro fits slot inside page member
    exact ((sound page member).forall_not_rewinds_iff _).mpr (fits page member) slot inside

/-- While no page wraps, the slots before the cursor were inspected in order, and every
page inspected one at least. -/
theorem Pass.orderly (pass : Pass keeper start pages now next)
    (unwrapped : ∀ page ∈ pages, page.Unwrapped) :
    inspected pages = List.range (next.getD (slots now)) ∧
      pages.length ≤ next.getD (slots now + 1) := by
  induction pass with
  | begin => exact ⟨rfl, le_rfl⟩
  | @page pages now after trace page pass run scanned ih =>
      obtain ⟨order, few⟩ := ih fun other member => unwrapped other (List.mem_append_left _ member)
      have fits : page.Unwrapped := unwrapped page (by simp)
      have ends : pageEnd page.before page.cursor page.maxIter =
          min (page.cursor + effectiveMax page.maxIter) (slots page.before) :=
        pageEnd_of_fits fits
      have some := effectiveMax_pos page.maxIter
      have inside := pass.inside_of_run run
      have forward : page.cursor ≤ pageEnd page.before page.cursor page.maxIter := by omega
      have reached : inspected (pages ++ [page]) =
          List.range (pageEnd page.before page.cursor page.maxIter) := by
        rw [inspected_snoc, order]
        exact range_append_pageSlots forward
      rw [reached, List.length_append, List.length_singleton]
      rw [Option.getD_some] at few
      obtain ⟨kept, ⟨done, last⟩ | ⟨continues, further⟩⟩ := Page.next_of_scanned scanned
      · rw [done, Option.getD_none, Option.getD_none, last]
        exact ⟨rfl, by omega⟩
      · rw [continues, Option.getD_some, Option.getD_some]
        exact ⟨rfl, by omega⟩

/-- A pass in which no page wraps has one page more than slots at most. -/
theorem Pass.length_le (pass : Pass keeper start pages now next)
    (unwrapped : ∀ page ∈ pages, page.Unwrapped) : pages.length ≤ slots now + 1 := by
  obtain ⟨-, few⟩ := pass.orderly unwrapped
  cases next with
  | none => exact few
  | some cursor =>
      have within := pass.inside cursor rfl
      rw [Option.getD_some] at few
      omega

/-- The holders in the slots that the page goes through. -/
def Page.holders (page : Page) : List Address :=
  holdersAt page.before page.inspected

theorem holdersAt_of_grows {list : List Nat}
    (grown : now.bondHolderRegistry <+: after.bondHolderRegistry)
    (inside : ∀ slot ∈ list, slot < slots now) : holdersAt after list = holdersAt now list := by
  obtain ⟨entered, longer⟩ := grown
  refine List.filterMap_congr fun slot member => ?_
  rw [← longer, List.getElem?_append_left (inside slot member)]

theorem holdersAt_append {storage : Storage} {first second : List Nat} :
    holdersAt storage (first ++ second) = holdersAt storage first ++ holdersAt storage second :=
  List.filterMap_append

theorem holdersAt_singleton {storage : Storage} {slot : Nat} :
    holdersAt storage [slot] = storage.bondHolderRegistry[slot]?.toList := by
  cases found : storage.bondHolderRegistry[slot]? <;> simp [holdersAt, found]

theorem holdersAt_range {storage : Storage} (count : Nat) :
    holdersAt storage (List.range count) = storage.bondHolderRegistry.take count := by
  induction count with
  | zero => rfl
  | succ count ih =>
      rw [List.range_succ, holdersAt_append, ih, holdersAt_singleton, List.take_add_one]

/-- The holders met are those that the registry has in the slots inspected. -/
theorem Pass.holders_eq (pass : Pass keeper start pages now next) :
    (∀ slot ∈ inspected pages, slot < slots now) ∧
      pages.flatMap Page.holders = holdersAt now (inspected pages) := by
  induction pass with
  | begin => exact ⟨by simp [inspected], rfl⟩
  | @page pages now after trace page pass run scanned ih =>
      obtain ⟨inside, holders⟩ := ih
      have grown : now.bondHolderRegistry <+: after.bondHolderRegistry :=
        (grows_of_run run).trans (Page.step scanned).change.grows
      have within : ∀ slot ∈ page.inspected, slot < slots page.before := fun slot member =>
        (mem_pageSlots.mp member).2.trans_le pageEnd_le
      rw [inspected_snoc]
      constructor
      · intro slot member
        rcases List.mem_append.mp member with earlier | last
        · exact (inside slot earlier).trans_le grown.length_le
        · exact (within slot last).trans_le (Page.step scanned).change.grows.length_le
      · have before := holdersAt_of_grows grown inside
        have last := holdersAt_of_grows (Page.step scanned).change.grows within
        rw [List.flatMap_append, List.flatMap_singleton, holders, holdersAt_append, before,
          last, Page.holders]

theorem Pass.holders_eq_registry (pass : Pass keeper start pages now none)
    (unwrapped : ∀ page ∈ pages, page.Unwrapped) :
    pages.flatMap Page.holders = now.bondHolderRegistry := by
  rw [pass.holders_eq.2, (pass.orderly unwrapped).1, holdersAt_range, Option.getD_none, slots,
    List.take_length]

/-- A registry with room for one more page wraps no page. -/
theorem Pass.unwrapped_of_room (pass : Pass keeper start pages now next)
    (room : slots now + maxIterHardCap ≤ 2 ^ 32) : ∀ page ∈ pages, page.Unwrapped := by
  induction pass with
  | begin => simp
  | @page pages now after trace page pass run scanned ih =>
      have kept := (Page.next_of_scanned scanned).1
      have grown := slots_le_of_run run
      have few := effectiveMax_le page.maxIter
      have inside := pass.inside page.cursor rfl
      unfold maxIterHardCap at room ih
      have last : page.Unwrapped := by
        unfold Page.Unwrapped
        omega
      simpa [or_imp, forall_and] using ⟨ih (by omega), last⟩

/-- The amounts of the page's bonds are within the maximum. -/
def Page.Bounded (page : Page) : Prop :=
  ∀ identity ∈ page.holders, ∀ bond, page.before.bond identity = some bond → WithinMax bond

end Pass

section Claim

variable {keeper : Address} {start now : Storage} {pages : List Page} {next : Option Nat}
variable {trace : List (Event Storage Label)}

/-- A pass over the registry, from any state that a run reaches and with anything between
its pages, inspects every slot once if and only if no page wraps; then it ends, with every
holder of the registry met.  Its scans never fail, and return the liquidatable holders. -/
theorem pass_covers_registry (run : Run Step .deployed trace start)
    (pass : Pass keeper start pages now next) :
    (start.bondHolderRegistry.Nodup ∧
        start.registrySize = start.bondHolderRegistry.countP (isActive start)) ∧
      ((∀ slot, (inspected pages).count slot = if slot < next.getD (slots now) then 1 else 0) ↔
        ∀ page ∈ pages, page.Unwrapped) ∧
      (next = none →
        ((∀ slot < slots start, (inspected pages).count slot = 1) ↔
          ∀ page ∈ pages, page.Unwrapped ∨
            slots start ≤ pageEnd page.before page.cursor page.maxIter)) ∧
      ((∀ page ∈ pages, page.Unwrapped) →
        pages.length ≤ slots now + 1 ∧
          (next = none → pages.flatMap Page.holders = now.bondHolderRegistry)) ∧
      (slots now + maxIterHardCap ≤ 2 ^ 32 → ∀ page ∈ pages, page.Unwrapped) ∧
      (∀ cursor later before env maxIter minSlashRatioBps, next = some cursor →
        Run Step now later before → env.authorized keeper = true →
          ∃ after result, scanLiquidationCandidates before env keeper cursor maxIter
            minSlashRatioBps = .ok (after, result)) ∧
      ∀ page ∈ pages, page.Bounded →
        page.result.candidates.map LiquidationCandidate.identity =
          page.holders.filter (liquidatable page.before page.minSlashRatioBps) := by
  have registered : Registered start := Registered.deployed.run run
  refine ⟨⟨registered.nodup, registered.size⟩, pass.counts_iff registered, ?_, ?_,
    pass.unwrapped_of_room, ?_, ?_⟩
  · rintro rfl
    exact pass.once_iff registered
  · intro unwrapped
    refine ⟨pass.length_le unwrapped, ?_⟩
    rintro rfl
    exact pass.holders_eq_registry unwrapped
  · rintro cursor later before env maxIter minSlashRatioBps rfl onward authorized
    exact pass.accepts onward authorized
  · intro page member bounded
    rw [(pass.sound registered page member).result]
    exact candidates_identity bounded

/-- The page read from given entries. -/
def pageAt (before : Storage) (env : Env) (cursor maxIter minSlashRatioBps : Nat) : Page where
  before
  env
  cursor
  maxIter
  minSlashRatioBps
  result := pageResult before cursor maxIter minSlashRatioBps

/-- The entries after a page. -/
def afterPage (keeper : Address) (before : Storage) (cursor maxIter : Nat) : Storage :=
  { before with
    keeperCursor := Function.update before.keeperCursor keeper (nextCursor before cursor maxIter) }

theorem Pass.follow {before : Storage} {env : Env} {cursor : Nat}
    (pass : Pass keeper start pages now (some cursor)) (run : Run Step now trace before)
    (authorized : env.authorized keeper = true) (maxIter minSlashRatioBps : Nat) :
    Pass keeper start (pages ++ [pageAt before env cursor maxIter minSlashRatioBps])
      (afterPage keeper before cursor maxIter)
      (pageAt before env cursor maxIter minSlashRatioBps).next := by
  refine .page pass run ?_
  obtain ⟨after, result, accepted⟩ :
      ∃ after result, scanLiquidationCandidates before env keeper cursor maxIter
        minSlashRatioBps = .ok (after, result) := pass.accepts run authorized
  obtain ⟨-, -, rfl, rfl⟩ := scanLiquidationCandidates_eq_ok.mp accepted
  exact accepted

end Claim

section Sample

def sampleEnv : Env :=
  .signedByAll ⟨0⟩ 10

def slashedBond : CredenceBond.IdentityBond where
  identity := ⟨3⟩
  bondedAmount := 100
  bondStart := 0
  bondDuration := 100
  slashedAmount := 60
  active := true
  isRolling := false
  withdrawalRequestedAt := 0
  noticePeriodDuration := 0

/-- Two holders enter, and the second is slashed. -/
def twoEntered : List Label :=
  [ ⟨sampleEnv, .call (.registerBondHolder ⟨2⟩)⟩,
    ⟨sampleEnv, .call (.registerBondHolder ⟨3⟩)⟩,
    ⟨sampleEnv, .elsewhere fun identity => if identity = ⟨3⟩ then some slashedBond else none⟩ ]

/-- A third holder enters, and the first leaves. -/
def changedMeanwhile : List Label :=
  [ ⟨sampleEnv, .call (.registerBondHolder ⟨4⟩)⟩,
    ⟨sampleEnv, .call (.deregisterBondHolder ⟨2⟩)⟩ ]

def twoHolders : Storage :=
  twoEntered.foldl (advance next) .deployed

def firstPage : Page :=
  pageAt twoHolders sampleEnv 0 1 5000

def changedHolders : Storage :=
  changedMeanwhile.foldl (advance next) (afterPage ⟨9⟩ twoHolders 0 1)

def secondPage : Page :=
  pageAt changedHolders sampleEnv 1 0 5000

theorem samplePass :
    Pass ⟨9⟩ twoHolders [firstPage, secondPage] (afterPage ⟨9⟩ changedHolders 1 0) none := by
  have first : Pass ⟨9⟩ twoHolders [firstPage] (afterPage ⟨9⟩ twoHolders 0 1) (some 1) :=
    Pass.begin.follow .nil rfl 1 5000
  have between : Run Step (afterPage ⟨9⟩ twoHolders 0 1)
      (record next (afterPage ⟨9⟩ twoHolders 0 1) changedMeanwhile) changedHolders :=
    run_of_record step_of_next rfl
  exact first.follow between rfl 0 5000

/-- A pass meets the holder that enters between its two pages, and finds the slashed one. -/
theorem pass_covers_changed_registry :
    ∃ trace, Run Step .deployed trace twoHolders ∧
      (∀ slot < slots twoHolders, (inspected [firstPage, secondPage]).count slot = 1) ∧
        [firstPage, secondPage].flatMap Page.holders = [⟨2⟩, ⟨3⟩, ⟨4⟩] ∧
          secondPage.result.candidates.map LiquidationCandidate.identity = [⟨3⟩] := by
  have run : Run Step .deployed (record next .deployed twoEntered) twoHolders :=
    run_of_record step_of_next rfl
  obtain ⟨-, -, exact, ends, room, -, found⟩ := pass_covers_registry run samplePass
  have unwrapped := room (by decide)
  refine ⟨_, run, (exact rfl).mpr fun page member => .inl (unwrapped page member),
    (ends unwrapped).2 rfl, ?_⟩
  refine (found secondPage (by simp) ?_).trans rfl
  intro identity _ bond stored
  have stored : (if identity = ⟨3⟩ then some slashedBond else none) = some bond := stored
  obtain rfl : slashedBond = bond := by
    split at stored
    · exact Option.some.inj stored
    · contradiction
  exact ⟨by decide, by decide, by decide⟩

end Sample

section FullRegistry

variable {keeper : Address} {start now : Storage} {pages : List Page} {env : Env}

/-- Holders can enter until the registry is full. -/
theorem exists_registry (env : Env) (count : Nat) (fits : count < 2 ^ 32) :
    ∃ trace state, Run Step .deployed trace state ∧
      state.bondHolderRegistry = (List.range count).map Address.mk := by
  induction count with
  | zero => exact ⟨[], .deployed, .nil, rfl⟩
  | succ count ih =>
      obtain ⟨trace, state, run, registry⟩ := ih (by omega)
      have registered : Registered state := Registered.deployed.run run
      have length : state.bondHolderRegistry.length = count := by simp [registry]
      have size : state.registrySize ≤ count := by
        rw [registered.size, ← length]
        exact List.countP_le_length
      have absent : (⟨count⟩ : Address) ∉ state.bondHolderRegistry := by simp [registry]
      have entered : invoke env state (.registerBondHolder ⟨count⟩) = .ok _ :=
        (registerBondHolder_eq_ok_of_absent absent).mpr ⟨⟨by omega, by omega⟩, rfl⟩
      refine ⟨_, _, run.snoc (.call entered), ?_⟩
      rw [registry, List.range_succ, List.map_append]
      rfl

theorem pageAt_next {before : Storage} {cursor maxIter minSlashRatioBps : Nat} :
    (pageAt before env cursor maxIter minSlashRatioBps).next =
      if pageEnd before cursor maxIter < slots before then some (pageEnd before cursor maxIter)
      else none := by
  cases finished : pageDone before cursor maxIter with
  | true =>
      have last := pageDone_eq_true.mp finished
      rw [if_neg (by simp [slots, last])]
      simp [Page.next, pageAt, pageResult, finished]
  | false =>
      rw [if_pos (pageEnd_lt_of_not_done finished)]
      simp [Page.next, pageAt, pageResult, finished, nextCursor_of_not_done finished]

/-- Pages of the largest size take a pass forward as long as slots remain. -/
theorem Pass.walk {cursor : Nat} (pass : Pass keeper start pages now (some cursor))
    (authorized : env.authorized keeper = true) (full : slots now < 2 ^ 32) (count : Nat)
    (room : cursor + maxIterHardCap * count < slots now) :
    ∃ more after, Pass keeper start (pages ++ more) after
      (some (cursor + maxIterHardCap * count)) ∧ slots after = slots now := by
  induction count with
  | zero => exact ⟨[], now, by simpa using pass, rfl⟩
  | succ count ih =>
      rw [Nat.mul_succ, ← Nat.add_assoc] at room ⊢
      obtain ⟨more, middle, walked, same⟩ := ih (by omega)
      have size : effectiveMax maxIterHardCap = maxIterHardCap := rfl
      have fits : cursor + maxIterHardCap * count + effectiveMax maxIterHardCap < 2 ^ 32 := by
        rw [size]
        exact room.trans full
      have ends : pageEnd middle (cursor + maxIterHardCap * count) maxIterHardCap =
          cursor + maxIterHardCap * count + maxIterHardCap := by
        rw [pageEnd_of_fits fits, same, size]
        exact min_eq_left room.le
      have further := walked.follow .nil authorized maxIterHardCap 0
      rw [pageAt_next, ends, same, if_pos room, List.append_assoc] at further
      exact ⟨_, _, further, same⟩

/-- A pass with pages of the largest size over a full registry goes back to slot 104 and
inspects it twice. -/
theorem pass_repeats_slot :
    ¬∀ (trace : List (Event Storage Label)) (start now : Storage) (pages : List Page),
      Run Step .deployed trace start → Pass ⟨9⟩ start pages now none →
        ∀ slot < slots start, (inspected pages).count slot = 1 := by
  intro every
  obtain ⟨trace, start, run, registry⟩ := exists_registry sampleEnv (2 ^ 32 - 1) (by omega)
  have full : slots start = 2 ^ 32 - 1 := by
    rw [slots, registry, List.length_map, List.length_range]
  have signed : sampleEnv.authorized ⟨9⟩ = true := rfl
  have begun : Pass ⟨9⟩ start [] start (some 0) := .begin
  obtain ⟨outward, far, pass, farFull⟩ := begun.walk signed (by omega) 21474836
    (by unfold maxIterHardCap; omega)
  -- the page from 4294967200 goes on at 104
  have wraps : pageEnd far (0 + maxIterHardCap * 21474836) 200 = 104 := by
    rw [pageEnd, ← slots, farFull, full]
    decide
  have rewound := pass.follow .nil signed 200 0
  rw [pageAt_next, wraps, if_pos (by omega)] at rewound
  have backFull : slots (afterPage ⟨9⟩ far (0 + maxIterHardCap * 21474836) 200) = 2 ^ 32 - 1 :=
    farFull.trans full
  obtain ⟨onward, near, pass, nearFull⟩ := rewound.walk signed (by omega) 21474835
    (by rw [backFull]; unfold maxIterHardCap; omega)
  -- the last page has the 191 slots that are left
  have ends : ¬pageEnd near (104 + maxIterHardCap * 21474835) 191 < slots near := by
    rw [pageEnd, ← slots, nearFull, backFull]
    decide
  have finished := pass.follow .nil signed 191 0
  rw [pageAt_next, if_neg ends] at finished
  have once := every trace start _ _ run finished 104 (by omega)
  have below : 104 < slots (afterPage ⟨9⟩ near (104 + maxIterHardCap * 21474835) 191) := by
    have same : slots (afterPage ⟨9⟩ near (104 + maxIterHardCap * 21474835) 191) =
        slots near := rfl
    omega
  have kept := (finished.count_eq_iff 104).mp (by rw [once, Option.getD_none, if_pos below])
  apply kept (pageAt far sampleEnv (0 + maxIterHardCap * 21474836) 200 0) (by simp)
  have late : 104 < 0 + maxIterHardCap * 21474836 := by
    unfold maxIterHardCap
    omega
  exact ⟨wraps.le, late⟩

end FullRegistry

end LiquidationScanner
