import CredenceContracts.Bond.SlashAmounts
import CredenceContracts.Library.LogReading

/-!
# The slash history as a log

Each identity has a counter and one entry for each number below it.  As long as a counter
does not overflow they are a log that only grows, and pages of it read one after another
give the log back, unless the end of a page overflows.
-/

namespace CredenceBond

open Soroban MachineInt Transition

section Model

variable (storage : Storage) (identity : Address)

/-- Hard cap on the items that one paginated read returns. -/
def maxQueryLimit : Nat :=
  200

def getSlashCount : Nat :=
  storage.slashCount identity

/-- How many records a page holds; zero asks for the cap. -/
def effectiveLimit (limit : Nat) : Nat :=
  if limit = 0 then maxQueryLimit else min limit maxQueryLimit

/-- The records from an offset on, as many as a page holds. -/
def getSlashHistoryPage (offset limit : Nat) : List SlashRecord :=
  let count := getSlashCount storage identity
  if offset ≥ count then
    []
  else
    let stop := min (wrappingU32 (offset + effectiveLimit limit)) count
    (List.range' offset (stop - offset)).filterMap (storage.slashRecord identity)

end Model

section Log

/-- What is appended to a slash history, and when. -/
structure SlashEntry where
  env : Env
  identity : Address
  slashAmount : Int
  reason : String
  totalSlashedAfter : Int

def SlashEntry.record (entry : SlashEntry) : SlashRecord where
  identity := entry.identity
  slashAmount := entry.slashAmount
  reason := entry.reason
  timestamp := entry.env.timestamp
  totalSlashedAfter := entry.totalSlashedAfter

def SlashEntry.append (entry : SlashEntry) (storage : Storage) : Storage :=
  appendSlashHistory entry.env storage entry.identity entry.slashAmount entry.reason
    entry.totalSlashedAfter

/-- A record is appended, or the contract does something else. -/
inductive HistoryStep (before : Storage) : Option SlashEntry → Storage → Prop where
  | appended {entry : SlashEntry} {after : Storage} :
      after.slashCount = (entry.append before).slashCount →
      after.slashRecord = (entry.append before).slashRecord →
      HistoryStep before (some entry) after
  | elsewhere {after : Storage} : after.slashCount = before.slashCount →
      after.slashRecord = before.slashRecord → HistoryStep before none after

/-- The records that a step appends for an identity. -/
def newRecords (identity : Address) : Option SlashEntry → List SlashRecord
  | some entry => if entry.identity = identity then [entry.record] else []
  | none => []

/-- The records that were appended for an identity, in order. -/
def appendsFor (identity : Address) (trace : List (Event Storage (Option SlashEntry))) :
    List SlashRecord :=
  trace.flatMap fun event => newRecords identity event.label

/-- The entries of an identity hold a log. -/
structure Logged (log : List SlashRecord) (storage : Storage) (identity : Address) :
    Prop where
  count : getSlashCount storage identity = log.length
  records : ∀ index, storage.slashRecord identity index = log[index]?

variable {storage before after origin : Storage} {identity : Address}
variable {log : List SlashRecord} {label : Option SlashEntry}
variable {trace : List (Event Storage (Option SlashEntry))}

@[simp] theorem appendsFor_nil : appendsFor identity [] = [] :=
  rfl

@[simp] theorem appendsFor_snoc {event : Event Storage (Option SlashEntry)} :
    appendsFor identity (trace ++ [event]) =
      appendsFor identity trace ++ newRecords identity event.label := by
  simp [appendsFor]

/-- A step appends to the log, as long as its length fits the counter. -/
theorem Logged.step (logged : Logged log before identity)
    (stepped : HistoryStep before label after)
    (few : (log ++ newRecords identity label).length < 2 ^ 32) :
    Logged (log ++ newRecords identity label) after identity := by
  have counted : before.slashCount identity = log.length := logged.count
  cases stepped with
  | @appended entry _ counts records =>
      by_cases own : entry.identity = identity
      · subst own
        simp only [newRecords, if_true, List.length_append, List.length_singleton] at few ⊢
        constructor
        · simp only [getSlashCount, counts, SlashEntry.append, appendSlashHistory, counted,
            Function.update_self, List.length_append, List.length_singleton]
          exact Nat.mod_eq_of_lt few
        · intro index
          rw [records]
          simp only [SlashEntry.append, appendSlashHistory, Function.update_self, counted]
          by_cases last : index = log.length
          · simp [last, SlashEntry.record]
          · rw [Function.update_of_ne last, logged.records, List.getElem?_append]
            by_cases earlier : index < log.length
            · rw [if_pos earlier]
            · rw [if_neg earlier, List.getElem?_eq_none (by omega),
                List.getElem?_eq_none (by simp; omega)]
      · have other : identity ≠ entry.identity := Ne.symm own
        simp only [newRecords, if_neg own, List.append_nil]
        constructor
        · simpa [getSlashCount, counts, SlashEntry.append, appendSlashHistory, other] using counted
        · intro index
          simpa [records, SlashEntry.append, appendSlashHistory, other] using
            logged.records index
  | elsewhere counts records =>
      simp only [newRecords, List.append_nil]
      constructor
      · exact (congrFun counts identity).trans counted
      · intro index
        rw [records]
        exact logged.records index

/-- No slash was recorded yet. -/
structure Unrecorded (storage : Storage) : Prop where
  count : storage.slashCount = fun _ => 0
  records : storage.slashRecord = fun _ _ => none

theorem Unrecorded.logged (fresh : Unrecorded storage) (identity : Address) :
    Logged [] storage identity where
  count := congrFun fresh.count identity
  records index := by simp [fresh.records]

/-- The history of an identity is what was appended for it. -/
theorem logged_of_run (fresh : Unrecorded origin)
    (run : Run HistoryStep origin trace storage)
    (few : (appendsFor identity trace).length < 2 ^ 32) :
    Logged (appendsFor identity trace) storage identity := by
  induction run with
  | nil => exact fresh.logged identity
  | snoc _ stepped ih =>
      rw [appendsFor_snoc] at few ⊢
      have earlier := ih ((List.length_append ▸ Nat.le_add_right _ _).trans_lt few)
      exact earlier.step stepped few

/-- Read entry by entry, the history is the log. -/
theorem Logged.slashHistory_eq (logged : Logged log storage identity) :
    slashHistory storage identity = log := by
  have counted : storage.slashCount identity = log.length := logged.count
  rw [slashHistory, counted, List.range_eq_range',
    LogReading.filterMap_range'_eq_page logged.records, LogReading.page, List.drop_zero,
    List.take_length]

/-- A slash of the bond appends one record. -/
theorem historyStep_of_slash {Ledger : Type} {ext : Externals Ledger} {env : Env}
    {before after : State Ledger} {bond : IdentityBond} {admin : Address} {amount : Int}
    (done : slash ext env before admin amount = .ok after)
    (found : before.storage.bond = some bond) :
    HistoryStep before.storage
      (some ⟨env, bond.identity, slashedPart bond amount, "admin_slash",
        (bond.slashedBy amount).slashedAmount⟩) after.storage := by
  have written := slash_writes done found
  exact .appended written.counts written.records

end Log

section Pages

variable {storage origin now : Storage} {identity : Address} {log shown : List SlashRecord}
variable {offset limit : Nat}

/-- What a read of a page asks for, and the counter that it finds. -/
structure HistoryRead where
  offset : Nat
  limit : Nat
  count : Nat

/-- Unless the offset is past the end, the end of the page does not overflow. -/
def HistoryRead.Fits (read : HistoryRead) : Prop :=
  read.offset < read.count → read.offset + effectiveLimit read.limit < 2 ^ 32

instance : DecidablePred HistoryRead.Fits := fun read => by
  unfold HistoryRead.Fits
  infer_instance

theorem effectiveLimit_pos (limit : Nat) : 0 < effectiveLimit limit := by
  unfold effectiveLimit maxQueryLimit
  split <;> omega

theorem effectiveLimit_le (limit : Nat) : effectiveLimit limit ≤ maxQueryLimit := by
  unfold effectiveLimit
  split
  · exact le_rfl
  · exact min_le_right _ _

/-- As long as a counter stays a page below its range, every read fits. -/
theorem HistoryRead.fits_of_count_le {read : HistoryRead}
    (few : read.count ≤ 2 ^ 32 - maxQueryLimit) : read.Fits := by
  intro inside
  have capped := effectiveLimit_le read.limit
  unfold maxQueryLimit at few capped
  omega

/-- A read that fits shows a page of the log. -/
theorem getSlashHistoryPage_eq (logged : Logged log storage identity)
    (fits : HistoryRead.Fits ⟨offset, limit, log.length⟩) :
    getSlashHistoryPage storage identity offset limit =
      LogReading.page offset (effectiveLimit limit) log := by
  have positive := effectiveLimit_pos limit
  rw [getSlashHistoryPage, logged.count]
  by_cases past : offset ≥ log.length
  · rw [if_pos past, (LogReading.page_eq_nil positive).mpr past]
  · have stop : wrappingU32 (offset + effectiveLimit limit) = offset + effectiveLimit limit :=
      Nat.mod_eq_of_lt (fits (not_le.mp past))
    simp only [if_neg past, stop, LogReading.filterMap_range'_eq_page logged.records]
    rw [LogReading.page, LogReading.page, List.take_eq_take_iff, List.length_drop]
    omega

/-- A read that does not fit shows nothing, although records are left. -/
theorem getSlashHistoryPage_wrapped (logged : Logged log storage identity)
    (few : log.length < 2 ^ 32)
    (wraps : ¬HistoryRead.Fits ⟨offset, limit, log.length⟩) :
    offset < log.length ∧ getSlashHistoryPage storage identity offset limit = [] := by
  obtain ⟨inside, far⟩ : offset < log.length ∧ 2 ^ 32 ≤ offset + effectiveLimit limit := by
    simpa [HistoryRead.Fits] using wraps
  have capped := effectiveLimit_le limit
  have early : min (wrappingU32 (offset + effectiveLimit limit)) log.length - offset = 0 := by
    unfold wrappingU32 maxQueryLimit at *
    omega
  refine ⟨inside, ?_⟩
  rw [getSlashHistoryPage, logged.count, if_neg (not_le.mpr inside)]
  simp only [early, List.range'_zero, List.filterMap_nil]

/-- A walk over the pages of an identity, from offset zero on and advancing by what each
page returned, with anything between the reads; it ends with an empty page. -/
inductive HistoryWalk (identity : Address) (origin : Storage) : List HistoryRead →
    List (Event Storage (Option SlashEntry)) → Storage → List SlashRecord → Bool → Prop where
  | start {trace : List (Event Storage (Option SlashEntry))} {now : Storage} :
      Run HistoryStep origin trace now → HistoryWalk identity origin [] trace now [] false
  | meanwhile {reads : List HistoryRead} {trace : List (Event Storage (Option SlashEntry))}
      {now after : Storage} {shown : List SlashRecord} {label : Option SlashEntry} :
      HistoryWalk identity origin reads trace now shown false → HistoryStep now label after →
      HistoryWalk identity origin reads (trace ++ [⟨now, label, after⟩]) after shown false
  | read {reads : List HistoryRead} {trace : List (Event Storage (Option SlashEntry))}
      {now : Storage} {shown : List SlashRecord} (limit : Nat) :
      HistoryWalk identity origin reads trace now shown false →
      HistoryWalk identity origin
        (reads ++ [⟨shown.length, limit, getSlashCount now identity⟩]) trace now
        (shown ++ getSlashHistoryPage now identity shown.length limit)
        (getSlashHistoryPage now identity shown.length limit).isEmpty

variable {reads : List HistoryRead} {trace : List (Event Storage (Option SlashEntry))}
variable {ended : Bool}

theorem HistoryWalk.run (walk : HistoryWalk identity origin reads trace now shown ended) :
    Run HistoryStep origin trace now := by
  induction walk with
  | start run => exact run
  | meanwhile _ stepped ih => exact ih.snoc stepped
  | read _ _ ih => exact ih

/-- Where a walk stands: what it showed begins the log, and unless it ended, all its reads
fitted and each of them showed something. -/
structure Standing (reads : List HistoryRead) (shown log : List SlashRecord) (ended : Bool) :
    Prop where
  begins : shown <+: log
  progress : reads.length ≤ shown.length + ended.toNat
  fitted : ended = false → ∀ read ∈ reads, read.Fits
  complete : ended = true → (shown = log ↔ ∀ read ∈ reads, read.Fits)

/-- Before the end only the last read can fail to fit. -/
theorem Standing.all_fit (standing : Standing reads shown log false) (last : HistoryRead) :
    (∀ read ∈ reads ++ [last], read.Fits) ↔ last.Fits := by
  have before := standing.fitted rfl
  constructor
  · intro fits
    exact fits last (by simp)
  · intro fits read member
    rcases List.mem_append.mp member with earlier | same
    · exact before read earlier
    · rw [List.mem_singleton.mp same]
      exact fits

/-- An empty page ends the walk. -/
theorem Standing.close (standing : Standing reads shown log false) {last : HistoryRead}
    (verdict : shown = log ↔ last.Fits) : Standing (reads ++ [last]) (shown ++ []) log true := by
  rw [List.append_nil]
  constructor
  · exact standing.begins
  · simpa using standing.progress
  · simp
  · intro _
    exact verdict.trans (standing.all_fit last).symm

theorem Standing.read (standing : Standing reads shown log false)
    (logged : Logged log now identity) (few : log.length < 2 ^ 32) :
    Standing (reads ++ [⟨shown.length, limit, getSlashCount now identity⟩])
      (shown ++ getSlashHistoryPage now identity shown.length limit) log
      (getSlashHistoryPage now identity shown.length limit).isEmpty := by
  have size : reads.length ≤ shown.length := standing.progress
  rw [logged.count]
  by_cases fits : HistoryRead.Fits ⟨shown.length, limit, log.length⟩
  · rw [getSlashHistoryPage_eq logged fits]
    cases nothing : LogReading.page shown.length (effectiveLimit limit) log with
    | nil =>
        have whole : shown = log :=
          LogReading.eq_of_page_eq_nil standing.begins (effectiveLimit_pos limit) nothing
        exact standing.close (iff_of_true whole fits)
    | cons first rest =>
        constructor
        · rw [← nothing]
          exact LogReading.append_page_isPrefix standing.begins
        · simp only [List.length_append, List.length_cons, List.length_nil]
          omega
        · exact fun _ => (standing.all_fit _).mpr fits
        · simp
  · obtain ⟨inside, nothing⟩ := getSlashHistoryPage_wrapped logged few fits
    have short : shown ≠ log := fun whole => inside.ne (congrArg List.length whole)
    rw [nothing]
    exact standing.close (iff_of_false short fits)

/-- Every walk over a log that fits its counter is in such a position. -/
theorem HistoryWalk.standing (fresh : Unrecorded origin)
    (walk : HistoryWalk identity origin reads trace now shown ended)
    (few : (appendsFor identity trace).length < 2 ^ 32) :
    Standing reads shown (appendsFor identity trace) ended := by
  induction walk with
  | start run => exact ⟨List.nil_prefix, by simp, by simp, by simp⟩
  | meanwhile _ _ ih =>
      rw [appendsFor_snoc] at few ⊢
      have earlier := ih ((List.length_append ▸ Nat.le_add_right _ _).trans_lt few)
      exact ⟨earlier.begins.trans (List.prefix_append _ _), earlier.progress, earlier.fitted,
        by simp⟩
  | read _ walk ih => exact (ih few).read (logged_of_run fresh walk.run few) few

/-- From an empty history on, as long as less than 2 ^ 32 records are appended for an
identity, its counter and entries hold what was appended, in order.  A walk over the pages
ends after as many reads as there are records and one more, having shown the first records;
and it shows them all if and only if no end of a page overflowed. -/
theorem slash_history_iff (fresh : Unrecorded origin) (identity : Address) :
    (∀ trace storage, Run HistoryStep origin trace storage →
      (appendsFor identity trace).length < 2 ^ 32 →
        getSlashCount storage identity = (appendsFor identity trace).length ∧
          ∀ index, storage.slashRecord identity index = (appendsFor identity trace)[index]?) ∧
    ∀ reads trace now shown ended, HistoryWalk identity origin reads trace now shown ended →
      (appendsFor identity trace).length < 2 ^ 32 →
        reads.length ≤ (appendsFor identity trace).length + 1 ∧
          shown <+: appendsFor identity trace ∧
          (ended = true →
            (shown = appendsFor identity trace ↔ ∀ read ∈ reads, read.Fits)) := by
  constructor
  · intro trace storage run few
    obtain ⟨count, records⟩ := logged_of_run fresh run few
    exact ⟨count, records⟩
  · intro reads trace now shown ended walk few
    have standing := walk.standing fresh few
    have shorter : shown.length ≤ (appendsFor identity trace).length :=
      standing.begins.length_le
    have once : ended.toNat ≤ 1 := Bool.toNat_le ended
    have progress := standing.progress
    exact ⟨by omega, standing.begins, standing.complete⟩

end Pages

section Sample

theorem unrecorded_deployed : Unrecorded .deployed where
  count := rfl
  records := rfl

def sampleEntry (identity : Address) (amount : Int) : SlashEntry where
  env := .signedByAll ⟨0⟩ 7
  identity
  slashAmount := amount
  reason := "admin_slash"
  totalSlashedAfter := amount

variable {reads : List HistoryRead} {trace : List (Event Storage (Option SlashEntry))}
variable {origin now : Storage} {identity : Address} {shown : List SlashRecord}

/-- A history of any length comes about. -/
theorem exists_appends (identity : Address) (length : Nat) :
    ∃ trace storage, Run HistoryStep .deployed trace storage ∧
      (appendsFor identity trace).length = length := by
  induction length with
  | zero => exact ⟨[], .deployed, .nil, rfl⟩
  | succ length ih =>
      obtain ⟨trace, storage, run, size⟩ := ih
      have appended : HistoryStep storage (some (sampleEntry identity 1))
          ((sampleEntry identity 1).append storage) := .appended rfl rfl
      refine ⟨_, _, run.snoc appended, ?_⟩
      rw [appendsFor_snoc, List.length_append, size]
      simp [newRecords, sampleEntry]

/-- A full page can be read as long as there are records for it. -/
theorem HistoryWalk.read_full
    (walk : HistoryWalk identity .deployed reads trace now shown false)
    (few : (appendsFor identity trace).length < 2 ^ 32)
    (enough : shown.length + maxQueryLimit ≤ (appendsFor identity trace).length) :
    ∃ more, HistoryWalk identity .deployed
      (reads ++ [⟨shown.length, 0, getSlashCount now identity⟩]) trace now (shown ++ more)
        false ∧ more.length = maxQueryLimit := by
  have logged := logged_of_run unrecorded_deployed walk.run few
  have fits : HistoryRead.Fits ⟨shown.length, 0, (appendsFor identity trace).length⟩ :=
    fun _ => enough.trans_lt few
  have full : (getSlashHistoryPage now identity shown.length 0).length = maxQueryLimit := by
    rw [getSlashHistoryPage_eq logged fits, LogReading.page, List.length_take, List.length_drop]
    exact min_eq_left (Nat.le_sub_of_add_le' enough)
  have some : (getSlashHistoryPage now identity shown.length 0).isEmpty = false := by
    rw [List.isEmpty_eq_false_iff, ← List.length_pos_iff, full]
    decide
  have walked := walk.read 0
  rw [some] at walked
  exact ⟨_, walked, full⟩

/-- Full pages can be read one after another. -/
theorem exists_full_pages (run : Run HistoryStep .deployed trace now)
    (few : (appendsFor identity trace).length < 2 ^ 32) (pages : Nat)
    (enough : maxQueryLimit * pages ≤ (appendsFor identity trace).length) :
    ∃ reads shown, HistoryWalk identity .deployed reads trace now shown false ∧
      shown.length = maxQueryLimit * pages := by
  induction pages with
  | zero => exact ⟨[], [], .start run, rfl⟩
  | succ pages ih =>
      rw [Nat.mul_succ] at enough ⊢
      obtain ⟨reads, shown, walk, size⟩ := ih (by omega)
      obtain ⟨more, further, full⟩ := walk.read_full few (by omega)
      exact ⟨_, _, further, by rw [List.length_append, size, full]⟩

/-- Of a history of 2 ^ 32 - 1 records, a walk by full pages leaves out the last 95: the
end of the page that would show them overflows, so that it is empty. -/
theorem walk_leaves_records_out :
    ¬∀ reads trace now shown, HistoryWalk ⟨1⟩ .deployed reads trace now shown true →
      (appendsFor ⟨1⟩ trace).length = 2 ^ 32 - 1 → shown = appendsFor ⟨1⟩ trace := by
  intro reproduces
  obtain ⟨trace, storage, run, size⟩ := exists_appends ⟨1⟩ (2 ^ 32 - 1)
  have few : (appendsFor ⟨1⟩ trace).length < 2 ^ 32 := by omega
  obtain ⟨reads, shown, walk, read⟩ := exists_full_pages run few 21474836
    (by unfold maxQueryLimit; omega)
  have logged := logged_of_run unrecorded_deployed run few
  have wraps : ¬HistoryRead.Fits ⟨shown.length, 0, (appendsFor ⟨1⟩ trace).length⟩ := by
    rw [read, size]
    decide
  obtain ⟨inside, nothing⟩ := getSlashHistoryPage_wrapped logged few wraps
  have walked := walk.read 0
  rw [nothing, List.append_nil] at walked
  exact inside.ne (congrArg List.length (reproduces _ _ _ _ walked size))

/-- With a record of another identity between them and an append between the reads, the
two records of an identity are shown one after the other. -/
theorem slash_history_iff_sample :
    ∃ reads trace now shown, HistoryWalk ⟨1⟩ .deployed reads trace now shown true ∧
      shown = appendsFor ⟨1⟩ trace ∧ shown.length = 2 := by
  let first := (sampleEntry ⟨1⟩ 10).append .deployed
  let second := (sampleEntry ⟨2⟩ 20).append first
  let third := (sampleEntry ⟨1⟩ 30).append second
  have one : HistoryStep .deployed (some (sampleEntry ⟨1⟩ 10)) first := .appended rfl rfl
  have two : HistoryStep first (some (sampleEntry ⟨2⟩ 20)) second := .appended rfl rfl
  have three : HistoryStep second (some (sampleEntry ⟨1⟩ 30)) third := .appended rfl rfl
  have begun : HistoryWalk ⟨1⟩ .deployed [⟨0, 1, 1⟩] _ second [(sampleEntry ⟨1⟩ 10).record]
      false := (HistoryWalk.start ((Run.single one).snoc two)).read 1
  have shown : HistoryWalk ⟨1⟩ .deployed [⟨0, 1, 1⟩, ⟨1, 0, 2⟩] _ third
      [(sampleEntry ⟨1⟩ 10).record, (sampleEntry ⟨1⟩ 30).record] false :=
    (begun.meanwhile three).read 0
  have walk : HistoryWalk ⟨1⟩ .deployed [⟨0, 1, 1⟩, ⟨1, 0, 2⟩, ⟨2, 0, 2⟩] _ third
      [(sampleEntry ⟨1⟩ 10).record, (sampleEntry ⟨1⟩ 30).record] true := shown.read 0
  have exactly := ((slash_history_iff unrecorded_deployed ⟨1⟩).2 _ _ _ _ _ walk (by decide)).2.2
  refine ⟨_, _, _, _, walk, (exactly rfl).mpr ?_, rfl⟩
  intro read member
  refine HistoryRead.fits_of_count_le ?_
  simp only [List.mem_cons, List.not_mem_nil, or_false] at member
  rcases member with rfl | rfl | rfl <;> decide

end Sample

end CredenceBond
