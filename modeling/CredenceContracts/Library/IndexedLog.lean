import CredenceContracts.Library.Journal
import Mathlib.Data.List.Induction
import Mathlib.Data.List.Nodup
import Mathlib.Logic.Function.Basic

/-!
# A log kept as tables

An append-only log is stored as a table of its records under the numbers from zero on, with
their number.  Two more tables are derived from it: for each group the numbers of its
records, and which keys occur.  A record is only added under a new key, so that the keys
tell the records apart.
-/

namespace IndexedLog

variable {ρ κ γ : Type} {keyOf : ρ → κ} {groupOf : ρ → γ}

/-- The tables of a log. -/
structure Tables (ρ κ γ : Type) where
  count : Nat
  entry : Nat → Option ρ
  group : γ → List Nat
  used : κ → Bool

section Log

variable [DecidableEq γ]

/-- The numbers of the records of a group. -/
def numbers (groupOf : ρ → γ) (log : List ρ) (group : γ) : List Nat :=
  (List.range log.length).filter fun number => (log[number]?).map groupOf = some group

/-- The tables hold a log whose keys are distinct. -/
structure Represents (keyOf : ρ → κ) (groupOf : ρ → γ) (tables : Tables ρ κ γ)
    (log : List ρ) : Prop where
  count : tables.count = log.length
  entry : ∀ number, tables.entry number = log[number]?
  group : ∀ group, tables.group group = numbers groupOf log group
  used : ∀ key, tables.used key = true ↔ key ∈ log.map keyOf
  distinct : (log.map keyOf).Nodup

variable {tables : Tables ρ κ γ} {log : List ρ} {record : ρ}

theorem represents_nil :
    Represents keyOf groupOf ⟨0, fun _ => none, fun _ => [], fun _ => false⟩ [] where
  count := rfl
  entry := by simp
  group := by simp [numbers]
  used := by simp
  distinct := List.nodup_nil

/-- A new record is the last one of its group. -/
theorem numbers_append (group : γ) :
    numbers groupOf (log ++ [record]) group =
      numbers groupOf log group ++ if groupOf record = group then [log.length] else [] := by
  have earlier : ∀ number ∈ List.range log.length,
      (decide (((log ++ [record])[number]?).map groupOf = some group)) =
        decide ((log[number]?).map groupOf = some group) := by
    intro number inside
    rw [List.getElem?_append_left (List.mem_range.mp inside)]
  have last : (log ++ [record])[log.length]? = some record := by simp
  rw [numbers, List.length_append, List.length_singleton, List.range_succ, List.filter_append,
    List.filter_congr earlier, numbers, List.append_cancel_left_eq, List.filter_singleton, last]
  by_cases same : groupOf record = group <;> simp [same]

/-- The records under the numbers of a group are the records of the group. -/
theorem filterMap_numbers (log : List ρ) (group : γ) :
    (numbers groupOf log group).filterMap (log[·]?) =
      log.filter fun record => groupOf record = group := by
  induction log using List.reverseRecOn with
  | nil => simp
  | append_singleton earlier record ih =>
      have kept : ∀ number ∈ numbers groupOf earlier group,
          (earlier ++ [record])[number]? = earlier[number]? := by
        intro number member
        exact List.getElem?_append_left (List.mem_range.mp (List.mem_of_mem_filter member))
      rw [numbers_append, List.filterMap_append, List.filterMap_congr kept, ih,
        List.filter_append, List.append_cancel_left_eq, List.filter_singleton]
      by_cases same : groupOf record = group <;> simp [same]

/-- Where the records carry their numbers, those of a group are read off its records. -/
theorem numbers_eq_map {numberOf : ρ → Nat}
    (numbered : log.map numberOf = List.range log.length) (group : γ) :
    numbers groupOf log group =
      (log.filter fun record => groupOf record = group).map numberOf := by
  have carried : ∀ number ∈ numbers groupOf log group,
      (log[number]?).map numberOf = some number := by
    intro number member
    have inside := List.mem_range.mp (List.mem_of_mem_filter member)
    rw [← List.getElem?_map, numbered, List.getElem?_range inside]
  rw [← filterMap_numbers, List.map_filterMap, List.filterMap_congr carried,
    List.filterMap_some]

/-- The records of a group are all there. -/
theorem Represents.found (represents : Represents keyOf groupOf tables log) {group : γ}
    {number : Nat} (member : number ∈ tables.group group) :
    ∃ record, tables.entry number = some record ∧ groupOf record = group := by
  rw [represents.group, numbers, List.mem_filter, List.mem_range] at member
  obtain ⟨inside, grouped⟩ := member
  rw [List.getElem?_eq_getElem inside] at grouped
  refine ⟨log[number], ?_, by simpa using grouped⟩
  rw [represents.entry, List.getElem?_eq_getElem inside]

variable [DecidableEq κ]

/-- The tables with one more record. -/
def Tables.append (keyOf : ρ → κ) (groupOf : ρ → γ) (tables : Tables ρ κ γ) (record : ρ) :
    Tables ρ κ γ where
  count := tables.count + 1
  entry := Function.update tables.entry tables.count (some record)
  group := Function.update tables.group (groupOf record)
    (tables.group (groupOf record) ++ [tables.count])
  used := Function.update tables.used (keyOf record) true

theorem Represents.append (represents : Represents keyOf groupOf tables log)
    (unused : tables.used (keyOf record) = false) :
    Represents keyOf groupOf (tables.append keyOf groupOf record) (log ++ [record]) where
  count := by simp [Tables.append, represents.count]
  entry := by
    intro number
    by_cases last : number = log.length
    · simp [Tables.append, represents.count, last]
    · simp only [Tables.append, represents.count, Function.update_of_ne last, represents.entry]
      rw [Journal.getElem?_append_of_ne last]
  group := by
    intro group
    rw [numbers_append, Tables.append, represents.count]
    by_cases same : group = groupOf record
    · simp [same, represents.group]
    · simp [same, Ne.symm same, represents.group]
  used := by
    intro key
    by_cases same : key = keyOf record
    · simp [Tables.append, same]
    · simpa [Tables.append, same, Ne.symm same] using represents.used key
  distinct := by
    have fresh : keyOf record ∉ log.map keyOf := by
      rw [← represents.used]
      simp [unused]
    rw [List.map_append]
    exact represents.distinct.append (List.nodup_singleton _) (by simpa using fresh)

end Log

end IndexedLog
