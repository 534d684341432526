import Mathlib.Data.List.Basic
import Mathlib.Data.Nat.Basic
import Mathlib.Order.Basic

/-!
# Reading a growing log by offsets

Records are only ever added at the end of a log.  A reader asks for the records from an
offset on, as many as a page holds, and goes on after the last one that it got.
-/

namespace LogReading

variable {α : Type} {log shown : List α} {offset size : Nat}

/-- The records from an offset on, so many at most. -/
def page (offset size : Nat) (log : List α) : List α :=
  (log.drop offset).take size

theorem page_eq_nil (positive : 0 < size) : page offset size log = [] ↔ log.length ≤ offset := by
  rw [page, List.take_eq_nil_iff, List.drop_eq_nil_iff]
  exact or_iff_right positive.ne'

/-- Reading the places of a page one after another gives the page. -/
theorem filterMap_range'_eq_page {entry : Nat → Option α}
    (holds : ∀ index, entry index = log[index]?) :
    (List.range' offset size).filterMap entry = page offset size log := by
  induction size generalizing offset with
  | zero => simp [page]
  | succ size ih =>
      rw [List.range'_succ]
      by_cases inside : offset < log.length
      · have here : entry offset = some log[offset] := by
          rw [holds, List.getElem?_eq_getElem inside]
        rw [List.filterMap_cons_some here, ih, page, page, List.drop_eq_getElem_cons inside,
          List.take_succ_cons]
      · have past : entry offset = none := by
          rw [holds, List.getElem?_eq_none (not_lt.mp inside)]
        have nothing : log.drop offset = [] := List.drop_eq_nil_of_le (not_lt.mp inside)
        have still : log.drop (offset + 1) = [] := List.drop_eq_nil_of_le (by omega)
        rw [List.filterMap_cons_none past, ih, page, page, nothing, still, List.take_nil,
          List.take_nil]

section Reader

/-- A page goes on where the records before it end. -/
theorem append_page_isPrefix (read : shown <+: log) :
    shown ++ page shown.length size log <+: log := by
  obtain ⟨rest, rfl⟩ := read
  rw [page, List.drop_left, List.prefix_append_right_inj]
  exact List.take_prefix size rest

/-- An empty page comes after the last record. -/
theorem eq_of_page_eq_nil (read : shown <+: log) (positive : 0 < size)
    (nothing : page shown.length size log = []) : shown = log :=
  read.eq_of_length_le ((page_eq_nil positive).mp nothing)

end Reader

end LogReading
