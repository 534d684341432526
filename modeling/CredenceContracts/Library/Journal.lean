import Mathlib.Data.Option.Basic
import Mathlib.Logic.Function.Basic
import Mathlib.Order.Basic

/-!
# Journals

A journal keeps records under the numbers one, two and so on, together with how many
there are.  A record is added under the next number, which is not in use, so that no
record that is there is ever altered.
-/

namespace Journal

variable {Record : Type} {entries : Nat → Option Record} {count : Nat}

/-- The numbers in use are those from one to the count. -/
def Numbered (entries : Nat → Option Record) (count : Nat) : Prop :=
  ∀ number, (entries number).isSome = true ↔ 1 ≤ number ∧ number ≤ count

namespace Numbered

theorem empty : Numbered (fun _ => (none : Option Record)) 0 := by
  intro number
  simp
  omega

theorem append (numbered : Numbered entries count) (record : Record) :
    Numbered (Function.update entries (count + 1) (some record)) (count + 1) := by
  intro number
  by_cases same : number = count + 1
  · simp [same]
  · rw [Function.update_of_ne same, numbered]
    omega

/-- An added record replaces none. -/
theorem kept (numbered : Numbered entries count) {number : Nat} {record added : Record}
    (found : entries number = some record) :
    Function.update entries (count + 1) (some added) number = some record := by
  have used := (numbered number).mp (by simp [found])
  rw [Function.update_of_ne (by omega), found]

end Numbered

/-- A record added to a list stands at its end only. -/
theorem getElem?_append_of_ne {records : List Record} {record : Record} {index : Nat}
    (other : index ≠ records.length) : (records ++ [record])[index]? = records[index]? := by
  rcases Nat.lt_or_gt_of_ne other with inside | past
  · rw [List.getElem?_append_left inside]
  · have beyond : (records ++ [record]).length ≤ index := by simpa using Nat.succ_le_of_lt past
    rw [List.getElem?_eq_none beyond, List.getElem?_eq_none (Nat.le_of_lt past)]

/-- The journal holds these records, in their order. -/
structure Holds (entries : Nat → Option Record) (count : Nat) (records : List Record) :
    Prop where
  count : count = records.length
  unused : entries 0 = none
  entry : ∀ index, entries (index + 1) = records[index]?

namespace Holds

theorem empty : Holds (fun _ => (none : Option Record)) 0 [] :=
  ⟨rfl, rfl, fun _ => rfl⟩

/-- The records are looked up under the numbers from one on. -/
theorem lookup {records : List Record} (holds : Holds entries count records) {number : Nat}
    {record : Record} :
    entries number = some record ↔
      ∃ index, number = index + 1 ∧ records[index]? = some record := by
  cases number with
  | zero => simp [holds.unused]
  | succ index => simp [holds.entry]

theorem append {records : List Record} (holds : Holds entries count records) (record : Record) :
    Holds (Function.update entries (count + 1) (some record)) (count + 1)
      (records ++ [record]) where
  count := by simp [holds.count]
  unused := by
    rw [Function.update_of_ne (Nat.succ_ne_zero count).symm]
    exact holds.unused
  entry := by
    intro index
    by_cases last : index = count
    · simp [last, holds.count]
    · have other : index + 1 ≠ count + 1 := fun same => last (Nat.succ.inj same)
      rw [holds.count] at last
      rw [Function.update_of_ne other, holds.entry, getElem?_append_of_ne last]

end Holds

end Journal
