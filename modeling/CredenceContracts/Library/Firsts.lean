import Mathlib.Data.List.Induction
import Mathlib.Data.List.Nodup

/-!
# The first of each kind

Of a list in which kinds recur, the members that are the first of their kinds, in their
order.
-/

namespace Firsts

variable {α κ : Type} [DecidableEq κ] {kind : α → κ} {list : List α} {last : α} {sought : κ}

/-- The first member of a kind. -/
def first? (kind : α → κ) (sought : κ) (list : List α) : Option α :=
  list.find? fun member => decide (kind member = sought)

/-- The members that are the first of their kinds. -/
def firsts (kind : α → κ) (list : List α) : List α :=
  list.foldl
    (fun kept member => if kind member ∈ kept.map kind then kept else kept ++ [member]) []

theorem first?_snoc :
    first? kind sought (list ++ [last]) =
      (first? kind sought list).or (if kind last = sought then some last else none) := by
  unfold first?
  rw [List.find?_append, List.find?_singleton]
  simp

theorem first?_eq_none : first? kind sought list = none ↔ sought ∉ list.map kind := by
  simp [first?]

theorem firsts_concat :
    firsts kind (list ++ [last]) =
      if kind last ∈ (firsts kind list).map kind then firsts kind list
      else firsts kind list ++ [last] := by
  simp [firsts]

/-- Every kind has its first member. -/
theorem mem_kinds_firsts : sought ∈ (firsts kind list).map kind ↔ sought ∈ list.map kind := by
  induction list using List.reverseRecOn with
  | nil => rfl
  | append_singleton list last ih =>
      rw [firsts_concat, List.map_append, List.mem_append, ← ih]
      split
      · rename_i known
        refine (or_iff_left_of_imp ?_).symm
        intro same
        rw [List.map_singleton, List.mem_singleton] at same
        rwa [same]
      · rw [List.map_append, List.mem_append]

/-- A member is added to the firsts just when its kind is new. -/
theorem firsts_snoc :
    firsts kind (list ++ [last]) =
      if kind last ∈ list.map kind then firsts kind list else firsts kind list ++ [last] := by
  simp only [firsts_concat, mem_kinds_firsts]

/-- No kind has two firsts. -/
theorem nodup_kinds_firsts : ((firsts kind list).map kind).Nodup := by
  induction list using List.reverseRecOn with
  | nil => exact List.nodup_nil
  | append_singleton list last ih =>
      rw [firsts_concat]
      split
      · exact ih
      · rename_i fresh
        simpa using List.Nodup.concat fresh ih

end Firsts
