import CredenceContracts.Library.Roster
import Mathlib.Logic.Function.Basic

/-!
# A pass over separate cells

A store keeps one cell for each key.  A pass visits some keys one after another, changes
the cells that pass a test and counts them.  Where no key is visited twice, what happens
to a cell depends on nothing but what it held before the pass.
-/

namespace Cells

open Roster

variable {κ γ : Type} [DecidableEq κ] (test : γ → Bool) (change : γ → γ)

/-- The cells after a pass, and how many of them it changed. -/
def pass : List κ → (κ → γ) → (κ → γ) × Nat
  | [], cells => (cells, 0)
  | key :: rest, cells =>
      if test (cells key) then
        let (after, changed) := pass rest (Function.update cells key (change (cells key)))
        (after, changed + 1)
      else
        pass rest cells

variable {test change} {keys : List κ} {cells : κ → γ} {key : κ}

theorem pass_cons_of_pos {rest : List κ} (passes : test (cells key) = true) :
    pass test change (key :: rest) cells =
      ((pass test change rest (Function.update cells key (change (cells key)))).1,
        (pass test change rest (Function.update cells key (change (cells key)))).2 + 1) := by
  rw [pass, if_pos passes]

theorem pass_cons_of_neg {rest : List κ} (fails : ¬test (cells key) = true) :
    pass test change (key :: rest) cells = pass test change rest cells := by
  rw [pass, if_neg fails]

/-- A cell whose key is not visited is left alone. -/
theorem pass_apply_of_notMem (apart : key ∉ keys) :
    (pass test change keys cells).1 key = cells key := by
  induction keys generalizing cells with
  | nil => rfl
  | cons first rest ih =>
      obtain ⟨other, later⟩ := List.ne_and_not_mem_of_not_mem_cons apart
      by_cases passes : test (cells first) = true
      · rw [pass_cons_of_pos passes, ih later, Function.update_of_ne other]
      · rw [pass_cons_of_neg passes, ih later]

/-- Exactly the visited cells that pass the test are changed. -/
theorem pass_apply (distinct : keys.Nodup) :
    (pass test change keys cells).1 key =
      if key ∈ keys ∧ test (cells key) = true then change (cells key) else cells key := by
  induction keys generalizing cells with
  | nil => simp [pass]
  | cons first rest ih =>
      obtain ⟨fresh, distinct⟩ := List.nodup_cons.mp distinct
      by_cases same : key = first
      · subst same
        by_cases passes : test (cells key) = true
        · rw [pass_cons_of_pos passes, pass_apply_of_notMem fresh, Function.update_self,
            if_pos ⟨List.mem_cons_self, passes⟩]
        · rw [pass_cons_of_neg passes, pass_apply_of_notMem fresh,
            if_neg fun changed => passes changed.2]
      · simp only [List.mem_cons, same, false_or]
        by_cases passes : test (cells first) = true
        · rw [pass_cons_of_pos passes, ih distinct, Function.update_of_ne same]
        · rw [pass_cons_of_neg passes, ih distinct]

/-- The pass counts the visited cells that pass the test as it finds them. -/
theorem pass_snd (distinct : keys.Nodup) :
    (pass test change keys cells).2 = (keys.filter fun key => test (cells key)).length := by
  induction keys generalizing cells with
  | nil => rfl
  | cons first rest ih =>
      obtain ⟨fresh, distinct⟩ := List.nodup_cons.mp distinct
      by_cases passes : test (cells first) = true
      · have untouched : (rest.filter fun key =>
            test (Function.update cells first (change (cells first)) key)) =
              rest.filter fun key => test (cells key) := by
          refine List.filter_congr fun key listed => ?_
          have other : key ≠ first := fun same => fresh (same ▸ listed)
          rw [Function.update_of_ne other]
        rw [pass_cons_of_pos passes, ih distinct, untouched, List.filter_cons, if_pos passes,
          List.length_cons]
      · rw [pass_cons_of_neg passes, ih distinct, List.filter_cons, if_neg passes]

/-- The count is the number of cells that the pass changes. -/
theorem encard_passing {members : Set κ} (lists : Lists keys members) :
    {key | key ∈ members ∧ test (cells key) = true}.encard =
      (pass test change keys cells).2 := by
  rw [pass_snd lists.nodup]
  exact (lists.filter fun key => test (cells key)).encard_eq

section Fill

variable {α : Type} {name : α → κ} {records : List α} {filed : κ → Option α}

/-- File records under their names, one after another. -/
def fill (name : α → κ) (records : List α) (filed : κ → Option α) : κ → Option α :=
  records.foldl (fun filed record => Function.update filed (name record) (some record)) filed

theorem fill_apply_of_notMem (apart : key ∉ records.map name) :
    fill name records filed key = filed key := by
  induction records generalizing filed with
  | nil => rfl
  | cons first rest ih =>
      obtain ⟨other, later⟩ := List.ne_and_not_mem_of_not_mem_cons apart
      exact (ih later).trans (Function.update_of_ne other _ _)

/-- Where no two records have one name, each is found under its own. -/
theorem fill_apply_of_mem {record : α} (distinct : (records.map name).Nodup)
    (member : record ∈ records) : fill name records filed (name record) = some record := by
  induction records generalizing filed with
  | nil => cases member
  | cons first rest ih =>
      obtain ⟨fresh, distinct⟩ := List.nodup_cons.mp distinct
      rcases List.mem_cons.mp member with rfl | later
      · exact (fill_apply_of_notMem fresh).trans (Function.update_self _ _ _)
      · exact ih distinct later

end Fill

end Cells
