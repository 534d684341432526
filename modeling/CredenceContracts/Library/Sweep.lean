import Mathlib.Data.List.Basic

/-!
# Bounded sweeps

A bounded sweep looks at the first elements of a list only and removes those of them
that pass a test.  Where all elements that pass stand before all others, a sweep that
finds nothing has left nothing to find.
-/

namespace Sweep

variable {α : Type} {test : α → Bool} {list : List α} {limit : Nat}

/-- What a sweep removes. -/
def found (test : α → Bool) (limit : Nat) (list : List α) : List α :=
  (list.take limit).filter test

/-- What a sweep leaves. -/
def left (test : α → Bool) (limit : Nat) (list : List α) : List α :=
  (list.take limit).filter (fun element => !test element) ++ list.drop limit

/-- The elements that pass stand before all others. -/
def Leading (test : α → Bool) (list : List α) : Prop :=
  list.Pairwise fun earlier later => test later = true → test earlier = true

theorem left_sublist : (left test limit list).Sublist list := by
  conv_rhs => rw [← List.take_append_drop limit list]
  exact List.filter_sublist.append (.refl _)

theorem Leading.sublist {shorter : List α} (leading : Leading test list)
    (ordered : shorter.Sublist list) : Leading test shorter :=
  List.Pairwise.sublist ordered leading

/-- A sweep leaves alone what does not pass. -/
theorem filter_not_left :
    (left test limit list).filter (fun element => !test element) =
      list.filter fun element => !test element := by
  conv_rhs => rw [← List.take_append_drop limit list]
  rw [left, List.filter_append, List.filter_append, List.filter_filter]
  simp

/-- What passes is found now or left for later. -/
theorem found_append_filter_left :
    found test limit list ++ (left test limit list).filter test = list.filter test := by
  conv_rhs => rw [← List.take_append_drop limit list]
  rw [left, found, List.filter_append, List.filter_append, List.filter_filter]
  simp

/-- Where nothing passes, all elements are kept. -/
theorem filter_not_of_filter_eq_nil (nothing : list.filter test = []) :
    list.filter (fun element => !test element) = list := by
  rw [List.filter_eq_self]
  intro element member
  simpa using List.filter_eq_nil_iff.mp nothing element member

/-- A sweep that finds nothing leaves the list as it is. -/
theorem left_of_found_eq_nil (nothing : found test limit list = []) :
    left test limit list = list := by
  rw [left, filter_not_of_filter_eq_nil nothing, List.take_append_drop]

/-- Of a list whose passing elements lead, a sweep of one element or more finds some as
long as there are any. -/
theorem Leading.filter_eq_nil (leading : Leading test list) (positive : 0 < limit)
    (nothing : found test limit list = []) : list.filter test = [] := by
  cases list with
  | nil => rfl
  | cons first rest =>
      obtain ⟨before, -⟩ := List.pairwise_cons.mp leading
      have looked : first ∈ (first :: rest).take limit := by
        obtain ⟨room, rfl⟩ := Nat.exists_eq_add_one.mpr positive
        simp
      have fails := List.filter_eq_nil_iff.mp nothing first looked
      refine List.filter_eq_nil_iff.mpr fun element member => ?_
      rcases List.mem_cons.mp member with rfl | later
      · exact fails
      · exact fun passes => fails (before element later passes)

/-- Sweeps of one element never bring the passing elements to the front. -/
theorem not_leading_left (stuck : ¬Leading test list) : ¬Leading test (left test 1 list) := by
  cases list with
  | nil => exact absurd List.Pairwise.nil stuck
  | cons first rest =>
      by_cases passes : test first = true
      · have shorter : left test 1 (first :: rest) = rest := by simp [left, passes]
        rw [shorter]
        exact fun leading => stuck (List.pairwise_cons.mpr ⟨fun _ _ _ => passes, leading⟩)
      · have same : left test 1 (first :: rest) = first :: rest := by simp [left, passes]
        rwa [same]

/-- Where nothing passes, what passes leads. -/
theorem leading_of_filter_eq_nil (nothing : list.filter test = []) : Leading test list :=
  List.pairwise_of_forall_mem_list fun _ _ later member passes =>
    absurd passes (List.filter_eq_nil_iff.mp nothing later member)

/-- What is kept holds nothing that passes. -/
theorem leading_filter_not (list : List α) :
    Leading test (list.filter fun element => !test element) :=
  leading_of_filter_eq_nil (by simp)

/-- A new element at the end must not pass before the others do. -/
theorem leading_snoc {last : α} :
    Leading test (list ++ [last]) ↔
      Leading test list ∧ (test last = true → ∀ element ∈ list, test element = true) := by
  simp only [Leading, List.pairwise_append, List.pairwise_singleton, List.mem_singleton,
    forall_eq, true_and]
  exact and_congr_right fun _ =>
    ⟨fun before passes element member => before element member passes,
      fun before element member passes => before passes element member⟩

end Sweep
