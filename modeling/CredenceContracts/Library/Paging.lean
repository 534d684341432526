import Mathlib.Data.List.Perm.Basic
import Mathlib.Data.Nat.Basic
import Mathlib.Order.Basic

/-!
# Reading a changing list page by page

The elements of a list have increasing keys.  A page shows the first elements past a
cursor, and a full page gives the key of its last element as the next cursor.  The list
may change between two pages, as long as no element enters below the cursor.
-/

namespace Paging

variable {α : Type} (key : α → Nat)

/-- The keys of the list increase. -/
def Ascending (list : List α) : Prop :=
  list.Pairwise fun first second => key first < key second

/-- The elements past a cursor. -/
def remaining (cursor : Nat) (list : List α) : List α :=
  list.filter fun element => cursor < key element

/-- The first elements past a cursor. -/
def page (cursor size : Nat) (list : List α) : List α :=
  (remaining key cursor list).take size

/-- The next cursor; a page that is not full is the last. -/
def following (cursor size : Nat) (list : List α) : Option Nat :=
  if (page key cursor size list).length < size then none
  else (page key cursor size list).getLast?.map key

/-- Elements in order are not repeated. -/
theorem Ascending.nodup {key : α → Nat} {list : List α} (ascending : Ascending key list) :
    list.Nodup :=
  ascending.imp fun before same => absurd before (by rw [same]; exact lt_irrefl _)

variable {key} {list old : List α} {cursor size last : Nat} {element : α}

theorem mem_remaining :
    element ∈ remaining key cursor list ↔ element ∈ list ∧ cursor < key element := by
  simp [remaining]

theorem page_append_drop :
    page key cursor size list ++ (remaining key cursor list).drop size =
      remaining key cursor list :=
  List.take_append_drop _ _

theorem mem_of_mem_page (shown : element ∈ page key cursor size list) :
    element ∈ list ∧ cursor < key element :=
  mem_remaining.mp (List.mem_of_mem_take shown)

theorem Ascending.remaining (ascending : Ascending key list) :
    Ascending key (remaining key cursor list) :=
  ascending.filter _

theorem Ascending.page (ascending : Ascending key list) :
    Ascending key (page key cursor size list) :=
  ascending.remaining.take

/-- A full page ends with an element of its own. -/
theorem following_eq_some :
    following key cursor size list = some last ↔
      size ≤ (page key cursor size list).length ∧
        ∃ initial element, page key cursor size list = initial ++ [element] ∧
          key element = last := by
  by_cases short : (page key cursor size list).length < size
  · rw [following, if_pos short]
    refine iff_of_false (by simp) fun full => ?_
    exact absurd full.1 (not_le.mpr short)
  · rw [following, if_neg short, Option.map_eq_some_iff]
    simp only [List.getLast?_eq_some_iff]
    constructor
    · rintro ⟨element, ⟨initial, shape⟩, same⟩
      exact ⟨not_lt.mp short, initial, element, shape, same⟩
    · rintro ⟨-, initial, element, shape, same⟩
      exact ⟨element, ⟨initial, shape⟩, same⟩

/-- Without a next cursor, a page shows all that was left. -/
theorem page_eq_of_following_eq_none (some : 0 < size)
    (done : following key cursor size list = none) :
    page key cursor size list = remaining key cursor list := by
  have short : (page key cursor size list).length < size := by
    by_contra full
    rw [following, if_neg full, Option.map_eq_none_iff, List.getLast?_eq_none_iff] at done
    rw [done] at full
    exact full some
  rw [page, List.length_take] at short
  exact List.take_of_length_le (by omega)

section Full

/-- The next cursor is the largest key of the page. -/
theorem le_of_mem_page (ascending : Ascending key list)
    (goes : following key cursor size list = some last)
    (shown : element ∈ page key cursor size list) : key element ≤ last := by
  obtain ⟨-, initial, final, shape, rfl⟩ := following_eq_some.mp goes
  have ordered : Ascending key (page key cursor size list) := ascending.page
  rw [shape] at ordered shown
  rcases List.mem_append.mp shown with before | here
  · have earlier : key element < key final :=
      (List.pairwise_append.mp ordered).2.2 element before final (by simp)
    exact earlier.le
  · rw [List.mem_singleton.mp here]

/-- What a full page leaves comes after its last element. -/
theorem lt_of_mem_drop (ascending : Ascending key list)
    (goes : following key cursor size list = some last)
    (left : element ∈ (remaining key cursor list).drop size) : last < key element := by
  obtain ⟨-, initial, final, shape, rfl⟩ := following_eq_some.mp goes
  have ordered : Ascending key (remaining key cursor list) := ascending.remaining
  rw [← page_append_drop] at ordered
  exact (List.pairwise_append.mp ordered).2.2 final (by simp [shape]) element left

theorem lt_of_following (goes : following key cursor size list = some last) : cursor < last := by
  obtain ⟨-, initial, final, shape, rfl⟩ := following_eq_some.mp goes
  exact (mem_of_mem_page (by rw [shape]; simp)).2

/-- A full page takes its elements off those that remain. -/
theorem length_remaining_add_size (ascending : Ascending key list)
    (goes : following key cursor size list = some last) :
    (remaining key last list).length + size ≤ (remaining key cursor list).length := by
  have further := lt_of_following goes
  have full := (following_eq_some.mp goes).1
  have narrowed : remaining key last list =
      (remaining key cursor list).filter fun element => last < key element := by
    rw [remaining, remaining, List.filter_filter]
    refine List.filter_congr fun element _ => ?_
    simp only [← Bool.decide_and, decide_eq_decide]
    omega
  have none : (page key cursor size list).filter (fun element => last < key element) = [] := by
    simp only [List.filter_eq_nil_iff, decide_eq_true_eq, not_lt]
    exact fun element shown => le_of_mem_page ascending goes shown
  have parts : (page key cursor size list ++ (remaining key cursor list).drop size).length =
      (remaining key cursor list).length := congrArg List.length page_append_drop
  have few : (((remaining key cursor list).drop size).filter
      fun element => last < key element).length ≤
        ((remaining key cursor list).drop size).length := List.length_filter_le _ _
  have left : remaining key last list =
      ((remaining key cursor list).drop size).filter fun element => last < key element := by
    conv_lhs => rw [narrowed, ← page_append_drop, List.filter_append, none, List.nil_append]
  rw [left]
  rw [List.length_append] at parts
  omega

end Full

/-- The elements shown so far are in order, below the next cursor, and include those of
the list below it; without a next cursor, the whole list. -/
structure Shown (key : α → Nat) (shown list : List α) (next : Option Nat) : Prop where
  ascending : Ascending key shown
  below : ∀ cursor, next = some cursor → ∀ element ∈ shown, key element ≤ cursor
  met : ∀ element ∈ list, (∀ cursor, next = some cursor → key element ≤ cursor) →
    element ∈ shown

theorem Shown.start (positive : ∀ element ∈ list, 0 < key element) :
    Shown key [] list (some 0) where
  ascending := List.Pairwise.nil
  below := by simp
  met element member below := by
    have here := positive element member
    have none := below 0 rfl
    omega

/-- A list in which no element enters below the cursor leaves nothing out. -/
theorem Shown.evolve {shown : List α} (so : Shown key shown old (some cursor))
    (kept : ∀ element ∈ list, key element ≤ cursor → element ∈ old) :
    Shown key shown list (some cursor) where
  ascending := so.ascending
  below := so.below
  met element member below := so.met element (kept element member (below cursor rfl)) below

/-- Reading a page shows its elements after those before it. -/
theorem Shown.read {shown : List α} (so : Shown key shown list (some cursor))
    (ascending : Ascending key list) (some : 0 < size) :
    Shown key (shown ++ page key cursor size list) list (following key cursor size list) where
  ascending := by
    refine List.pairwise_append.mpr ⟨so.ascending, ascending.page, ?_⟩
    intro first earlier second later
    have reached : key first ≤ cursor := so.below cursor rfl first earlier
    exact reached.trans_lt (mem_of_mem_page later).2
  below last goes element member := by
    rcases List.mem_append.mp member with earlier | later
    · have reached : key element ≤ cursor := so.below cursor rfl element earlier
      exact reached.trans (lt_of_following goes).le
    · exact le_of_mem_page ascending goes later
  met element member below := by
    by_cases early : key element ≤ cursor
    · refine List.mem_append_left _ (so.met element member ?_)
      rintro other ⟨⟩
      exact early
    · have left : element ∈ remaining key cursor list := mem_remaining.mpr ⟨member, by omega⟩
      refine List.mem_append_right _ ?_
      cases goes : following key cursor size list with
      | none => exact (page_eq_of_following_eq_none some goes).symm ▸ left
      | some last =>
          rw [← page_append_drop] at left
          refine (List.mem_append.mp left).resolve_right fun dropped => ?_
          have late := lt_of_mem_drop ascending goes dropped
          have soon := below last goes
          omega

/-- What was shown of a list that never changed is the list itself. -/
theorem Shown.eq_of_subset {shown : List α} (so : Shown key shown list none)
    (ascending : Ascending key list) (within : ∀ element ∈ shown, element ∈ list) :
    shown = list := by
  have same : shown.Perm list := by
    refine (List.perm_ext_iff_of_nodup so.ascending.nodup ascending.nodup).mpr fun element => ?_
    exact ⟨within element, fun member => so.met element member (by simp)⟩
  refine same.eq_of_pairwise ?_ so.ascending ascending
  intro first second _ _ before after
  exact absurd before after.not_gt

end Paging
