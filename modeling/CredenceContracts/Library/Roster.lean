import Mathlib.Data.List.Nodup
import Mathlib.Data.Set.Card

/-!
# Rosters

A list that names every member of a set once stands for the set: a member enters at
the end and leaves wherever it stands.  Where members are sorted into classes, each
class with a roster of its own, a member changes its class by leaving one roster and
entering another.
-/

namespace Roster

variable {α κ : Type}

/-- The list names every member of the set once, and nothing else. -/
structure Lists (list : List α) (members : Set α) : Prop where
  nodup : list.Nodup
  mem_iff : ∀ element, element ∈ list ↔ element ∈ members

/-- Each class has the roster of the elements that are in it. -/
def Sorts (lists : κ → List α) (classOf : α → Option κ) : Prop :=
  ∀ label, Lists (lists label) {element | classOf element = some label}

namespace Lists

variable {list : List α} {members : Set α} {element : α}

theorem empty : Lists [] (∅ : Set α) where
  nodup := List.nodup_nil
  mem_iff := by simp

theorem singleton (element : α) : Lists [element] {element} where
  nodup := List.nodup_singleton element
  mem_iff := by simp

theorem of_eq {others : Set α} (lists : Lists list members) (same : members = others) :
    Lists list others :=
  same ▸ lists

/-- A roster has as many entries as there are members. -/
theorem encard_eq (lists : Lists list members) : members.encard = list.length := by
  classical
  have members_eq : members = (list.toFinset : Set α) := by
    ext element
    simp [lists.mem_iff element]
  rw [members_eq, Set.encard_coe_eq_coe_finsetCard, List.toFinset_card_of_nodup lists.nodup]

/-- A new member enters at the end. -/
theorem enter (lists : Lists list members) (absent : element ∉ members) :
    Lists (list ++ [element]) (insert element members) where
  nodup := by
    have unlisted : element ∉ list := mt (lists.mem_iff element).mp absent
    exact lists.nodup.append (List.nodup_singleton element) (by simpa using unlisted)
  mem_iff other := by
    simp [lists.mem_iff other, or_comm]

/-- A member leaves; who is none has nothing to leave. -/
theorem leave [DecidableEq α] (lists : Lists list members) :
    Lists (list.erase element) (members \ {element}) where
  nodup := lists.nodup.erase element
  mem_iff other := by
    rw [lists.nodup.mem_erase_iff, lists.mem_iff other]
    simp [and_comm]

/-- Leaving can also be written as keeping all others. -/
theorem leave_filter [DecidableEq α] (lists : Lists list members) :
    Lists (list.filter fun other => other ≠ element) (members \ {element}) where
  nodup := lists.nodup.filter _
  mem_iff other := by
    simp [lists.mem_iff other]

/-- The members that pass a test are listed by the entries that pass it. -/
theorem filter (lists : Lists list members) (test : α → Bool) :
    Lists (list.filter test) {element | element ∈ members ∧ test element = true} where
  nodup := lists.nodup.filter _
  mem_iff other := by
    simp [lists.mem_iff other]

end Lists

/-- Where only members pass a test, the entries that pass it are as many as the
elements that do. -/
theorem Lists.encard_test {list : List α} {members : Set α} {test : α → Bool}
    (lists : Lists list members) (within : ∀ element, test element = true → element ∈ members) :
    {element | test element = true}.encard = list.countP test := by
  have passing := lists.filter test
  rw [List.countP_eq_length_filter, ← passing.encard_eq]
  congr 1
  ext element
  exact ⟨fun passes => ⟨within element passes, passes⟩, fun passing => passing.2⟩

/-- A test that implies another counts as many entries exactly where no entry passes
the other alone. -/
theorem countP_eq_countP_iff {list : List α} {strict loose : α → Bool}
    (implies : ∀ element, strict element = true → loose element = true) :
    list.countP loose = list.countP strict ↔
      ∀ element ∈ list, loose element = true → strict element = true := by
  induction list with
  | nil => simp
  | cons head tail ih =>
      have fewer : tail.countP strict ≤ tail.countP loose :=
        List.countP_mono_left fun element _ => implies element
      have first := implies head
      simp only [List.countP_cons, List.forall_mem_cons, ← ih]
      cases passes : loose head <;> cases narrow : strict head <;>
        simp [passes, narrow] at first ⊢
      omega

/-- Of a list without repeats, the first so many entries are so many. -/
theorem countP_mem_take [DecidableEq α] {list : List α} {number : Nat} (nodup : list.Nodup)
    (fits : number ≤ list.length) :
    list.countP (fun element => element ∈ list.take number) = number := by
  have apart := (List.nodup_append.mp ((List.take_append_drop number list).symm ▸ nodup)).2.2
  have front : (list.take number).countP (fun element => element ∈ list.take number) = number := by
    rw [List.countP_eq_length.mpr (by simp), List.length_take_of_le fits]
  have back : (list.drop number).countP (fun element => element ∈ list.take number) = 0 := by
    refine List.countP_eq_zero.mpr fun element late => ?_
    simpa using fun early => apart element early element late rfl
  calc list.countP (fun element => element ∈ list.take number)
      = (list.take number ++ list.drop number).countP
          (fun element => element ∈ list.take number) := by rw [List.take_append_drop]
    _ = number := by rw [List.countP_append, front, back, Nat.add_zero]

/-- Who is not on a list does not leave it. -/
theorem filter_of_not_mem [DecidableEq α] {list : List α} {element : α} (absent : element ∉ list) :
    (list.filter fun other => other ≠ element) = list := by
  refine List.filter_eq_self.mpr fun other member => ?_
  simpa using ne_of_mem_of_not_mem member absent

section Counts

variable [DecidableEq α] {list : List α} {element : α} {before after : α → Bool}

/-- Two counts of a list without repeats whose verdicts differ on one entry at most. -/
theorem countP_add_toNat (nodup : list.Nodup) (member : element ∈ list)
    (same : ∀ other, other ≠ element → before other = after other) :
    list.countP after + (before element).toNat = list.countP before + (after element).toNat := by
  have rest : (list.erase element).countP before = (list.erase element).countP after := by
    apply List.countP_congr
    intro other left
    rw [same other (nodup.mem_erase_iff.mp left).1]
  have split := List.perm_cons_erase member
  rw [split.countP_eq, split.countP_eq, List.countP_cons, List.countP_cons, rest]
  cases before element <;> cases after element <;> simp

/-- Such counts compare as the verdicts on that entry do. -/
theorem countP_le_countP_iff (nodup : list.Nodup) (member : element ∈ list)
    (same : ∀ other, other ≠ element → before other = after other) :
    list.countP before ≤ list.countP after ↔
      (before element = true → after element = true) := by
  have sums := countP_add_toNat nodup member same
  cases first : before element <;> cases second : after element <;>
    simp [first, second] at sums ⊢ <;> omega

end Counts

namespace Sorts

theorem empty : Sorts (fun _ : κ => ([] : List α)) (fun _ => none) := by
  intro label
  exact Lists.empty.of_eq (by ext element; simp)

variable [DecidableEq α] [DecidableEq κ] {lists : κ → List α} {classOf : α → Option κ}
variable {element : α} {label newLabel : κ}

/-- An element without class enters one. -/
theorem enter (sorts : Sorts lists classOf) (absent : classOf element = none) :
    Sorts (Function.update lists label (lists label ++ [element]))
      (Function.update classOf element (some label)) := by
  intro other
  by_cases same : other = label
  · subst same
    rw [Function.update_self]
    refine ((sorts other).enter (by simp [absent])).of_eq ?_
    ext member
    by_cases entered : member = element <;> simp [entered]
  · rw [Function.update_of_ne same]
    refine (sorts other).of_eq ?_
    ext member
    by_cases entered : member = element
    · simp [entered, absent, Ne.symm same]
    · simp [entered]

/-- An element leaves its class. -/
theorem leave (sorts : Sorts lists classOf) (present : classOf element = some label) :
    Sorts (Function.update lists label ((lists label).erase element))
      (Function.update classOf element none) := by
  intro other
  by_cases same : other = label
  · subst same
    rw [Function.update_self]
    refine (sorts other).leave.of_eq ?_
    ext member
    by_cases left : member = element <;> simp [left]
  · rw [Function.update_of_ne same]
    refine (sorts other).of_eq ?_
    ext member
    by_cases left : member = element
    · simp [left, present, Ne.symm same]
    · simp [left]

/-- An element leaves its class and enters another one, or its own again. -/
theorem move (sorts : Sorts lists classOf) (present : classOf element = some label) :
    let removed := Function.update lists label ((lists label).erase element)
    Sorts (Function.update removed newLabel (removed newLabel ++ [element]))
      (Function.update classOf element (some newLabel)) := by
  have vacant : Function.update classOf element none element = none :=
    Function.update_self _ _ _
  simpa only [Function.update_idem] using (sorts.leave present).enter vacant

end Sorts

end Roster
