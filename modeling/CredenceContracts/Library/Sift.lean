import Mathlib.Algebra.BigOperators.Group.List.Basic
import Mathlib.Data.List.Perm.Basic

/-!
# Sifting a list in one bounded pass

A pass over a work list takes some elements, throws some away and keeps the
others, and stops once it has taken as many as it has room for; whatever it did
not reach is kept.  The three parts make up the list again, so every additive
measure of the list splits along them.
-/

namespace Sift

variable {α : Type}

/-- What a pass does with an element. -/
inductive Verdict where
  | take
  | drop
  | keep
  deriving DecidableEq, Repr

/-- What is left to take once an element was met. -/
def Verdict.roomAfter (verdict : Verdict) (room : Nat) : Nat :=
  match verdict with
  | .take => room - 1
  | _ => room

variable (verdict : α → Verdict)

/-- The elements the pass looks at. -/
def scanned : Nat → List α → List α
  | 0, _ => []
  | _ + 1, [] => []
  | room + 1, element :: rest =>
      element :: scanned ((verdict element).roomAfter (room + 1)) rest

/-- The elements the pass never reaches. -/
def unscanned : Nat → List α → List α
  | 0, elements => elements
  | _ + 1, [] => []
  | room + 1, element :: rest => unscanned ((verdict element).roomAfter (room + 1)) rest

def taken (room : Nat) (elements : List α) : List α :=
  (scanned verdict room elements).filter (verdict · = .take)

def dropped (room : Nat) (elements : List α) : List α :=
  (scanned verdict room elements).filter (verdict · = .drop)

def kept (room : Nat) (elements : List α) : List α :=
  (scanned verdict room elements).filter (verdict · = .keep) ++ unscanned verdict room elements

variable {verdict} {room : Nat} {element : α} {elements : List α}

@[simp] theorem scanned_zero : scanned verdict 0 elements = [] := by
  cases elements <;> rfl

@[simp] theorem unscanned_zero : unscanned verdict 0 elements = elements := by
  cases elements <;> rfl

@[simp] theorem taken_nil : taken verdict room [] = [] := by
  cases room <;> rfl

@[simp] theorem kept_nil : kept verdict room [] = [] := by
  cases room <;> rfl

@[simp] theorem taken_zero : taken verdict 0 elements = [] := by
  simp [taken]

@[simp] theorem kept_zero : kept verdict 0 elements = elements := by
  simp [kept]

section Cons

theorem taken_cons_of_take (takes : verdict element = .take) :
    taken verdict (room + 1) (element :: elements) = element :: taken verdict room elements := by
  simp [taken, scanned, takes, Verdict.roomAfter]

theorem taken_cons_of_not_take (passes : verdict element ≠ .take) :
    taken verdict (room + 1) (element :: elements) = taken verdict (room + 1) elements := by
  cases answer : verdict element with
  | take => exact absurd answer passes
  | drop => simp [taken, scanned, answer, Verdict.roomAfter]
  | keep => simp [taken, scanned, answer, Verdict.roomAfter]

theorem kept_cons_of_take (takes : verdict element = .take) :
    kept verdict (room + 1) (element :: elements) = kept verdict room elements := by
  simp [kept, scanned, unscanned, takes, Verdict.roomAfter]

theorem kept_cons_of_drop (drops : verdict element = .drop) :
    kept verdict (room + 1) (element :: elements) = kept verdict (room + 1) elements := by
  simp [kept, scanned, unscanned, drops, Verdict.roomAfter]

theorem kept_cons_of_keep (keeps : verdict element = .keep) :
    kept verdict (room + 1) (element :: elements) =
      element :: kept verdict (room + 1) elements := by
  simp [kept, scanned, unscanned, keeps, Verdict.roomAfter]

end Cons

theorem scanned_append_unscanned (verdict : α → Verdict) (room : Nat) (elements : List α) :
    scanned verdict room elements ++ unscanned verdict room elements = elements := by
  induction elements generalizing room with
  | nil => cases room <;> rfl
  | cons element rest ih =>
      cases room with
      | zero => rfl
      | succ room => simp [scanned, unscanned, ih]

/-- The three parts make up the list. -/
theorem perm (verdict : α → Verdict) (room : Nat) (elements : List α) :
    (taken verdict room elements ++ dropped verdict room elements ++
      kept verdict room elements).Perm elements := by
  have parts : ∀ seen : List α,
      (seen.filter (verdict · = .take) ++ seen.filter (verdict · = .drop) ++
        seen.filter (verdict · = .keep)).Perm seen := by
    intro seen
    induction seen with
    | nil => simp
    | cons element rest ih =>
        cases answer : verdict element with
        | take => simpa [answer] using ih
        | drop =>
            simp only [answer, List.filter_cons, reduceCtorEq, decide_false, decide_true,
              Bool.false_eq_true, if_false, if_true, List.append_assoc]
            exact List.perm_middle.trans (.cons _ (by simpa using ih))
        | keep =>
            simp only [answer, List.filter_cons, reduceCtorEq, decide_false, decide_true,
              Bool.false_eq_true, if_false, if_true]
            exact List.perm_middle.trans (.cons _ ih)
  have whole := scanned_append_unscanned verdict room elements
  unfold taken dropped kept
  rw [← List.append_assoc]
  conv_rhs => rw [← whole]
  exact (parts _).append_right _

theorem kept_sublist (verdict : α → Verdict) (room : Nat) (elements : List α) :
    (kept verdict room elements).Sublist elements := by
  conv_rhs => rw [← scanned_append_unscanned verdict room elements]
  exact List.filter_sublist.append (.refl _)

theorem mem_taken (member : element ∈ taken verdict room elements) :
    element ∈ elements ∧ verdict element = .take := by
  obtain ⟨seen, takes⟩ := List.mem_filter.mp member
  have whole := scanned_append_unscanned verdict room elements
  exact ⟨whole ▸ List.mem_append_left _ seen, by simpa using takes⟩

theorem dropped_eq_nil :
    dropped verdict room elements = [] ↔
      ∀ element ∈ scanned verdict room elements, verdict element ≠ .drop := by
  simp [dropped, List.filter_eq_nil_iff]

theorem kept_eq_nil :
    kept verdict room elements = [] ↔
      scanned verdict room elements = elements ∧
        ∀ element ∈ elements, verdict element ≠ .keep := by
  have whole := scanned_append_unscanned verdict room elements
  constructor
  · intro empty
    obtain ⟨none, complete⟩ := List.append_eq_nil_iff.mp empty
    rw [complete, List.append_nil] at whole
    refine ⟨whole, fun element member => ?_⟩
    simpa using List.filter_eq_nil_iff.mp none element (whole.symm ▸ member)
  · rintro ⟨complete, none⟩
    have rest : unscanned verdict room elements = [] := by
      rw [complete] at whole
      exact List.append_right_eq_self.mp whole
    rw [kept, rest, complete, List.append_nil, List.filter_eq_nil_iff]
    simpa using none

end Sift
