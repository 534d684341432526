import Mathlib.Data.PEquiv
import Mathlib.Logic.Function.Basic

/-!
# Pairings

A pairing matches some values of one type with some values of another, one to one.
Two tables that are read in either direction stay halves of one pairing as long as
both are written together: free values are linked, linked ones are unlinked.
-/

namespace Pairing

variable {α β : Type}

section Links

variable [DecidableEq α] [DecidableEq β]

/-- Match two values that have no partner yet. -/
def link (pairing : α ≃. β) (left : α) (right : β) (leftFree : pairing left = none)
    (rightFree : pairing.symm right = none) : α ≃. β where
  toFun := Function.update pairing left (some right)
  invFun := Function.update pairing.symm right (some left)
  inv := by
    intro first second
    have partners := pairing.eq_some_iff (a := first) (b := second)
    by_cases sameLeft : first = left <;> by_cases sameRight : second = right
    · simp [sameLeft, sameRight]
    · subst sameLeft
      simp [sameRight, partners, leftFree, Ne.symm sameRight]
    · subst sameRight
      simp [sameLeft, ← partners, rightFree, Ne.symm sameLeft]
    · simp [sameLeft, sameRight, partners]

/-- Part two values that are partners. -/
def unlink (pairing : α ≃. β) (left : α) (right : β) (linked : pairing left = some right) :
    α ≃. β where
  toFun := Function.update pairing left none
  invFun := Function.update pairing.symm right none
  inv := by
    intro first second
    have partners := pairing.eq_some_iff (a := first) (b := second)
    have back := pairing.eq_some_iff.mpr linked
    by_cases sameLeft : first = left <;> by_cases sameRight : second = right
    · simp [sameLeft, sameRight]
    · subst sameLeft
      simp [sameRight, partners, linked, Ne.symm sameRight]
    · subst sameRight
      simp [sameLeft, ← partners, back, Ne.symm sameLeft]
    · simp [sameLeft, sameRight, partners]

end Links

section Tables

/-- Two tables are the two directions of a pairing. -/
structure Represents (forward : α → Option β) (backward : β → Option α)
    (pairing : α ≃. β) : Prop where
  forward : ∀ left, forward left = pairing left
  backward : ∀ right, backward right = pairing.symm right

variable {forward : α → Option β} {backward : β → Option α} {pairing : α ≃. β}

theorem represents_empty :
    Represents (fun _ => none) (fun _ => none) (⊥ : α ≃. β) where
  forward := fun _ => rfl
  backward := fun _ => rfl

/-- Read in either direction, the tables agree. -/
theorem Represents.iff (represents : Represents forward backward pairing) (left : α)
    (right : β) : forward left = some right ↔ backward right = some left := by
  rw [represents.forward, represents.backward]
  exact pairing.eq_some_iff.symm

variable [DecidableEq α] [DecidableEq β]

/-- Writing both halves of a new pair links it. -/
theorem Represents.link {left : α} {right : β}
    (represents : Represents forward backward pairing) (leftFree : forward left = none)
    (rightFree : backward right = none) :
    ∃ linked : α ≃. β, Represents (Function.update forward left (some right))
      (Function.update backward right (some left)) linked := by
  have free := (represents.forward left).symm.trans leftFree
  have rightIsFree := (represents.backward right).symm.trans rightFree
  refine ⟨Pairing.link pairing left right free rightIsFree, ?_, ?_⟩
  · rw [funext represents.forward]
    exact fun _ => rfl
  · rw [funext represents.backward]
    exact fun _ => rfl

/-- Clearing both halves of a pair unlinks it. -/
theorem Represents.unlink {left : α} {right : β}
    (represents : Represents forward backward pairing) (linked : forward left = some right) :
    ∃ parted : α ≃. β, Represents (Function.update forward left none)
      (Function.update backward right none) parted := by
  have partners := (represents.forward left).symm.trans linked
  refine ⟨Pairing.unlink pairing left right partners, ?_, ?_⟩
  · rw [funext represents.forward]
    exact fun _ => rfl
  · rw [funext represents.backward]
    exact fun _ => rfl

end Tables

end Pairing
