import Mathlib.Algebra.BigOperators.Finprod
import Mathlib.Algebra.Group.Int.Defs

/-!
# Totals of accounts

The sum of one amount for each account, where finitely many accounts have any:
changing one account changes the total by the difference.
-/

namespace Totals

variable {α : Type} [DecidableEq α] {amounts : α → Int}

theorem finite_update (finite : amounts.HasFiniteSupport) (account : α) (amount : Int) :
    (Function.update amounts account amount).HasFiniteSupport := by
  refine (Set.Finite.insert account finite).subset fun other changed => ?_
  by_cases same : other = account
  · exact .inl same
  · refine .inr ?_
    simpa [Function.update_of_ne same] using changed

theorem finsum_update (finite : amounts.HasFiniteSupport) (account : α) (amount : Int) :
    ∑ᶠ other, Function.update amounts account amount other =
      ∑ᶠ other, amounts other - amounts account + amount := by
  have single : ∑ᶠ other, Function.update (0 : α → Int) account
      (amount - amounts account) other = amount - amounts account := by
    rw [finsum_eq_single _ account fun other different => Function.update_of_ne different _ _,
      Function.update_self]
  have split : Function.update amounts account amount = fun other => amounts other +
      Function.update (0 : α → Int) account (amount - amounts account) other := by
    funext other
    by_cases same : other = account
    · subst same
      simp
    · simp [Function.update_of_ne same]
  have finiteSingle : (Function.update (0 : α → Int) account
      (amount - amounts account)).HasFiniteSupport :=
    finite_update (by simp [Function.HasFiniteSupport]) account _
  rw [split, finsum_add_distrib finite finiteSingle, single]
  omega

end Totals
