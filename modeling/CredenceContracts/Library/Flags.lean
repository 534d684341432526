import Mathlib.Data.Set.Card

/-!
# Counting the raised flags of a finite-state map

A contract that keeps one boolean per address and a cached count claims that
the count is the number of raised flags.  The count of a set of addresses is
its extended cardinality, so the claim also says that only finitely many flags
are raised.
-/

namespace Flags

variable {α : Type}

/-- The arguments at which a flag is raised. -/
def raised (flag : α → Bool) : Set α :=
  {argument | flag argument = true}

@[simp] theorem mem_raised {flag : α → Bool} {argument : α} :
    argument ∈ raised flag ↔ flag argument = true :=
  Iff.rfl

@[simp] theorem raised_none : raised (fun _ : α => false) = ∅ := by
  ext argument
  simp

/-- A set holds so many distinct members if and only if its size says so. -/
theorem exists_finset_iff {members : Set α} {size : Nat} :
    (∃ chosen : Finset α, size ≤ chosen.card ∧ ∀ member ∈ chosen, member ∈ members) ↔
      (size : ENat) ≤ members.encard := by
  constructor
  · rintro ⟨chosen, enough, inside⟩
    calc (size : ENat)
      _ ≤ chosen.card := by exact_mod_cast enough
      _ = (chosen : Set α).encard := (Set.encard_coe_eq_coe_finsetCard chosen).symm
      _ ≤ members.encard := Set.encard_le_encard inside
  · intro enough
    obtain ⟨chosen, inside, count⟩ := Set.exists_subset_encard_eq enough
    have finite : chosen.Finite := Set.finite_of_encard_eq_coe count
    refine ⟨finite.toFinset, ?_, fun member chose => inside (finite.mem_toFinset.mp chose)⟩
    rw [finite.encard_eq_coe_toFinset_card] at count
    exact_mod_cast count.ge

section Update

variable [DecidableEq α]

theorem raised_set (flag : α → Bool) (argument : α) :
    raised (Function.update flag argument true) = insert argument (raised flag) := by
  ext other
  by_cases equal : other = argument <;> simp [Function.update, equal]

/-- Raising a lowered flag adds one to the count. -/
theorem encard_raised_set {flag : α → Bool} {argument : α} (lowered : flag argument = false) :
    (raised (Function.update flag argument true)).encard = (raised flag).encard + 1 := by
  rw [raised_set]
  exact Set.encard_insert_of_notMem (by simp [lowered])

theorem raised_clear (flag : α → Bool) (argument : α) :
    raised (Function.update flag argument false) = raised flag \ {argument} := by
  ext other
  by_cases equal : other = argument <;> simp [Function.update, equal]

/-- Lowering a raised flag takes one from the count. -/
theorem encard_raised_clear {flag : α → Bool} {argument : α} (present : flag argument = true) :
    (raised (Function.update flag argument false)).encard + 1 = (raised flag).encard := by
  rw [raised_clear]
  exact Set.encard_sdiff_singleton_add_one (by simpa using present)

/-- Raising the flags of a list raises exactly those. -/
theorem foldl_raise (flag : α → Bool) (arguments : List α) (argument : α) :
    arguments.foldl (fun flags member => Function.update flags member true) flag argument =
        true ↔ argument ∈ arguments ∨ flag argument = true := by
  induction arguments generalizing flag with
  | nil => simp
  | cons first rest ih =>
      rw [List.foldl_cons, ih]
      by_cases same : argument = first <;> simp [same]

/-- Lowering the flags of a list lowers exactly those. -/
theorem foldl_lower (flag : α → Bool) (arguments : List α) (argument : α) :
    arguments.foldl (fun flags member => Function.update flags member false) flag argument =
        true ↔ argument ∉ arguments ∧ flag argument = true := by
  induction arguments generalizing flag with
  | nil => simp
  | cons first rest ih =>
      rw [List.foldl_cons, ih]
      by_cases same : argument = first <;> simp [same]

end Update

end Flags
