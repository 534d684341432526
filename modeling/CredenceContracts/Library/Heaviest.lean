import Mathlib.Order.Lattice
import Mathlib.Tactic.Common

/-!
# The heaviest of weighted keys

One pass over weighted keys keeps the first key of the largest weight and whether
another key had the same.  The rules below say what each kind of entry does to what is
kept; at the end the kept key is the one that outweighs all others, or the largest weight
is shared.  Neither depends on the order of the entries.
-/

namespace Heaviest

variable {Key Weight : Type} [LinearOrder Weight] {entries order : List (Key × Weight)}
variable {key winner : Key} {weight top : Weight} {tied : Prop}

/-- The key outweighs every other. -/
def Outweighs (entries : List (Key × Weight)) (key : Key) : Prop :=
  ∃ weight, (key, weight) ∈ entries ∧ ∀ entry ∈ entries, entry.1 ≠ key → entry.2 < weight

/-- Two keys share the largest weight. -/
def Shared (entries : List (Key × Weight)) : Prop :=
  ∃ first ∈ entries, ∃ second ∈ entries, first.1 ≠ second.1 ∧ first.2 = second.2 ∧
    ∀ entry ∈ entries, entry.2 ≤ first.2

/-- What a pass over the entries knows. -/
structure Leads (entries : List (Key × Weight)) (winner : Key) (top : Weight)
    (tied : Prop) : Prop where
  mem : (winner, top) ∈ entries
  bound : ∀ entry ∈ entries, entry.2 ≤ top
  tie : tied ↔ ∃ entry ∈ entries, entry.1 ≠ winner ∧ entry.2 = top

section Passes

theorem Leads.single : Leads [(key, weight)] key weight False where
  mem := List.mem_singleton_self _
  bound := by simp
  tie := by simp

/-- A heavier key takes the lead, and every tie below it is forgotten. -/
theorem Leads.overtaken (leads : Leads entries winner top tied) (heavier : top < weight) :
    Leads (entries ++ [(key, weight)]) key weight False where
  mem := List.mem_append_right _ (List.mem_singleton_self _)
  bound := by
    intro entry member
    rcases List.mem_append.mp member with before | last
    · exact (leads.bound entry before).trans heavier.le
    · rw [List.mem_singleton.mp last]
  tie := by
    refine iff_of_false id ?_
    rintro ⟨entry, member, other, same⟩
    rcases List.mem_append.mp member with before | last
    · exact absurd (leads.bound entry before) (same ▸ heavier).not_ge
    · rw [List.mem_singleton.mp last] at other
      exact other rfl

/-- Another key of the largest weight makes a tie. -/
theorem Leads.equalled (leads : Leads entries winner top tied) (other : key ≠ winner) :
    Leads (entries ++ [(key, top)]) winner top True where
  mem := List.mem_append_left _ leads.mem
  bound := by
    intro entry member
    rcases List.mem_append.mp member with before | last
    · exact leads.bound entry before
    · rw [List.mem_singleton.mp last]
  tie := iff_of_true trivial
    ⟨(key, top), List.mem_append_right _ (List.mem_singleton_self _), other, rfl⟩

/-- A lighter key changes nothing. -/
theorem Leads.trailed (leads : Leads entries winner top tied) (lighter : weight < top) :
    Leads (entries ++ [(key, weight)]) winner top tied where
  mem := List.mem_append_left _ leads.mem
  bound := by
    intro entry member
    rcases List.mem_append.mp member with before | last
    · exact leads.bound entry before
    · rw [List.mem_singleton.mp last]
      exact lighter.le
  tie := by
    rw [leads.tie]
    constructor
    · rintro ⟨entry, member, other, same⟩
      exact ⟨entry, List.mem_append_left _ member, other, same⟩
    · rintro ⟨entry, member, other, same⟩
      rcases List.mem_append.mp member with before | last
      · exact ⟨entry, before, other, same⟩
      · rw [List.mem_singleton.mp last] at same
        exact absurd same lighter.ne

end Passes

section Results

theorem Leads.outweighs_iff (leads : Leads entries winner top tied) :
    Outweighs entries key ↔ ¬tied ∧ winner = key := by
  constructor
  · rintro ⟨weight, member, lighter⟩
    have heaviest : weight ≤ top := leads.bound _ member
    constructor
    · intro tie
      obtain ⟨entry, inside, other, same⟩ := leads.tie.mp tie
      by_cases own : winner = key
      · exact absurd heaviest (same ▸ lighter entry inside (own ▸ other)).not_ge
      · exact absurd heaviest (lighter _ leads.mem own).not_ge
    · by_contra other
      exact absurd heaviest (lighter _ leads.mem other).not_ge
  · rintro ⟨alone, rfl⟩
    refine ⟨top, leads.mem, fun entry member other => ?_⟩
    refine (leads.bound entry member).lt_of_ne fun same => alone ?_
    exact leads.tie.mpr ⟨entry, member, other, same⟩

theorem Leads.shared_iff (leads : Leads entries winner top tied) : Shared entries ↔ tied := by
  constructor
  · rintro ⟨first, member, second, inside, different, same, bound⟩
    have largest : first.2 = top := le_antisymm (leads.bound first member) (bound _ leads.mem)
    rw [leads.tie]
    by_cases own : first.1 = winner
    · exact ⟨second, inside, fun again => different (own.trans again.symm),
        same.symm.trans largest⟩
    · exact ⟨first, member, own, largest⟩
  · intro tie
    obtain ⟨entry, member, other, same⟩ := leads.tie.mp tie
    exact ⟨entry, member, _, leads.mem, other, same, fun past inside =>
      (leads.bound past inside).trans same.ge⟩

theorem outweighs_perm (iterated : order.Perm entries) :
    Outweighs order key ↔ Outweighs entries key := by
  simp only [Outweighs, iterated.mem_iff]

theorem shared_perm (iterated : order.Perm entries) : Shared order ↔ Shared entries := by
  simp only [Shared, iterated.mem_iff]

end Results

end Heaviest
