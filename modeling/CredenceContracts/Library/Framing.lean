import Mathlib.Data.List.Basic

/-!
# Where a concatenation is cut

Two parts that are written one after the other without a mark between them can be read
back if the length of the first is known.  Otherwise a beginning of the second part can
pass for the end of the first.
-/

namespace Framing

variable {α : Type} {head tail otherHead otherTail : List α}

/-- The longer head goes on with what the tail of the shorter one begins with. -/
def Shifted (head tail otherHead otherTail : List α) : Prop :=
  ∃ moved, moved ≠ [] ∧
    (otherHead = head ++ moved ∧ tail = moved ++ otherTail ∨
      head = otherHead ++ moved ∧ otherTail = moved ++ tail)

/-- Two concatenations are the same exactly when their parts are, or when one of them is
the other cut at a later place. -/
theorem append_eq_append_iff :
    head ++ tail = otherHead ++ otherTail ↔
      head = otherHead ∧ tail = otherTail ∨ Shifted head tail otherHead otherTail := by
  rw [List.append_eq_append_iff]
  constructor
  · rintro (⟨moved, longer, begins⟩ | ⟨moved, longer, begins⟩)
    · by_cases none : moved = []
      · exact .inl (by simpa [none, eq_comm] using And.intro longer begins)
      · exact .inr ⟨moved, none, .inl ⟨longer, begins⟩⟩
    · by_cases none : moved = []
      · exact .inl (by simpa [none, eq_comm] using And.intro longer begins)
      · exact .inr ⟨moved, none, .inr ⟨longer, begins⟩⟩
  · rintro (⟨rfl, rfl⟩ | ⟨moved, -, shifted | shifted⟩)
    · exact .inl ⟨[], by simp, by simp⟩
    · exact .inl ⟨moved, shifted⟩
    · exact .inr ⟨moved, shifted⟩

/-- Heads of one length are read back. -/
theorem append_eq_append_iff_of_length (same : head.length = otherHead.length) :
    head ++ tail = otherHead ++ otherTail ↔ head = otherHead ∧ tail = otherTail :=
  ⟨fun whole => List.append_inj whole same, fun ⟨heads, tails⟩ => by rw [heads, tails]⟩

theorem Shifted.ne (shifted : Shifted head tail otherHead otherTail) : head ≠ otherHead := by
  rintro rfl
  obtain ⟨moved, some, ⟨longer, -⟩ | ⟨longer, -⟩⟩ := shifted
  · exact some (by simpa using longer)
  · exact some (by simpa using longer)

theorem Shifted.begins (shifted : Shifted head tail otherHead otherTail) :
    head <+: otherHead ∨ otherHead <+: head := by
  obtain ⟨moved, -, ⟨rfl, -⟩ | ⟨rfl, -⟩⟩ := shifted
  · exact .inl (List.prefix_append _ _)
  · exact .inr (List.prefix_append _ _)

end Framing
