import CredenceContracts.Library.Run

/-!
# Frozen runs

Some states freeze a part of themselves: every step from such a state keeps that part and
stays frozen, unless it is one that thaws.  A run that begins frozen therefore shows what
it began with up to the first step that thaws.
-/

namespace Freeze

open Transition

variable {State Label View : Type} {step : State → Label → State → Prop}
variable {frozen : State → Prop} {view : State → View} {thaws : Event State Label → Prop}
variable {start final : State} {trace : List (Event State Label)}

/-- A step from a frozen state thaws, or keeps the view and the state frozen. -/
def Keeps (step : State → Label → State → Prop) (frozen : State → Prop) (view : State → View)
    (thaws : Event State Label → Prop) : Prop :=
  ∀ before label after, frozen before → step before label after →
    thaws ⟨before, label, after⟩ ∨ frozen after ∧ view after = view before

/-- Every state after one of the events is frozen and shows the view of the first one. -/
def Still (frozen : State → Prop) (view : State → View) (start : State)
    (trace : List (Event State Label)) : Prop :=
  ∀ event ∈ trace, frozen event.after ∧ view event.after = view start

/-- The events of a still run begin in frozen states, and it ends in one. -/
theorem Still.begins (still : Still frozen view start trace) (initially : frozen start)
    (run : Run step start trace final) : (∀ event ∈ trace, frozen event.before) ∧ frozen final := by
  induction run with
  | nil => exact ⟨by simp, initially⟩
  | @snoc trace before after label _ _ ih =>
      obtain ⟨earlier, reached⟩ := ih fun event member =>
        still event (List.mem_append_left _ member)
      constructor
      · intro event member
        rcases List.mem_append.mp member with inside | last
        · exact earlier event inside
        · obtain rfl := List.mem_singleton.mp last
          exact reached
      · exact (still ⟨before, label, after⟩ (by simp)).1

/-- The first step that thaws found the view as the run began with it. -/
def Thawed (frozen : State → Prop) (view : State → View) (thaws : Event State Label → Prop)
    (start : State) (trace : List (Event State Label)) : Prop :=
  ∃ quiet event later, trace = quiet ++ event :: later ∧ Still frozen view start quiet ∧
    frozen event.before ∧ view event.before = view start ∧ thaws event

theorem Thawed.snoc {last : Event State Label}
    (thawed : Thawed frozen view thaws start trace) :
    Thawed frozen view thaws start (trace ++ [last]) := by
  obtain ⟨quiet, event, later, rfl, still, before, same, melts⟩ := thawed
  refine ⟨quiet, event, later ++ [last], ?_, still, before, same, melts⟩
  rw [List.append_assoc, List.cons_append]

/-- A run that begins frozen stays still, or does so up to the first step that thaws. -/
theorem Keeps.run (keeps : Keeps step frozen view thaws) (initially : frozen start)
    (run : Run step start trace final) :
    (Still frozen view start trace ∧ frozen final ∧ view final = view start) ∨
      Thawed frozen view thaws start trace := by
  induction run with
  | nil => exact .inl ⟨by simp [Still], initially, rfl⟩
  | @snoc trace before after label reached stepped ih =>
      rcases ih with ⟨still, held, same⟩ | thawed
      · rcases keeps before label after held stepped with melts | ⟨stays, kept⟩
        · exact .inr ⟨trace, ⟨before, label, after⟩, [], rfl, still, held, same, melts⟩
        · refine .inl ⟨?_, stays, kept.trans same⟩
          intro event member
          rcases List.mem_append.mp member with earlier | last
          · exact still event earlier
          · obtain rfl := List.mem_singleton.mp last
            exact ⟨stays, kept.trans same⟩
      · exact .inr thawed.snoc

end Freeze
