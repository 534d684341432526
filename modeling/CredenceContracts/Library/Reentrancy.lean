import CredenceContracts.Library.Outcome

/-!
# Re-entry under a lock

An action of a component can notify another one, which runs a program of actions of
the first before the notifying action ends.  Where the actions that notify hold a lock
that they must find free, and the others do the same whether it is held or free, such
a program does what its successful actions do after the notifying one.
-/

namespace Reentrancy

/-- A finite program of actions.  What it does next may depend on every outcome before,
and it says what to run for each notification that its own actions send. -/
inductive Program (Action Topic Result : Type) where
  | finish
  | abort
  | attempt (action : Action) (callbacks : Topic → Program Action Topic Result)
      (next : Result → Program Action Topic Result)

variable {State Action Topic ε : Type}

section Running

/-- What a component does in an action, given what is done for each notification. -/
abbrev Performs (State Action Topic ε : Type) : Type :=
  (Topic → State → Option State) → Action → State → Except ε State

variable (perform : Performs State Action Topic ε)

/-- The state after a program, unless it aborts, and its successful actions in order.  A
failed action has no effect, and the program goes on. -/
def Program.run : Program Action Topic (Except ε State) → State → Option State × List Action
  | .finish, state => (some state, [])
  | .abort, _ => (none, [])
  | .attempt action callbacks next, state =>
      match perform (fun topic told => ((callbacks topic).run told).1) action state with
      | .ok after =>
          let rest := (next (.ok after)).run after
          (rest.1, action :: rest.2)
      | .error failure => (next (.error failure)).run state

/-- Nothing is done for any notification. -/
def silent : Topic → State → Option State :=
  fun _ => some

/-- The state after actions one after the other, with nothing done for notifications. -/
def serial (actions : List Action) (state : State) : Except ε State :=
  actions.foldlM (fun state action => perform silent action state) state

end Running

section Discipline

/-- Guarded actions find the lock free; the others do not ask for it, do not change it
and notify no one. -/
structure Discipline (perform : Performs State Action Topic ε) (guarded : Action → Bool)
    (locked : State → Bool) (withLock : State → Bool → State) : Prop where
  found : ∀ {callback action state after}, guarded action = true →
    perform callback action state = .ok after → locked state = false
  kept : ∀ {callback action state after}, guarded action = false →
    perform callback action state = .ok after → locked after = locked state
  replaced : ∀ {callback action state after} (other : Topic → State → Option State)
    (lock : Bool), guarded action = false → perform callback action state = .ok after →
      perform other action (withLock state lock) = .ok (withLock after lock)

variable {perform : Performs State Action Topic ε} {guarded : Action → Bool}
variable {locked : State → Bool} {withLock : State → Bool → State}
variable {state final : State} {program : Program Action Topic (Except ε State)}

theorem Discipline.unguarded (discipline : Discipline perform guarded locked withLock)
    {callback : Topic → State → Option State} {action : Action} {after : State}
    (held : locked state = true) (performed : perform callback action state = .ok after) :
    guarded action = false := by
  rw [← Bool.not_eq_true]
  intro guards
  simp [discipline.found guards performed] at held

/-- While the lock is held, a program has no success with a guarded action. -/
theorem Discipline.run_unguarded (discipline : Discipline perform guarded locked withLock)
    (held : locked state = true) :
    ∀ action ∈ (program.run perform state).2, guarded action = false := by
  induction program generalizing state with
  | finish | abort => simp [Program.run]
  | attempt action callbacks next _ ih =>
      simp only [Program.run]
      split
      · rename_i after performed
        have unguarded := discipline.unguarded held performed
        have holds := (discipline.kept unguarded performed).trans held
        exact List.forall_mem_cons.mpr ⟨unguarded, ih (.ok after) holds⟩
      · rename_i failure failed
        exact ih (.error failure) held

/-- While the lock is held, a program does what its successful actions do with the lock
held or free. -/
theorem Discipline.run_serial (discipline : Discipline perform guarded locked withLock)
    (held : locked state = true) (done : (program.run perform state).1 = some final) :
    locked final = true ∧ ∀ lock,
      serial perform (program.run perform state).2 (withLock state lock) =
        .ok (withLock final lock) := by
  induction program generalizing state with
  | finish =>
      obtain rfl := Option.some.inj done
      exact ⟨held, fun _ => rfl⟩
  | abort => cases done
  | attempt action callbacks next _ ih =>
      simp only [Program.run] at done ⊢
      split at done
      · rename_i after performed
        have unguarded := discipline.unguarded held performed
        have holds := (discipline.kept unguarded performed).trans held
        obtain ⟨still, rest⟩ := ih (.ok after) holds done
        refine ⟨still, fun lock => ?_⟩
        rw [serial, List.foldlM_cons, discipline.replaced silent lock unguarded performed]
        exact rest lock
      · rename_i failure failed
        exact ih (.error failure) held done

end Discipline

end Reentrancy
