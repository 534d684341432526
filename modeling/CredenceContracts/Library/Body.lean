import CredenceContracts.Library.Outcome

/-!
# Bodies that answer with errors

A body works on a store and ends in one of three ways: it panics, and nothing of it
remains; it answers with a value; or it answers with an error, and what it wrote up to
there stays.  The first rules take such a body apart.  The last ones are about bodies
that check before they write: an error that such a body answers with leaves the store
as it was.
-/

/-- A computation on a store that may panic or answer with an error. -/
abbrev Body (σ ε φ α : Type) :=
  ExceptT ε (StateT σ (Except φ)) α

namespace Body

variable {σ ε φ α β : Type}

/-- The answer of a body and the store it leaves, unless it panics. -/
def exec (body : Body σ ε φ α) (store : σ) : Except φ (Except ε α × σ) :=
  body.run.run store

/-- Answer with an error when a condition holds. -/
def rejectIf (condition : Prop) [Decidable condition] (error : ε) : Body σ ε φ Unit :=
  if condition then throw error else pure ()

/-- Read an optional value, or answer with an error. -/
def okOr (value : Option α) (error : ε) : Body σ ε φ α :=
  match value with
  | some found => pure found
  | none => throw error

/-- Run a computation that panics where it fails. -/
def orPanic (computation : Except φ α) : Body σ ε φ α :=
  ExceptT.lift (StateT.lift computation)

section Inversion

variable {store after : σ} {error raised : ε} {result value : α}

@[simp] theorem exec_pure : (pure value : Body σ ε φ α).exec store = .ok (.ok value, store) :=
  rfl

@[simp] theorem exec_throw :
    (throw error : Body σ ε φ α).exec store = .ok (.error error, store) :=
  rfl

@[simp] theorem exec_get : (get : Body σ ε φ σ).exec store = .ok (.ok store, store) :=
  rfl

@[simp] theorem exec_modify {change : σ → σ} :
    (modify change : Body σ ε φ PUnit).exec store = .ok (.ok ⟨⟩, change store) :=
  rfl

theorem exec_bind {first : Body σ ε φ α} {next : α → Body σ ε φ β} :
    (first >>= next).exec store = (do
      let (answer, middle) ← first.exec store
      match answer with
      | .ok value => (next value).exec middle
      | .error error => return (.error error, middle)) := by
  unfold exec
  rw [ExceptT.run_bind, StateT.run_bind]
  cases first.run.run store with
  | error panicked => rfl
  | ok reached =>
      obtain ⟨answer, middle⟩ := reached
      cases answer <;> rfl

@[simp] theorem bind_eq_ok {first : Body σ ε φ α} {next : α → Body σ ε φ β} {result : β} :
    (first >>= next).exec store = .ok (.ok result, after) ↔
      ∃ value middle, first.exec store = .ok (.ok value, middle) ∧
        (next value).exec middle = .ok (.ok result, after) := by
  rw [exec_bind]
  cases first.exec store with
  | error panicked => simp
  | ok reached =>
      obtain ⟨answer, middle⟩ := reached
      cases answer <;> simp [and_assoc]

section Steps

variable {first : Body σ ε φ α} {next : α → Body σ ε φ β}

theorem exec_bind_of_ok (reached : first.exec store = .ok (.ok value, after)) :
    (first >>= next).exec store = (next value).exec after := by
  rw [exec_bind, reached]
  rfl

theorem exec_bind_of_error (answered : first.exec store = .ok (.error error, after)) :
    (first >>= next).exec store = .ok (.error error, after) := by
  rw [exec_bind, answered]
  rfl

theorem exec_bind_of_panic {panicked : φ} (stopped : first.exec store = .error panicked) :
    (first >>= next).exec store = .error panicked := by
  rw [exec_bind, stopped]
  rfl

end Steps

/-- A body that only reshapes the value of another leaves what that one does. -/
theorem ok_of_answer {first : Body σ ε φ α} {image : α → β} {result : β}
    (done : (first >>= fun value => pure (image value)).exec store =
      .ok (.ok result, after)) :
    ∃ value, first.exec store = .ok (.ok value, after) ∧ result = image value := by
  obtain ⟨value, middle, reached, answered⟩ := bind_eq_ok.mp done
  cases answered
  exact ⟨value, reached, rfl⟩

@[simp] theorem rejectIf_eq_ok {condition : Prop} [Decidable condition] {done : Unit} :
    (rejectIf condition error : Body σ ε φ Unit).exec store = .ok (.ok done, after) ↔
      ¬condition ∧ after = store := by
  unfold rejectIf
  split <;> simp_all [eq_comm]

theorem exec_rejectIf {condition : Prop} [Decidable condition] (holds : condition) :
    (rejectIf condition error : Body σ ε φ Unit).exec store = .ok (.error error, store) := by
  rw [rejectIf, if_pos holds]
  rfl

@[simp] theorem okOr_eq_ok {read : Option α} :
    (okOr read error : Body σ ε φ α).exec store = .ok (.ok result, after) ↔
      read = some result ∧ after = store := by
  cases read <;> simp [okOr, eq_comm]

theorem exec_orPanic {computation : Except φ α} :
    (orPanic computation : Body σ ε φ α).exec store =
      (fun value => (.ok value, store)) <$> computation := by
  cases computation <;> rfl

@[simp] theorem orPanic_eq_ok {computation : Except φ α} :
    (orPanic computation : Body σ ε φ α).exec store = .ok (.ok result, after) ↔
      computation = .ok result ∧ after = store := by
  rw [exec_orPanic]
  cases computation <;> simp [Functor.map, Except.map, eq_comm]

end Inversion

section Checking

/-- The body never writes. -/
def Silent (body : Body σ ε φ α) : Prop :=
  ∀ ⦃store after : σ⦄ ⦃answer : Except ε α⦄, body.exec store = .ok (answer, after) →
    after = store

/-- The body never answers with an error. -/
def Unfailing (body : Body σ ε φ α) : Prop :=
  ∀ ⦃store after : σ⦄ ⦃error : ε⦄, body.exec store ≠ .ok (.error error, after)

/-- An error that the body answers with leaves the store as it was. -/
def Atomic (body : Body σ ε φ α) : Prop :=
  ∀ ⦃store after : σ⦄ ⦃error : ε⦄, body.exec store = .ok (.error error, after) →
    after = store

variable {first : Body σ ε φ α} {next : α → Body σ ε φ β}

/-- An error of two bodies in a row is the error of one of them. -/
theorem bind_eq_error {store after : σ} {error : ε} :
    (first >>= next).exec store = .ok (.error error, after) ↔
      first.exec store = .ok (.error error, after) ∨
        ∃ value middle, first.exec store = .ok (.ok value, middle) ∧
          (next value).exec middle = .ok (.error error, after) := by
  rw [exec_bind]
  cases first.exec store with
  | error panicked => simp
  | ok reached =>
      obtain ⟨answer, middle⟩ := reached
      cases answer <;> simp [pure, Except.pure, and_assoc]

theorem Silent.pure {value : α} : Silent (pure value : Body σ ε φ α) := by
  intro store after answer done
  exact (Prod.mk.inj (Except.ok.inj done)).2.symm

theorem Silent.bind (silent : Silent first) (onward : ∀ value, Silent (next value)) :
    Silent (first >>= next) := by
  intro store after answer done
  cases answer with
  | ok result =>
      obtain ⟨value, middle, passed, late⟩ := bind_eq_ok.mp done
      rw [onward value late, silent passed]
  | error raised =>
      rcases bind_eq_error.mp done with early | ⟨value, middle, passed, late⟩
      · exact silent early
      · rw [onward value late, silent passed]

theorem Silent.get : Silent (get : Body σ ε φ σ) := by
  intro store after answer done
  exact (Prod.mk.inj (Except.ok.inj done)).2.symm

theorem Silent.rejectIf {condition : Prop} [Decidable condition] {error : ε} :
    Silent (rejectIf condition error : Body σ ε φ Unit) := by
  intro store after answer done
  unfold Body.rejectIf at done
  split at done <;> exact (Prod.mk.inj (Except.ok.inj done)).2.symm

theorem Silent.okOr {read : Option α} {error : ε} :
    Silent (okOr read error : Body σ ε φ α) := by
  intro store after answer done
  cases read <;> exact (Prod.mk.inj (Except.ok.inj done)).2.symm

theorem Silent.orPanic {computation : Except φ α} :
    Silent (orPanic computation : Body σ ε φ α) := by
  intro store after answer done
  rw [exec_orPanic] at done
  obtain ⟨value, -, same⟩ := Outcome.map_eq_ok.mp done
  exact (Prod.mk.inj same).2

theorem Unfailing.pure {value : α} : Unfailing (pure value : Body σ ε φ α) := by
  intro store after error done
  cases done

theorem Unfailing.modify {change : σ → σ} :
    Unfailing (modify change : Body σ ε φ PUnit) := by
  intro store after error done
  cases done

theorem Unfailing.orPanic {computation : Except φ α} :
    Unfailing (orPanic computation : Body σ ε φ α) := by
  intro store after error done
  rw [exec_orPanic] at done
  obtain ⟨value, -, same⟩ := Outcome.map_eq_ok.mp done
  cases same

theorem Unfailing.bind (sure : Unfailing first)
    (onward : ∀ value, Unfailing (next value)) : Unfailing (first >>= next) := by
  intro store after error done
  rcases bind_eq_error.mp done with early | ⟨value, middle, -, late⟩
  · exact sure early
  · exact onward value late

theorem Unfailing.atomic (unfailing : Unfailing first) : Atomic first :=
  fun _ _ _ failed => (unfailing failed).elim

/-- A check before an atomic body makes an atomic body. -/
theorem Atomic.check (checks : Silent first) (onward : ∀ value, Atomic (next value)) :
    Atomic (first >>= next) := by
  intro store after error failed
  rcases bind_eq_error.mp failed with early | ⟨value, middle, passed, late⟩
  · exact checks early
  · rw [onward value late, checks passed]

/-- What cannot fail after an atomic body leaves it atomic. -/
theorem Atomic.bind (atomic : Atomic first) (onward : ∀ value, Unfailing (next value)) :
    Atomic (first >>= next) := by
  intro store after error failed
  rcases bind_eq_error.mp failed with early | ⟨value, middle, -, late⟩
  · exact atomic early
  · exact (onward value late).elim

end Checking

end Body
