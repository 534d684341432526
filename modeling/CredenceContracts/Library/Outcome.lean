import Mathlib.Logic.Basic

/-!
# Fallible computations by inversion

A transaction that reverts leaves nothing behind, so the only thing worth
knowing about a fallible computation is what it took for it to succeed.  Each
lemma here turns one success equation into the conditions it stands for; the
simp set they form takes a whole do block apart.
-/

namespace Outcome

variable {ε α β : Type}

/-- Abort with a fixed failure when a condition holds. -/
def rejectIf (condition : Prop) [Decidable condition] (failure : ε) : Except ε Unit :=
  if condition then .error failure else .ok ()

/-- Read an optional value, or abort with a fixed failure. -/
def unwrapOr (value : Option α) (failure : ε) : Except ε α :=
  match value with
  | some found => .ok found
  | none => .error failure

@[simp] theorem rejectIf_eq_ok {condition : Prop} [Decidable condition] {failure : ε}
    {result : Unit} : rejectIf condition failure = .ok result ↔ ¬condition := by
  unfold rejectIf
  split <;> simp_all

@[simp] theorem unwrapOr_eq_ok {value : Option α} {failure : ε} {result : α} :
    unwrapOr value failure = .ok result ↔ value = some result := by
  cases value <;> simp [unwrapOr]

@[simp] theorem bind_eq_ok {first : Except ε α} {next : α → Except ε β} {result : β} :
    (first >>= next) = .ok result ↔
      ∃ middle, first = .ok middle ∧ next middle = .ok result := by
  cases first with
  | error failure => simp [bind, Except.bind]
  | ok middle => simp [bind, Except.bind]

@[simp] theorem pure_eq_ok {value result : α} :
    (pure value : Except ε α) = .ok result ↔ result = value := by
  simp [pure, Except.pure, eq_comm]

@[simp] theorem map_eq_ok {first : Except ε α} {image : α → β} {result : β} :
    (image <$> first) = .ok result ↔ ∃ middle, first = .ok middle ∧ result = image middle := by
  cases first with
  | error failure => simp [Functor.map, Except.map]
  | ok middle => simp [Functor.map, Except.map, eq_comm]

/-- What maps the result of a computation succeeds with the image of its result. -/
theorem ok_of_map (image : α → β) {first : Except ε α} {mapped : Except ε β} {result : α}
    (same : mapped = image <$> first) (done : first = .ok result) :
    mapped = .ok (image result) :=
  same.trans (map_eq_ok.mpr ⟨result, done, rfl⟩)

@[simp] theorem rejectIf_eq_error {condition : Prop} [Decidable condition]
    {failure raised : ε} :
    rejectIf condition failure = .error raised ↔ condition ∧ failure = raised := by
  unfold rejectIf
  split <;> simp_all

@[simp] theorem unwrapOr_eq_error {value : Option α} {failure raised : ε} :
    unwrapOr value failure = .error raised ↔ value = none ∧ failure = raised := by
  cases value <;> simp [unwrapOr]

@[simp] theorem bind_eq_error {first : Except ε α} {next : α → Except ε β} {raised : ε} :
    (first >>= next) = .error raised ↔
      first = .error raised ∨ ∃ middle, first = .ok middle ∧ next middle = .error raised := by
  cases first with
  | error failure => simp [bind, Except.bind]
  | ok middle => simp [bind, Except.bind]

/-- A failure that no part of a sequence raises is not raised by the sequence. -/
theorem bind_ne_error {first : Except ε α} {next : α → Except ε β} {raised : ε}
    (head : first ≠ .error raised)
    (tail : ∀ middle, first = .ok middle → next middle ≠ .error raised) :
    (first >>= next) ≠ .error raised := by
  intro failed
  rcases bind_eq_error.mp failed with early | ⟨middle, passed, late⟩
  · exact head early
  · exact tail middle passed late

@[simp] theorem pure_ne_error {value : α} {raised : ε} :
    (pure value : Except ε α) = .error raised ↔ False := by
  simp [pure, Except.pure]

@[simp] theorem map_eq_error {first : Except ε α} {image : α → β} {raised : ε} :
    (image <$> first) = .error raised ↔ first = .error raised := by
  cases first with
  | error failure => simp [Functor.map, Except.map]
  | ok middle => simp [Functor.map, Except.map]

/-- A computation that can be seen to succeed has a result. -/
theorem exists_of_isOk {computation : Except ε α} (succeeds : computation.isOk = true) :
    ∃ result, computation = .ok result := by
  cases computation with
  | error failure => simp [Except.isOk, Except.toBool] at succeeds
  | ok result => exact ⟨result, rfl⟩

@[simp] theorem exists_unit_eq_ok {check : Except ε Unit} :
    (∃ result, check = .ok result) ↔ check = .ok () :=
  ⟨fun ⟨(), passed⟩ => passed, fun passed => ⟨(), passed⟩⟩

@[simp] theorem toOption_eq_some {computation : Except ε α} {result : α} :
    computation.toOption = some result ↔ computation = .ok result := by
  cases computation <;> simp [Except.toOption]

/-- Looking up what is there fails nowhere. -/
theorem mapM_unwrapOr {ι : Type} {entry : ι → Option α} {failure : ε} {keys : List ι}
    (found : ∀ key ∈ keys, (entry key).isSome = true) :
    keys.mapM (fun key => unwrapOr (entry key) failure) = .ok (keys.filterMap entry) := by
  induction keys with
  | nil => rfl
  | cons key rest ih =>
      obtain ⟨first, others⟩ := List.forall_mem_cons.mp found
      obtain ⟨value, here⟩ := Option.isSome_iff_exists.mp first
      rw [List.mapM_cons, ih others, here, List.filterMap_cons_some here]
      rfl

end Outcome
