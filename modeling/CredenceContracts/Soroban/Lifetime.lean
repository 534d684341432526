import CredenceContracts.Soroban.Host
import Mathlib.Logic.Function.Basic
import Mathlib.Order.Nat

/-!
# Entry lifetimes

A persistent entry lives up to some ledger, and what is left of that is its time to
live.  A contract extends it where it is below a threshold; a write gives a lifetime
to a new entry only.
-/

namespace Soroban

/-- The ledgers that an entry has left to live. -/
def Env.ttl (env : Env) (liveUntil : Nat) : Nat :=
  liveUntil - env.sequence

/-- The last ledger of an entry after an extension, which has an effect on a time to
live below the threshold only. -/
def extendTtl (env : Env) (threshold extendTo liveUntil : Nat) : Nat :=
  if env.ttl liveUntil < threshold then env.sequence + extendTo else liveUntil

theorem le_extendTtl {env : Env} {threshold extendTo liveUntil : Nat}
    (below : threshold ≤ extendTo) : liveUntil ≤ extendTtl env threshold extendTo liveUntil := by
  unfold extendTtl Env.ttl
  split <;> omega

@[simp] theorem ttl_extendTtl {env : Env} {threshold extendTo liveUntil : Nat} :
    env.ttl (extendTtl env threshold extendTo liveUntil) =
      if env.ttl liveUntil < threshold then extendTo else env.ttl liveUntil := by
  unfold extendTtl
  split
  · simp [Env.ttl]
  · rfl

/-- The last ledger of every entry that is there. -/
abbrev Lifetimes (Key : Type) :=
  Key → Option Nat

namespace Lifetimes

variable {Key : Type}

/-- The time to live of an entry, or of a new one where there is none. -/
def ttl (lifetimes : Lifetimes Key) (env : Env) (minTtl : Nat) (key : Key) : Nat :=
  ((lifetimes key).map env.ttl).getD (minTtl - 1)

/-- The entry is there and has at least these ledgers left. -/
def LivesFor (lifetimes : Lifetimes Key) (env : Env) (needed : Nat) (key : Key) : Prop :=
  ∃ liveUntil, lifetimes key = some liveUntil ∧ needed ≤ env.ttl liveUntil

/-- One entry lives at least as long as before. -/
def Lasts (before after : Lifetimes Key) (key : Key) : Prop :=
  ∀ liveUntil, before key = some liveUntil →
    ∃ later, after key = some later ∧ liveUntil ≤ later

variable {lifetimes after last : Lifetimes Key} {env : Env} {key other : Key}
variable {minTtl threshold extendTo : Nat}

theorem livesFor_iff {needed : Nat} (minTtl : Nat) (present : (lifetimes key).isSome = true) :
    lifetimes.LivesFor env needed key ↔ needed ≤ lifetimes.ttl env minTtl key := by
  obtain ⟨liveUntil, found⟩ := Option.isSome_iff_exists.mp present
  simp [LivesFor, ttl, found]

theorem Lasts.refl (lifetimes : Lifetimes Key) (key : Key) : lifetimes.Lasts lifetimes key :=
  fun liveUntil found => ⟨liveUntil, found, le_rfl⟩

theorem Lasts.trans (first : lifetimes.Lasts after key) (second : after.Lasts last key) :
    lifetimes.Lasts last key := by
  intro liveUntil found
  obtain ⟨middle, kept, below⟩ := first liveUntil found
  obtain ⟨later, stays, above⟩ := second middle kept
  exact ⟨later, stays, below.trans above⟩

variable [DecidableEq Key]

/-- Write an entry: a new one gets the least lifetime of the network. -/
def write (lifetimes : Lifetimes Key) (env : Env) (minTtl : Nat) (key : Key) : Lifetimes Key :=
  Function.update lifetimes key
    (some ((lifetimes key).getD (env.sequence + (minTtl - 1))))

/-- Extend the lifetime of an entry, if it is there. -/
def extend (lifetimes : Lifetimes Key) (env : Env) (key : Key) (threshold extendTo : Nat) :
    Lifetimes Key :=
  Function.update lifetimes key ((lifetimes key).map (extendTtl env threshold extendTo))

def remove (lifetimes : Lifetimes Key) (key : Key) : Lifetimes Key :=
  Function.update lifetimes key none

theorem lasts_write : lifetimes.Lasts (lifetimes.write env minTtl other) key := by
  intro liveUntil found
  by_cases same : key = other
  · subst same
    exact ⟨liveUntil, by simp [write, found], le_rfl⟩
  · exact ⟨liveUntil, by simp [write, Function.update_of_ne same, found], le_rfl⟩

theorem lasts_extend (below : threshold ≤ extendTo) :
    lifetimes.Lasts (lifetimes.extend env other threshold extendTo) key := by
  intro liveUntil found
  by_cases same : key = other
  · subst same
    refine ⟨extendTtl env threshold extendTo liveUntil, ?_, le_extendTtl below⟩
    simp only [extend, found, Function.update_self, Option.map_some]
  · exact ⟨liveUntil, by simp [extend, Function.update_of_ne same, found], le_rfl⟩

theorem lasts_remove (different : key ≠ other) :
    lifetimes.Lasts (lifetimes.remove other) key := by
  intro liveUntil found
  exact ⟨liveUntil, by simp [remove, Function.update_of_ne different, found], le_rfl⟩

/-- A write neither shortens nor prolongs a lifetime. -/
@[simp] theorem ttl_write :
    (lifetimes.write env minTtl key).ttl env minTtl other = lifetimes.ttl env minTtl other := by
  unfold ttl write
  by_cases same : other = key
  · subst same
    cases lifetimes other with
    | none => simp [Env.ttl]
    | some liveUntil => simp
  · rw [Function.update_of_ne same]

@[simp] theorem ttl_extend_of_ne (different : other ≠ key) :
    (lifetimes.extend env key threshold extendTo).ttl env minTtl other =
      lifetimes.ttl env minTtl other := by
  unfold ttl extend
  rw [Function.update_of_ne different]

theorem ttl_extend (present : (lifetimes key).isSome = true) :
    (lifetimes.extend env key threshold extendTo).ttl env minTtl key =
      if lifetimes.ttl env minTtl key < threshold then extendTo
      else lifetimes.ttl env minTtl key := by
  obtain ⟨liveUntil, found⟩ := Option.isSome_iff_exists.mp present
  simp [ttl, extend, found]

@[simp] theorem isSome_write :
    ((lifetimes.write env minTtl key) other).isSome =
      (decide (other = key) || (lifetimes other).isSome) := by
  unfold write
  by_cases same : other = key
  · simp [same]
  · simp [same]

@[simp] theorem isSome_extend :
    ((lifetimes.extend env key threshold extendTo) other).isSome = (lifetimes other).isSome := by
  unfold extend
  by_cases same : other = key
  · simp [same]
  · simp [same]

end Lifetimes

end Soroban
