import CredenceContracts.Template.Contract

/-!
# Records as leases

What the reads return of an owner is a matter of the calls of the admin and of the clock.
Anyone may have an expired record removed, and shows no more by it than that it is gone.
-/

namespace Template

open Soroban Transition

section Abstract

/-- The record of the owner after a call, where none is ever removed for its expiry. -/
def granted (owner : Address) (lease : Option Record) (label : Label) : Option Record :=
  match label.call with
  | .setRecord holder value expiresAt =>
      if holder = owner then
        some { value, updatedAt := label.env.timestamp, expiresAt }
      else
        lease
  | .removeRecord holder => if holder = owner then none else lease
  | _ => lease

/-- The record that the admin left the owner with. -/
def leaseOf (owner : Address) (trace : List (Event Storage Label)) : Option Record :=
  (trace.map Event.label).foldl (granted owner) none

/-- The event sets or removes the record of the owner. -/
def Writes (owner : Address) (event : Event Storage Label) : Prop :=
  (∃ value expiresAt, event.label.call = .setRecord owner value expiresAt) ∨
    event.label.call = .removeRecord owner

/-- The event asks for the presence of the record after its expiry. -/
def Notices (owner : Address) (record : Record) (event : Event Storage Label) : Prop :=
  event.label.call = .hasRecord owner ∧ record.Expired event.label.env.timestamp

/-- The record was asked for after its expiry, and the owner has no other since. -/
def Noticed (owner : Address) (record : Record) (trace : List (Event Storage Label)) : Prop :=
  Since (Notices owner record) (Writes owner) trace

end Abstract

section Reads

variable {env : Env} {storage before after : Storage} {owner : Address} {admin : Address}
variable {event : Event Storage Label} {trace : List (Event Storage Label)} {record : Record}

theorem leaseOf_snoc :
    leaseOf owner (trace ++ [event]) = granted owner (leaseOf owner trace) event.label := by
  simp [leaseOf]

theorem noticed_snoc :
    Noticed owner record (trace ++ [event]) ↔
      Notices owner record event ∨ ¬Writes owner event ∧ Noticed owner record trace :=
  since_snoc

/-- A write leaves the same record whatever was there. -/
theorem granted_of_writes {lease other : Option Record} (writes : Writes owner event) :
    granted owner lease event.label = granted owner other event.label := by
  rcases writes with ⟨value, expiresAt, called⟩ | called <;> simp [granted, called]

/-- A call that does not write the record of the owner leaves it. -/
theorem granted_of_not_writes {lease : Option Record} (silent : ¬Writes owner event) :
    granted owner lease event.label = lease := by
  unfold granted
  split
  · rename_i holder value expiresAt called
    rw [if_neg]
    rintro rfl
    exact silent (.inl ⟨value, expiresAt, called⟩)
  · rename_i holder called
    rw [if_neg]
    rintro rfl
    exact silent (.inr called)
  · rfl

/-- Asking for a record that has not expired tells that it is there; asking for one that
has expired removes it. -/
theorem hasRecord_spec (env : Env) (storage : Storage) (holder : Address) :
    ∃ after present, hasRecord env storage holder = .ok (after, present) ∧
      after.admin = storage.admin ∧
      (present = true ↔
        ∃ record, storage.record holder = some record ∧ ¬record.Expired env.timestamp) ∧
      ∀ owner record, after.record owner = some record ↔ storage.record owner = some record ∧
        ¬(holder = owner ∧ record.Expired env.timestamp) := by
  unfold hasRecord
  cases found : storage.record holder with
  | none =>
      refine ⟨storage, false, rfl, rfl, by simp, ?_⟩
      intro owner record
      refine (and_iff_left_of_imp ?_).symm
      rintro shown ⟨rfl, -⟩
      rw [found] at shown
      cases shown
  | some stored =>
      by_cases expired : stored.Expired env.timestamp
      · simp only [if_pos expired]
        refine ⟨_, false, rfl, rfl, by simp [expired], ?_⟩
        intro owner record
        by_cases same : owner = holder
        · subst same
          simp only [Function.update_self, found]
          constructor
          · nofun
          · rintro ⟨⟨⟩, kept⟩
            exact absurd ⟨trivial, expired⟩ kept
        · simp [Function.update_of_ne same, Ne.symm same]
      · simp only [if_neg expired]
        refine ⟨storage, true, rfl, rfl, by simp [expired], ?_⟩
        intro owner record
        refine (and_iff_left_of_imp ?_).symm
        rintro shown ⟨rfl, gone⟩
        rw [found] at shown
        obtain rfl := Option.some.inj shown
        exact expired gone

theorem not_notices {env : Env} {call : Call} (other : ∀ holder, call ≠ .hasRecord holder) :
    ¬Notices owner record ⟨before, ⟨env, call⟩, after⟩ :=
  fun notices => other owner notices.1

/-- After a step the owner has the record that the call grants, unless the call notices
its expiry. -/
theorem record_of_step {label : Label} (stepped : Step before label after) :
    after.record owner = some record ↔
      granted owner (before.record owner) label = some record ∧
        ¬Notices owner record ⟨before, label, after⟩ := by
  obtain ⟨env, call⟩ := label
  cases call with
  | initializeTemplate admin =>
      simp only [Step, invoke, initializeTemplate, Outcome.bind_eq_ok, Outcome.pure_eq_ok]
        at stepped
      obtain ⟨-, -, rfl⟩ := stepped
      exact (and_iff_left (not_notices (by simp))).symm
  | setRecord holder value expiresAt =>
      simp only [Step, invoke, setRecord, Outcome.bind_eq_ok, Outcome.pure_eq_ok] at stepped
      obtain ⟨-, -, -, -, rfl⟩ := stepped
      rw [and_iff_left (not_notices (by simp))]
      simp [granted, Function.update_apply, eq_comm (a := holder)]
  | removeRecord holder =>
      simp only [Step, invoke, removeRecord, Outcome.bind_eq_ok, Outcome.pure_eq_ok] at stepped
      obtain ⟨-, -, -, -, rfl⟩ := stepped
      rw [and_iff_left (not_notices (by simp))]
      simp [granted, Function.update_apply, eq_comm (a := holder)]
  | hasRecord holder =>
      obtain ⟨_, _, done, -, -, kept⟩ := hasRecord_spec env before holder
      obtain ⟨⟨_, present⟩, asked, rfl⟩ := Outcome.map_eq_ok.mp stepped
      obtain ⟨rfl, -⟩ := Prod.mk.inj (Except.ok.inj (done.symm.trans asked))
      rw [kept]
      simp [granted, Notices]

/-- A record is stored as long as the admin leaves it and nobody noticed its expiry. -/
theorem record_of_run (run : Run Step .deployed trace storage) :
    storage.record owner = some record ↔
      leaseOf owner trace = some record ∧ ¬Noticed owner record trace := by
  apply run.history (motive := fun trace storage => storage.record owner = some record ↔
    leaseOf owner trace = some record ∧ ¬Noticed owner record trace)
  · simp [Storage.deployed, leaseOf]
  · intro trace event _ shown stepped
    rw [record_of_step stepped, leaseOf_snoc, noticed_snoc]
    by_cases writes : Writes owner event
    · have same : granted owner (event.before.record owner) event.label =
          granted owner (leaseOf owner trace) event.label := granted_of_writes writes
      simp [writes, same]
    · rw [granted_of_not_writes writes, granted_of_not_writes writes, shown]
      simp only [writes, not_false_eq_true, true_and, not_or]
      tauto

/-- The admin is never replaced. -/
theorem admin_of_step {label : Label} (named : before.admin = some admin)
    (stepped : Step before label after) : after.admin = some admin := by
  obtain ⟨env, call⟩ := label
  cases call with
  | initializeTemplate other =>
      simp only [Step, invoke, initializeTemplate, Outcome.bind_eq_ok, Outcome.rejectIf_eq_ok]
        at stepped
      obtain ⟨-, fresh, -⟩ := stepped
      simp [named] at fresh
  | setRecord holder value expiresAt =>
      simp only [Step, invoke, setRecord, Outcome.bind_eq_ok, Outcome.pure_eq_ok] at stepped
      obtain ⟨-, -, -, -, rfl⟩ := stepped
      exact named
  | removeRecord holder =>
      simp only [Step, invoke, removeRecord, Outcome.bind_eq_ok, Outcome.pure_eq_ok] at stepped
      obtain ⟨-, -, -, -, rfl⟩ := stepped
      exact named
  | hasRecord holder =>
      obtain ⟨_, _, done, same, -⟩ := hasRecord_spec env before holder
      obtain ⟨⟨_, present⟩, asked, rfl⟩ := Outcome.map_eq_ok.mp stepped
      obtain ⟨rfl, -⟩ := Prod.mk.inj (Except.ok.inj (done.symm.trans asked))
      exact same.trans named

/-- A write is signed by the admin. -/
theorem signed_of_step (writes : Writes owner event)
    (stepped : Step event.before event.label event.after) :
    ∃ admin, event.before.admin = some admin ∧ event.label.env.authorized admin = true := by
  obtain ⟨before, ⟨env, call⟩, after⟩ := event
  rcases writes with ⟨value, expiresAt, rfl⟩ | rfl <;>
    simp only [Step, invoke, setRecord, removeRecord, Outcome.bind_eq_ok,
      Outcome.unwrapOr_eq_ok, requireAuth_eq_ok] at stepped <;>
    obtain ⟨admin, named, _, signed, -⟩ := stepped
  all_goals exact ⟨admin, named, signed⟩

theorem signed_of_run (run : Run Step .deployed trace storage) :
    ∀ event ∈ trace, Writes owner event →
      ∃ admin, storage.admin = some admin ∧ event.label.env.authorized admin = true := by
  intro event member writes
  obtain ⟨earlier, later, position⟩ := List.append_of_mem member
  obtain ⟨-, stepped, onward⟩ := run.split position
  obtain ⟨admin, named, signed⟩ := signed_of_step writes stepped
  refine ⟨admin, ?_, signed⟩
  exact onward.invariant (fun storage => storage.admin = some admin)
    (admin_of_step named stepped) fun event named stepped => admin_of_step named stepped

/-- What was noticed has expired by now, unless time ran backwards. -/
theorem expired_of_noticed (noticed : Noticed owner record trace)
    (past : ∀ event ∈ trace, event.label.env.timestamp ≤ env.timestamp) :
    record.Expired env.timestamp := by
  obtain ⟨earlier, event, later, rfl, notices, -⟩ := noticed
  exact ⟨notices.2.1, notices.2.2.trans (past event (by simp))⟩

/-- A record that has not expired is stored just when the admin left it. -/
theorem current_of_run (run : Run Step .deployed trace storage)
    (past : ∀ event ∈ trace, event.label.env.timestamp ≤ env.timestamp) :
    storage.record owner = some record ∧ ¬record.Expired env.timestamp ↔
      leaseOf owner trace = some record ∧ ¬record.Expired env.timestamp := by
  rw [record_of_run run, and_right_comm]
  refine and_iff_left_of_imp ?_
  exact fun current noticed => current.2 (expired_of_noticed noticed past)

theorem getRecord_eq_ok : getRecord env storage owner = .ok record ↔
    storage.record owner = some record ∧ ¬record.Expired env.timestamp := by
  simp only [getRecord, Outcome.bind_eq_ok, Outcome.unwrapOr_eq_ok, Outcome.rejectIf_eq_ok,
    Outcome.pure_eq_ok]
  constructor
  · rintro ⟨_, found, _, current, rfl⟩
    exact ⟨found, current⟩
  · rintro ⟨found, current⟩
    exact ⟨record, found, (), current, rfl⟩

theorem isExpired_eq_true : isExpired env storage owner = true ↔
    ∃ record, storage.record owner = some record ∧ record.Expired env.timestamp := by
  unfold isExpired
  split <;> rename_i found <;> simp [found]

/-- What the reads return of an owner follows from the writes of the admin alone, as long
as the clock never runs backwards.  Only the question whether a record has expired is
answered otherwise once anyone noticed the expiry: there is no record any more. -/
theorem reads_follow_leases (run : Run Step .deployed trace storage)
    (past : ∀ event ∈ trace, event.label.env.timestamp ≤ env.timestamp) (owner : Address) :
    (∀ event ∈ trace, Writes owner event →
      ∃ admin, storage.admin = some admin ∧ event.label.env.authorized admin = true) ∧
    (∀ record, getRecord env storage owner = .ok record ↔
      leaseOf owner trace = some record ∧ ¬record.Expired env.timestamp) ∧
    (∃ after present, hasRecord env storage owner = .ok (after, present) ∧
      (present = true ↔
        ∃ record, leaseOf owner trace = some record ∧ ¬record.Expired env.timestamp)) ∧
    (isExpired env storage owner = true ↔ ∃ record, leaseOf owner trace = some record ∧
      record.Expired env.timestamp ∧ ¬Noticed owner record trace) := by
  refine ⟨signed_of_run run, ?_, ?_, ?_⟩
  · exact fun record => getRecord_eq_ok.trans (current_of_run run past)
  · obtain ⟨after, present, asked, -, told, -⟩ := hasRecord_spec env storage owner
    refine ⟨after, present, asked, told.trans ?_⟩
    exact exists_congr fun record => current_of_run run past
  · rw [isExpired_eq_true]
    apply exists_congr
    intro record
    rw [record_of_run run, and_assoc, and_comm (a := ¬Noticed owner record trace)]

/-- A record expires and is removed when a stranger asks for it. -/
theorem reads_follow_leases_sample :
    ∃ trace storage, Run Step .deployed trace storage ∧
      leaseOf ⟨5⟩ trace = some ⟨70, 2, 10⟩ ∧
        ¬∃ record, getRecord (.signedByAll ⟨0⟩ 12) storage ⟨5⟩ = .ok record := by
  obtain ⟨storage, followed⟩ : ∃ storage, replay next .deployed
      [ ⟨.signedByAll ⟨0⟩ 1, .initializeTemplate ⟨1⟩⟩,
        ⟨.signedBy ⟨1⟩ ⟨0⟩ 2, .setRecord ⟨5⟩ 70 10⟩,
        ⟨.signedBy ⟨9⟩ ⟨0⟩ 11, .hasRecord ⟨5⟩⟩ ] = some storage :=
    ⟨_, rfl⟩
  obtain ⟨trace, run, labels⟩ := run_of_replay step_of_next followed
  have lease : leaseOf ⟨5⟩ trace = some ⟨70, 2, 10⟩ := by
    rw [leaseOf, labels]
    rfl
  have past : ∀ event ∈ trace,
      event.label.env.timestamp ≤ (Env.signedByAll ⟨0⟩ 12).timestamp := by
    intro event member
    have listed : event.label ∈ trace.map Event.label := List.mem_map_of_mem member
    rw [labels] at listed
    simp only [List.mem_cons, List.not_mem_nil, or_false] at listed
    rcases listed with same | same | same <;> rw [same] <;> decide
  obtain ⟨-, reads, -⟩ := reads_follow_leases run past ⟨5⟩
  refine ⟨trace, storage, run, lease, ?_⟩
  rintro ⟨record, got⟩
  obtain ⟨left, current⟩ := (reads record).mp got
  obtain rfl := Option.some.inj (lease.symm.trans left)
  exact current (by decide)

end Reads

end Template
