import CredenceContracts.Timelock.Contract

/-!
# The timelock guarantee

What executes was queued by the admin a delay before, was not cancelled, and is
executed inside its window.  Operations may share a hash; the mark on the hash keeps a
second one from executing and from being queued.  The clock of the run is arbitrary.
-/

namespace Timelock

open Soroban Transition

variable {storage after : Storage} {label : Label} {trace : List (Event Storage Label)}

section History

/-- The event is a queueing, authorised by the admin, that creates the operation under
an id that held none. -/
def Queues (id : Nat) (op : QueuedOperation) (event : Event Storage Label) : Prop :=
  ∃ admin delay, event.label.call = .queueOperation admin op.opHash delay ∧
    AdminCall event.label.env event.before admin ∧
      event.before.operation id = none ∧ event.after.operation id = some op

/-- The event executes an operation that carries the hash. -/
def executes (opHash : BytesN 32) (event : Event Storage Label) : Bool :=
  match event.label.call with
  | .executeOperation id =>
      (event.before.operation id).any fun op => op.opHash = opHash
  | _ => false

/-- What the contract guarantees of its history. -/
structure Guaranteed (trace : List (Event Storage Label)) : Prop where
  /-- Every execution is of an operation queued at least a day before its eta, at a time
  between the eta and a day later, and no cancellation of it came before. -/
  executed : ∀ earlier event later, trace = earlier ++ event :: later →
    ∀ id, event.label.call = .executeOperation id →
      ∃ queueing ∈ earlier, ∃ op, Queues id op queueing ∧
        event.before.operation id = some op ∧
          queueing.label.env.timestamp + 86400 ≤ op.eta ∧
            op.eta ≤ event.label.env.timestamp ∧
              event.label.env.timestamp ≤ op.eta + 86400 ∧
                ∀ other ∈ earlier, ∀ admin, other.label.call ≠ .cancelOperation admin id
  once : ∀ opHash, (trace.filter (executes opHash)).length ≤ 1
  /-- An executed or cancelled operation never changes again. -/
  terminal : ∀ id op, op.status ≠ .pending →
    Lasting (fun storage => storage.operation id = some op) trace
  /-- An executed hash is never queued again. -/
  barred : ∀ earlier event later, trace = earlier ++ event :: later →
    ∀ opHash, executes opHash event = true →
      ∀ other ∈ later, ∀ proposer delay,
        other.label.call ≠ .queueOperation proposer opHash delay

end History

section Sound

/-- Operations are stored under ids that were handed out, and none before the contract
has an admin. -/
structure Sound (storage : Storage) : Prop where
  bounded : ∀ id op, storage.operation id = some op → id < storage.operationCounter
  empty : storage.admin = none → ∀ id, storage.operation id = none

theorem Sound.unused (sound : Sound storage) :
    storage.operation storage.operationCounter = none := by
  cases stored : storage.operation storage.operationCounter with
  | none => rfl
  | some op => exact absurd (sound.bounded _ op stored) (lt_irrefl _)

/-- An operation whose status alone changes is stored under the same id. -/
theorem Sound.update (sound : Sound storage) {id : Nat} {op changed : QueuedOperation}
    (stored : storage.operation id = some op)
    (operation : after.operation = Function.update storage.operation id (some changed))
    (counter : after.operationCounter = storage.operationCounter)
    (admin : after.admin = storage.admin) : Sound after := by
  constructor
  · intro other found present
    rw [counter]
    by_cases same : other = id
    · exact same ▸ sound.bounded id op stored
    · exact sound.bounded other found (by simpa [operation, same] using present)
  · intro unset
    have none := sound.empty (admin ▸ unset) id
    simp [stored] at none

theorem sound_deployed : Sound .deployed where
  bounded := by simp [Storage.deployed]
  empty := fun _ _ => rfl

theorem sound_step (sound : Sound storage) (stepped : Step storage label after) :
    Sound after := by
  obtain ⟨env, call⟩ := label
  cases call with
  | initializeTimelock admin =>
      obtain ⟨unset, rfl⟩ := initializeTimelock_eq_ok.mp stepped
      constructor
      · intro id op present
        simp [sound.empty unset id] at present
      · intro _ id
        exact sound.empty unset id
  | queueOperation proposer opHash delay =>
      obtain ⟨⟨_, id⟩, queued, rfl⟩ := Outcome.map_eq_ok.mp stepped
      obtain ⟨admin, _, _, _, _, _, rfl⟩ := queueOperation_eq_ok.mp queued
      constructor
      · intro other op present
        by_cases same : other = storage.operationCounter
        · simp [same]
        · have before := sound.bounded other op (by simpa [same] using present)
          exact before.trans (Nat.lt_succ_self _)
      · intro unset
        simp [admin.2] at unset
  | executeOperation id =>
      obtain ⟨op, stored, _, _, _, _, rfl⟩ := executeOperation_eq_ok.mp stepped
      exact sound.update stored rfl rfl rfl
  | cancelOperation admin id =>
      obtain ⟨_, op, stored, _, rfl⟩ := cancelOperation_eq_ok.mp stepped
      exact sound.update stored rfl rfl rfl

theorem sound_of_run (run : Run Step .deployed trace storage) : Sound storage :=
  run.invariant Sound sound_deployed fun _ sound stepped => sound_step sound stepped

/-- No step touches an operation that is no longer pending. -/
theorem settled_of_step (sound : Sound storage) (stepped : Step storage label after)
    {id : Nat} {op : QueuedOperation} (settled : op.status ≠ .pending)
    (stored : storage.operation id = some op) : after.operation id = some op := by
  obtain ⟨env, call⟩ := label
  have different {other : Nat} {pending : QueuedOperation}
      (found : storage.operation other = some pending) (status : pending.status = .pending) :
      id ≠ other := by
    rintro rfl
    obtain rfl : op = pending := Option.some.inj (stored.symm.trans found)
    exact settled status
  cases call with
  | initializeTimelock admin =>
      obtain ⟨unset, rfl⟩ := initializeTimelock_eq_ok.mp stepped
      exact stored
  | queueOperation proposer opHash delay =>
      obtain ⟨⟨_, created⟩, queued, rfl⟩ := Outcome.map_eq_ok.mp stepped
      obtain ⟨_, _, _, _, _, _, rfl⟩ := queueOperation_eq_ok.mp queued
      have old : id ≠ storage.operationCounter := (sound.bounded id op stored).ne
      simpa [old] using stored
  | executeOperation other =>
      obtain ⟨pending, found, status, _, _, _, rfl⟩ := executeOperation_eq_ok.mp stepped
      simpa [different found status] using stored
  | cancelOperation admin other =>
      obtain ⟨_, pending, found, status, rfl⟩ := cancelOperation_eq_ok.mp stepped
      simpa [different found status] using stored

end Sound

section Account

/-- The operation was queued by the event, at least the minimum delay before its eta. -/
def QueuedBy (id : Nat) (op : QueuedOperation) (event : Event Storage Label) : Prop :=
  Queues id { op with status := .pending } event ∧
    event.label.env.timestamp + minDelaySeconds ≤ op.eta ∧
      op.expiresAt = op.eta + gracePeriod

/-- A stored operation was queued by the last step, or was there before it and differs
in its status at most. -/
theorem origin_of_step (sound : Sound storage) (stepped : Step storage label after)
    {id : Nat} {op : QueuedOperation} (stored : after.operation id = some op) :
    QueuedBy id op ⟨storage, label, after⟩ ∨
      ∃ old, storage.operation id = some old ∧
        { op with status := .pending } = { old with status := .pending } := by
  obtain ⟨env, call⟩ := label
  have changed {other : Nat} {old new : QueuedOperation}
      (found : storage.operation other = some old)
      (update : after.operation = Function.update storage.operation other (some new))
      (alike : { new with status := .pending } = { old with status := .pending }) :
      ∃ old, storage.operation id = some old ∧
        { op with status := .pending } = { old with status := .pending } := by
    by_cases same : id = other
    · subst same
      obtain rfl : new = op := by simpa [update] using stored
      exact ⟨old, found, alike⟩
    · exact ⟨op, by simpa [update, same] using stored, rfl⟩
  cases call with
  | initializeTimelock admin =>
      obtain ⟨unset, rfl⟩ := initializeTimelock_eq_ok.mp stepped
      exact .inr ⟨op, stored, rfl⟩
  | queueOperation proposer opHash delay =>
      obtain ⟨⟨_, created⟩, queued, rfl⟩ := Outcome.map_eq_ok.mp stepped
      obtain ⟨admin, long, _, _, _, _, rfl⟩ := queueOperation_eq_ok.mp queued
      by_cases same : id = storage.operationCounter
      · subst same
        obtain rfl := Option.some.inj (stored.symm.trans (Function.update_self ..))
        refine .inl ⟨⟨proposer, delay, rfl, admin, sound.unused, stored⟩, ?_, rfl⟩
        exact Nat.add_le_add_left long _
      · exact .inr ⟨op, by simpa [same] using stored, rfl⟩
  | executeOperation other =>
      obtain ⟨pending, found, _, _, _, _, rfl⟩ := executeOperation_eq_ok.mp stepped
      exact .inr (changed found rfl rfl)
  | cancelOperation admin other =>
      obtain ⟨_, pending, found, _, rfl⟩ := cancelOperation_eq_ok.mp stepped
      exact .inr (changed found rfl rfl)

theorem queued_of_run (run : Run Step .deployed trace storage) {id : Nat}
    {op : QueuedOperation} (stored : storage.operation id = some op) :
    ∃ queueing ∈ trace, QueuedBy id op queueing := by
  induction run generalizing op with
  | nil => simp [Storage.deployed] at stored
  | @snoc trace before after label run stepped ih =>
      rcases origin_of_step (sound_of_run run) stepped stored with now | earlier
      · exact ⟨_, List.mem_append_right _ List.mem_cons_self, now⟩
      · obtain ⟨old, found, alike⟩ := earlier
        obtain ⟨queueing, member, queues, early, expires⟩ := ih found
        have eta : op.eta = old.eta := by simpa using congrArg QueuedOperation.eta alike
        have expiresAt : op.expiresAt = old.expiresAt := by
          simpa using congrArg QueuedOperation.expiresAt alike
        exact ⟨queueing, List.mem_append_left _ member, alike ▸ queues, eta ▸ early,
          by rw [eta, expiresAt, expires]⟩

theorem cancelled_of_step {admin : Address} {id : Nat}
    (stepped : Step storage label after) (called : label.call = .cancelOperation admin id) :
    ∃ op, after.operation id = some op ∧ op.status = .cancelled := by
  obtain ⟨env, call⟩ := label
  obtain rfl : call = .cancelOperation admin id := called
  obtain ⟨_, op, _, _, rfl⟩ := cancelOperation_eq_ok.mp stepped
  exact ⟨_, Function.update_self .., rfl⟩

/-- A cancelled operation is still stored as cancelled wherever the run ends. -/
theorem cancelled_of_run (run : Run Step .deployed trace storage)
    {event : Event Storage Label} (member : event ∈ trace) {admin : Address} {id : Nat}
    (called : event.label.call = .cancelOperation admin id) :
    ∃ op, storage.operation id = some op ∧ op.status = .cancelled := by
  induction run with
  | nil => simp at member
  | @snoc trace before after label run stepped ih =>
      rcases List.mem_append.mp member with earlier | last
      · obtain ⟨op, stored, status⟩ := ih earlier
        have settled : op.status ≠ .pending := by simp [status]
        exact ⟨op, settled_of_step (sound_of_run run) stepped settled stored, status⟩
      · obtain rfl := List.mem_singleton.mp last
        exact cancelled_of_step stepped called

end Account

section Hashes

/-- A step marks the hash that it executes and no other, and clears no mark. -/
theorem executedOp_of_step {opHash : BytesN 32} (stepped : Step storage label after) :
    isOperationExecuted after opHash = true ↔
      isOperationExecuted storage opHash = true ∨
        executes opHash ⟨storage, label, after⟩ = true := by
  obtain ⟨env, call⟩ := label
  unfold isOperationExecuted executes
  cases call with
  | initializeTimelock admin =>
      obtain ⟨_, rfl⟩ := initializeTimelock_eq_ok.mp stepped
      simp
  | queueOperation proposer opHash delay =>
      obtain ⟨⟨_, id⟩, queued, rfl⟩ := Outcome.map_eq_ok.mp stepped
      obtain ⟨_, _, _, _, _, _, rfl⟩ := queueOperation_eq_ok.mp queued
      simp
  | executeOperation id =>
      obtain ⟨op, stored, _, _, _, _, rfl⟩ := executeOperation_eq_ok.mp stepped
      by_cases same : opHash = op.opHash
      · simp [stored, same]
      · simp [stored, same, Ne.symm same]
  | cancelOperation admin id =>
      obtain ⟨_, _, _, _, rfl⟩ := cancelOperation_eq_ok.mp stepped
      simp

/-- An execution finds its hash unmarked. -/
theorem unmarked_of_executes {opHash : BytesN 32} {event : Event Storage Label}
    (executed : executes opHash event = true)
    (stepped : Step event.before event.label event.after) :
    isOperationExecuted event.before opHash = false := by
  obtain ⟨before, ⟨env, call⟩, after⟩ := event
  unfold executes at executed
  split at executed
  · rename_i id called
    obtain rfl : call = .executeOperation id := called
    obtain ⟨op, stored, _, _, _, unmarked, _⟩ := executeOperation_eq_ok.mp stepped
    obtain rfl : op.opHash = opHash := by
      simpa [show before.operation id = some op from stored] using executed
    exact unmarked
  · simp at executed

/-- A queueing finds its hash unmarked. -/
theorem unmarked_of_queue {proposer : Address} {opHash : BytesN 32} {delay : Nat}
    (stepped : Step storage label after)
    (called : label.call = .queueOperation proposer opHash delay) :
    isOperationExecuted storage opHash = false := by
  obtain ⟨env, call⟩ := label
  obtain rfl : call = .queueOperation proposer opHash delay := called
  obtain ⟨⟨_, id⟩, queued, rfl⟩ := Outcome.map_eq_ok.mp stepped
  exact (queueOperation_eq_ok.mp queued).2.2.1

theorem executed_stays {middle : Storage} {opHash : BytesN 32}
    (run : Run Step storage trace middle)
    (executed : isOperationExecuted storage opHash = true) :
    isOperationExecuted middle opHash = true :=
  run.invariant (fun storage => isOperationExecuted storage opHash = true) executed
    fun _ marked stepped => (executedOp_of_step stepped).mpr (.inl marked)

end Hashes

/-- Every run of the contract keeps the guarantee. -/
theorem timelock_guarantee (run : Run Step .deployed trace storage) : Guaranteed trace where
  executed := by
    intro earlier event later position id called
    obtain ⟨reached, stepped, -⟩ := run.split position
    obtain ⟨before, ⟨env, call⟩, after⟩ := event
    obtain rfl : call = .executeOperation id := called
    obtain ⟨op, stored, pending, ready, inTime, _, _⟩ := executeOperation_eq_ok.mp stepped
    obtain ⟨queueing, member, queues, early, expires⟩ := queued_of_run reached stored
    have same : { op with status := .pending } = op := by simp [← pending]
    refine ⟨queueing, member, op, same ▸ queues, stored, early, ready, ?_, ?_⟩
    · exact inTime.trans expires.le
    · intro other passed admin cancelling
      obtain ⟨stale, found, status⟩ := cancelled_of_run reached passed cancelling
      obtain rfl : op = stale := Option.some.inj (stored.symm.trans found)
      simp [pending] at status
  once := by
    intro opHash
    apply run.length_filter_le_one (executes opHash)
      (fun storage => isOperationExecuted storage opHash = true)
    · intro event executed stepped
      simp [unmarked_of_executes executed stepped]
    · intro event executed stepped
      exact (executedOp_of_step stepped).mpr (.inr executed)
    · intro event marked stepped
      exact (executedOp_of_step stepped).mpr (.inl marked)
  terminal := by
    intro id op settled
    refine (run.lasting_iff _).mpr fun event member stored => ?_
    obtain ⟨earlier, reached, stepped⟩ := run.reached_of_mem member
    exact settled_of_step (sound_of_run reached) stepped settled stored
  barred := by
    intro earlier event later position opHash executed other member proposer delay called
    obtain ⟨-, stepped, onward⟩ := run.split position
    obtain ⟨between, rest, inside⟩ := List.append_of_mem member
    obtain ⟨reached, queueing, -⟩ := onward.split inside
    have marked := executed_stays reached ((executedOp_of_step stepped).mpr (.inr executed))
    simp [unmarked_of_queue queueing called] at marked

section Sample

def sampleLabel (timestamp : Nat) (call : Call) : Label where
  env := .signedBy ⟨1⟩ ⟨0⟩ timestamp
  call := call

/-- Of two operations with one hash, the second executes at the end of its window and the
first is cancelled afterwards. -/
theorem timelock_guarantee_sample :
    ∃ trace storage, Run Step .deployed trace storage ∧ Guaranteed trace ∧
      isOperationExecuted storage (Vector.replicate 32 7) = true := by
  obtain ⟨storage, followed, executed⟩ : ∃ storage,
      replay next .deployed
          [ sampleLabel 1 (.initializeTimelock ⟨1⟩),
            sampleLabel 2 (.queueOperation ⟨1⟩ (Vector.replicate 32 7) 90000),
            sampleLabel 3 (.queueOperation ⟨1⟩ (Vector.replicate 32 7) 86400),
            sampleLabel 172803 (.executeOperation 1),
            sampleLabel 172804 (.cancelOperation ⟨1⟩ 0) ] = some storage ∧
        isOperationExecuted storage (Vector.replicate 32 7) = true :=
    ⟨_, rfl, rfl⟩
  obtain ⟨trace, run, _⟩ := run_of_replay step_of_next followed
  exact ⟨trace, storage, run, timelock_guarantee run, executed⟩

end Sample

end Timelock
