import CredenceContracts.Registry.Contract

/-!
# What each registry operation does

One lemma for each function of the registry says what its success takes and leaves.
The interface check and the code-hash check decide who may register; both registrations
then write the two tables and the list in the same way.
-/

namespace Registry

open Soroban

section Hashes

/-- The accumulator stays zero as long as the bytes agree. -/
theorem foldl_difference_eq_zero {pairs : List (UInt8 × UInt8)} {start : UInt8} :
    pairs.foldl (fun acc pair => acc ||| (pair.1 ^^^ pair.2)) start = 0 ↔
      start = 0 ∧ ∀ pair ∈ pairs, pair.1 = pair.2 := by
  induction pairs generalizing start with
  | nil => simp
  | cons pair rest ih =>
      simp only [List.foldl_cons, List.forall_mem_cons]
      rw [ih, UInt8.or_eq_zero_iff, UInt8.xor_eq_zero_iff, and_assoc]

theorem forall_mem_zip_iff {left right : Bytes} (same : left.length = right.length) :
    (∀ pair ∈ left.zip right, pair.1 = pair.2) ↔ left = right := by
  induction left generalizing right with
  | nil =>
      have empty : right = [] := List.length_eq_zero_iff.mp same.symm
      simp [empty]
  | cons head rest ih =>
      cases right with
      | nil => simp at same
      | cons other others =>
          rw [List.zip_cons_cons, List.forall_mem_cons, ih (Nat.succ.inj same)]
          exact List.cons_eq_cons.symm

/-- The constant-time comparison is equality. -/
theorem constantTimeEq_iff {left right : Bytes} :
    constantTimeEq left right = true ↔ left = right := by
  unfold constantTimeEq
  split
  · rename_i different
    refine iff_of_false (by simp) ?_
    rintro rfl
    exact different rfl
  · rename_i same
    rw [beq_iff_eq, foldl_difference_eq_zero, forall_mem_zip_iff (not_not.mp same)]
    simp

end Hashes

section Calls

variable {env : Env} {contracts : Contracts} {storage after : Storage}

/-- The stored admin authorised the call. -/
def AdminSigned (env : Env) (storage : Storage) : Prop :=
  ∃ admin, storage.admin = some admin ∧ env.authorized admin = true

/-- The registry is not paused and its admin authorised the call. -/
def AdminCall (env : Env) (storage : Storage) : Prop :=
  storage.pause.paused = false ∧ AdminSigned env storage

/-- The admin waived the interface check or the bond contract passes it. -/
def Admissible (contracts : Contracts) (bondContract : Address) (waived : Bool) : Prop :=
  waived = true ∨ contracts.supportsInterface bondContract = some true

/-- The caller authorised the call and reported the pinned hash. -/
def BondCall (env : Env) (contracts : Contracts) (storage : Storage) (caller : Address) :
    Prop :=
  storage.pause.paused = false ∧ env.authorized caller = true ∧
    storage.bondCodeHash.length = 32 ∧
      contracts.reportedCodeHash caller = some storage.bondCodeHash

@[simp] theorem requireAdmin_eq_ok {result : Unit} :
    requireAdmin env storage = .ok result ↔ AdminSigned env storage := by
  simp [requireAdmin, AdminSigned]

theorem initializeRegistry_eq_ok {admin : Address} :
    initializeRegistry env storage admin = .ok after ↔
      storage.admin = none ∧ env.authorized admin = true ∧
        after = { storage with
          admin := some admin
          pause := storage.pause.reset
          registeredIdentities := [] } := by
  simp [initializeRegistry]

theorem register_eq_ok {identity bondContract : Address} {waived : Bool}
    {entry : RegistryEntry} :
    register env storage contracts identity bondContract waived = .ok (after, entry) ↔
      AdminCall env storage ∧ Admissible contracts bondContract waived ∧
        storage.identityToBond identity = none ∧ storage.bondToIdentity bondContract = none ∧
          entry = (storePair env storage identity bondContract).2 ∧
            after = { (storePair env storage identity bondContract).1 with
              allowNonInterface :=
                if waived then
                  Function.update storage.allowNonInterface bondContract true
                else
                  storage.allowNonInterface } := by
  have answered : (contracts.supportsInterface bondContract).getD false = true ↔
      contracts.supportsInterface bondContract = some true := by
    cases contracts.supportsInterface bondContract <;> simp
  simp only [register, AdminCall, Admissible, Outcome.bind_eq_ok, requireAdmin_eq_ok,
    Pausable.requireNotPaused_eq_ok, Outcome.rejectIf_eq_ok, Outcome.pure_eq_ok,
    Prod.mk.injEq, Option.isSome_iff_ne_none, not_not, ← answered]
  grind [storePair]

theorem deactivate_eq_ok {identity : Address} :
    deactivate env storage identity = .ok after ↔
      AdminCall env storage ∧
        ∃ entry, storage.identityToBond identity = some entry ∧ entry.active = true ∧
          after = { storage with
            identityToBond := Function.update storage.identityToBond identity
              (some { entry with active := false }) } := by
  simp [deactivate, AdminCall, and_assoc]

theorem reactivate_eq_ok {identity : Address} :
    reactivate env storage identity = .ok after ↔
      AdminCall env storage ∧
        ∃ entry, storage.identityToBond identity = some entry ∧ entry.active = false ∧
          after = { storage with
            identityToBond := Function.update storage.identityToBond identity
              (some { entry with active := true }) } := by
  simp [reactivate, AdminCall, and_assoc]

theorem remove_eq_ok {identity : Address} :
    remove env storage identity = .ok after ↔
      AdminCall env storage ∧
        ∃ entry, storage.identityToBond identity = some entry ∧
          after = { storage with
            identityToBond := Function.update storage.identityToBond identity none
            bondToIdentity := Function.update storage.bondToIdentity entry.bondContract none
            registeredIdentities := storage.registeredIdentities.erase identity } := by
  simp [remove, AdminCall, and_assoc]

theorem transferAdmin_eq_ok {newAdmin : Address} :
    transferAdmin env storage newAdmin = .ok after ↔
      AdminCall env storage ∧ after = { storage with admin := some newAdmin } := by
  simp [transferAdmin, AdminCall, and_assoc]

theorem setBondCodeHash_eq_ok {codeHash : Bytes} :
    setBondCodeHash env storage codeHash = .ok after ↔
      AdminSigned env storage ∧ after = { storage with bondCodeHash := codeHash } := by
  simp [setBondCodeHash]

/-- A trustless registration returns the caller's own active entry, or stores a new
pair. -/
theorem registerTrustless_eq_ok {caller identity : Address} {entry : RegistryEntry} :
    registerTrustless env storage contracts caller identity = .ok (after, entry) ↔
      BondCall env contracts storage caller ∧
        ((storage.identityToBond identity = some entry ∧ entry.bondContract = caller ∧
            entry.active = true ∧ after = storage) ∨
          (storage.identityToBond identity = none ∧ storage.bondToIdentity caller = none ∧
            (after, entry) = storePair env storage identity caller)) := by
  simp only [registerTrustless, BondCall, Outcome.bind_eq_ok, requireAuth_eq_ok,
    Pausable.requireNotPaused_eq_ok, Outcome.rejectIf_eq_ok, calling_eq_ok, constantTimeEq_iff,
    Bool.not_eq_false]
  constructor
  · rintro ⟨_, unpaused, _, signed, _, _, hash, reported, _, sized, _, rfl, settled⟩
    rw [not_or, not_not] at sized
    refine ⟨⟨unpaused, signed, sized.2, reported⟩, ?_⟩
    split at settled
    · rename_i existing found
      split at settled
      · rename_i own
        obtain ⟨rfl, rfl⟩ := Prod.mk.inj (Outcome.pure_eq_ok.mp settled)
        exact .inl ⟨found, own.1, own.2, rfl⟩
      · cases settled
    · rename_i absent
      simp only [Outcome.bind_eq_ok, Outcome.rejectIf_eq_ok, Outcome.pure_eq_ok] at settled
      obtain ⟨_, free, stored⟩ := settled
      exact .inr ⟨absent, by simpa using free, stored⟩
  · rintro ⟨⟨unpaused, signed, sized, reported⟩, settled⟩
    have present : ¬storage.bondCodeHash.isEmpty = true := by
      intro empty
      simp [List.isEmpty_iff.mp empty] at sized
    refine ⟨(), unpaused, (), signed, (), present, _, reported, (), by simp [sized], (), rfl, ?_⟩
    rcases settled with ⟨found, own, active, rfl⟩ | ⟨absent, free, stored⟩
    · simp [found, own, active]
    · simp [absent, free, stored]

end Calls

end Registry
