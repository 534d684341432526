import CredenceContracts.Bond.Spec
import CredenceContracts.Library.Framing
import Mathlib.Data.List.Nodup

/-!
# Idempotency keys

A request is known by the hash of its actor, the name of its operation and its salt,
written one after the other.  Nothing marks where the name ends, so a request of one
operation can have the key of a request of another whose name goes on.
-/

namespace Idempotency

open Soroban Transition CredenceBond
open Outcome (rejectIf)

section Model

variable {Ledger : Type} (ext : Externals Ledger) (storage : Storage)
variable (actor : Address) (operation : String) (salt : Bytes)

/-- Record the key of a request that was not made before. -/
def checkAndRecord : Outcome Storage := do
  let key := computeKey ext actor operation salt
  rejectIf (storage.idempotencyKey key = true) (.contract .duplicateIdempotencyKey)
  return { storage with idempotencyKey := Function.update storage.idempotencyKey key true }

/-- The check without the record. -/
def isUsed : Bool :=
  storage.idempotencyKey (computeKey ext actor operation salt)

end Model

section Requests

/-- The bytes of a name. -/
def nameBytes (name : String) : Bytes :=
  name.toByteArray.data.toList

/-- The names that a symbol can have. -/
def IsSymbol (name : String) : Prop :=
  name.length ≤ 32 ∧
    (name.toList.all fun character => character.isAlphanum || character == '_') = true

instance (name : String) : Decidable (IsSymbol name) := by
  unfold IsSymbol
  infer_instance

/-- An operation that an actor asks for. -/
@[ext] structure Request where
  actor : Address
  operation : String
  salt : Bytes
  /-- There are as many addresses as ids of 32 bytes. -/
  identified : actor.key < 256 ^ 32
  symbol : IsSymbol operation

variable {Ledger : Type} (ext : Externals Ledger)

/-- The hash function is injective, an id is 32 bytes that no other address has, and a
symbol is the bytes of its name. -/
structure Hashes : Prop where
  sha256 : Function.Injective ext.sha256
  contractId_length : ∀ address, (ext.contractId address).length = 32
  contractId : ∀ address other : Address, address.key < 256 ^ 32 → other.key < 256 ^ 32 →
    ext.contractId address = ext.contractId other → address = other
  symbolBytes : ∀ name, ext.symbolBytes name = nameBytes name

def Request.key (request : Request) : Bytes :=
  computeKey ext request.actor request.operation request.salt

def Request.check (request : Request) (storage : Storage) : Outcome Storage :=
  checkAndRecord ext storage request.actor request.operation request.salt

/-- The name of one operation goes on with what the salt of the other request begins
with. -/
def Request.Shifted (first second : Request) : Prop :=
  first.actor = second.actor ∧
    Framing.Shifted (nameBytes first.operation) first.salt (nameBytes second.operation)
      second.salt

variable {ext} {first second request : Request} {storage after : Storage}

theorem nameBytes_injective : Function.Injective nameBytes := fun _ _ same =>
  String.toByteArray_inj.mp (ByteArray.ext (Array.toList_inj.mp same))

theorem Request.Shifted.ne (shifted : first.Shifted second) : first ≠ second := by
  rintro rfl
  exact shifted.2.ne rfl

/-- The requests with the key of a request. -/
theorem key_eq_iff (hashes : Hashes ext) :
    first.key ext = second.key ext ↔ first = second ∨ first.Shifted second := by
  have lengths := (hashes.contractId_length first.actor).trans
    (hashes.contractId_length second.actor).symm
  have actors : ext.contractId first.actor = ext.contractId second.actor ↔
      first.actor = second.actor :=
    ⟨hashes.contractId _ _ first.identified second.identified, congrArg ext.contractId⟩
  rw [Request.key, Request.key, computeKey, computeKey, hashes.sha256.eq_iff,
    List.append_assoc, List.append_assoc, Framing.append_eq_append_iff_of_length lengths, actors,
    hashes.symbolBytes, hashes.symbolBytes, Framing.append_eq_append_iff,
    nameBytes_injective.eq_iff, Request.ext_iff, and_or_left]
  rfl

theorem check_eq_ok :
    request.check ext storage = .ok after ↔ storage.idempotencyKey (request.key ext) = false ∧
      after = { storage with
        idempotencyKey := Function.update storage.idempotencyKey (request.key ext) true } := by
  simp [Request.check, checkAndRecord, Request.key]

theorem check_eq_duplicate :
    request.check ext storage = .error (.contract .duplicateIdempotencyKey) ↔
      storage.idempotencyKey (request.key ext) = true := by
  simp [Request.check, checkAndRecord, Request.key]

/-- With a salt, the entry points of the contract make this check. -/
theorem checkAndRecord_of_salted {actor : Address} {operation : String} {salt : Bytes}
    (salted : salt ≠ []) : CredenceBond.checkAndRecord ext storage actor operation salt =
      checkAndRecord ext storage actor operation salt :=
  if_neg salted

theorem isUsed_iff :
    isUsed ext storage request.actor request.operation request.salt = true ↔
      request.check ext storage = .error (.contract .duplicateIdempotencyKey) :=
  check_eq_duplicate.symm

end Requests

section Runs

variable {Ledger : Type} (ext : Externals Ledger)

/-- A request is recorded, or the contract does something else. -/
inductive Step (before : Storage) : Option Request → Storage → Prop where
  | recorded {request : Request} {after : Storage} :
      request.check ext before = .ok after → Step before (some request) after
  | elsewhere {after : Storage} :
      after.idempotencyKey = before.idempotencyKey → Step before none after

/-- The requests that a run recorded. -/
def recorded (trace : List (Event Storage (Option Request))) : List Request :=
  trace.filterMap Event.label

/-- Requests with one key are one request, and a request fails as a duplicate only if it
was itself recorded. -/
def Separates : Prop :=
  (∀ first second : Request, first.key ext = second.key ext → first = second) ∧
    ∀ start trace storage, (∀ key, start.idempotencyKey key = false) →
      Run (Step ext) start trace storage → ∀ request : Request,
        request.check ext storage = .error (.contract .duplicateIdempotencyKey) →
          request ∈ recorded trace

variable {ext} {start storage : Storage} {trace : List (Event Storage (Option Request))}

/-- The used keys are those of the recorded requests, of which no two have one key. -/
theorem used_of_run (run : Run (Step ext) start trace storage)
    (fresh : ∀ key, start.idempotencyKey key = false) :
    (∀ key, storage.idempotencyKey key = true ↔
      ∃ request ∈ recorded trace, request.key ext = key) ∧
    ((recorded trace).map (Request.key ext)).Nodup := by
  induction run with
  | nil => simp [recorded, fresh]
  | @snoc trace before after label run stepped ih =>
      obtain ⟨used, distinct⟩ := ih
      have grown : recorded (trace ++ [⟨before, label, after⟩]) =
          recorded trace ++ label.toList := by
        cases label with
        | none => simp [recorded]
        | some request => simp [recorded]
      rw [grown]
      cases stepped with
      | @recorded request _ done =>
          obtain ⟨unused, rfl⟩ := check_eq_ok.mp done
          have unknown : request.key ext ∉ (recorded trace).map (Request.key ext) := by
            intro known
            have taken := (used (request.key ext)).mpr (List.mem_map.mp known)
            exact absurd (taken.symm.trans unused) (by decide)
          constructor
          · intro key
            by_cases same : key = request.key ext
            · simp [same]
            · simp [same, Ne.symm same, used key]
          · rw [Option.toList_some, List.map_append, List.map_singleton]
            exact distinct.append (List.nodup_singleton _) (by simpa using unknown)
      | elsewhere same =>
          simpa [same] using And.intro used distinct

/-- A request is taken for a duplicate of itself or of a recorded one that is shifted
against it. -/
theorem duplicate_iff (hashes : Hashes ext) (run : Run (Step ext) start trace storage)
    (fresh : ∀ key, start.idempotencyKey key = false) {request : Request} :
    request.check ext storage = .error (.contract .duplicateIdempotencyKey) ↔
      ∃ earlier ∈ recorded trace, earlier = request ∨ earlier.Shifted request := by
  rw [check_eq_duplicate, (used_of_run run fresh).1 (request.key ext)]
  simp only [key_eq_iff hashes]

/-- For requests of which none is shifted against another, and for no others, the keys
separate what the module says they do. -/
theorem separates_iff_unshifted (hashes : Hashes ext) :
    (∀ first second : Request,
      (first.key ext = second.key ext → first = second) ↔ ¬first.Shifted second) ∧
    ∀ start trace storage, (∀ key, start.idempotencyKey key = false) →
      Run (Step ext) start trace storage → ∀ request : Request,
        (request.check ext storage = .error (.contract .duplicateIdempotencyKey) →
          request ∈ recorded trace) ↔
        ∀ earlier ∈ recorded trace, ¬earlier.Shifted request := by
  constructor
  · intro first second
    rw [key_eq_iff hashes]
    exact ⟨fun single shifted => shifted.ne (single (.inr shifted)),
      fun unshifted same => same.resolve_right unshifted⟩
  · intro start trace storage fresh run request
    rw [duplicate_iff hashes run fresh]
    constructor
    · intro own earlier listed shifted
      have known := own ⟨earlier, listed, .inr shifted⟩
      have same : earlier = request := List.inj_on_of_nodup_map (used_of_run run fresh).2
        listed known ((key_eq_iff hashes).mpr (.inr shifted))
      exact shifted.ne same
    · rintro unshifted ⟨earlier, listed, rfl | shifted⟩
      · exact listed
      · exact absurd shifted (unshifted earlier listed)

/-- The operations that the entry points check under. -/
def checkedOperations : List String :=
  ["slash_bond", "collect_fees"]

/-- None of their names goes on with the other, so their requests have keys of their own. -/
theorem checked_operations_separate (hashes : Hashes ext) {first second : Request}
    (firstChecked : first.operation ∈ checkedOperations)
    (secondChecked : second.operation ∈ checkedOperations)
    (same : first.key ext = second.key ext) : first = second := by
  have apart : ∀ name ∈ checkedOperations, ∀ other ∈ checkedOperations,
      nameBytes name <+: nameBytes other → nameBytes name = nameBytes other := by decide
  refine ((key_eq_iff hashes).mp same).resolve_right fun shifted => ?_
  rcases shifted.2.begins with begins | begins
  · exact shifted.2.ne (apart _ firstChecked _ secondChecked begins)
  · exact shifted.2.ne (apart _ secondChecked _ firstChecked begins).symm

end Runs

section Sample

/-- The digits of a number to the base 256, lowest first. -/
def idBytes : Nat → Nat → Bytes
  | 0, _ => []
  | width + 1, number => UInt8.ofNat (number % 256) :: idBytes width (number / 256)

theorem idBytes_length (width number : Nat) : (idBytes width number).length = width := by
  induction width generalizing number with
  | zero => rfl
  | succ width ih => rw [idBytes, List.length_cons, ih]

theorem idBytes_inj {width number other : Nat} (fits : number < 256 ^ width)
    (otherFits : other < 256 ^ width) (same : idBytes width number = idBytes width other) :
    number = other := by
  induction width generalizing number other with
  | zero => omega
  | succ width ih =>
      rw [idBytes, idBytes, List.cons.injEq] at same
      have low : number % 256 = other % 256 := by
        simpa using congrArg UInt8.toNat same.1
      have high : number / 256 = other / 256 := by
        rw [pow_succ] at fits otherFits
        exact ih (Nat.div_lt_of_lt_mul (by omega)) (Nat.div_lt_of_lt_mul (by omega)) same.2
      omega

/-- Ids are numbers in 32 bytes, and the hash of a byte string is itself. -/
def plainHashes : Externals ReferenceLedger :=
  { Externals.reference with
    contractId := fun address => idBytes 32 address.key
    symbolBytes := nameBytes }

theorem hashes_plainHashes : Hashes plainHashes where
  sha256 := Function.injective_id
  contractId_length address := idBytes_length 32 address.key
  contractId := by
    rintro ⟨key⟩ ⟨other⟩ fits otherFits same
    exact congrArg Address.mk (idBytes_inj fits otherFits same)
  symbolBytes _ := rfl

/-- The operation "slash" with a salt that begins like the rest of "slash_bond". -/
def shortRequest : Request where
  actor := ⟨1⟩
  operation := "slash"
  salt := nameBytes "_bond1"
  identified := by decide
  symbol := by decide

def longRequest : Request where
  actor := ⟨1⟩
  operation := "slash_bond"
  salt := nameBytes "1"
  identified := by decide
  symbol := by decide

theorem shortRequest_shifted : shortRequest.Shifted longRequest :=
  ⟨rfl, nameBytes "_bond", by decide, .inl ⟨by decide, by decide⟩⟩

theorem check_shortRequest :
    shortRequest.check plainHashes .deployed = .ok { Storage.deployed with
      idempotencyKey := Function.update Storage.deployed.idempotencyKey
        (shortRequest.key plainHashes) true } :=
  check_eq_ok.mpr ⟨rfl, rfl⟩

/-- Two requests of one actor, of different operations and with different salts, have one
key, and the second fails as a duplicate of the first. -/
theorem keys_do_not_separate :
    ¬Separates plainHashes ∧ shortRequest.operation ≠ longRequest.operation ∧
      ∃ storage, shortRequest.check plainHashes .deployed = .ok storage ∧
        longRequest.check plainHashes storage =
          .error (.contract .duplicateIdempotencyKey) := by
  have key : shortRequest.key plainHashes = longRequest.key plainHashes :=
    (key_eq_iff hashes_plainHashes).mpr (.inr shortRequest_shifted)
  refine ⟨fun separates => shortRequest_shifted.ne (separates.1 _ _ key), by decide, _,
    check_shortRequest, ?_⟩
  rw [check_eq_duplicate, ← key]
  exact Function.update_self (shortRequest.key plainHashes) true
    Storage.deployed.idempotencyKey

/-- Once the first request is recorded, the check is right about that request and wrong
about the second. -/
theorem separates_iff_unshifted_sample :
    ∃ trace storage, Run (Step plainHashes) .deployed trace storage ∧
      recorded trace = [shortRequest] ∧
      (shortRequest.check plainHashes storage =
        .error (.contract .duplicateIdempotencyKey) → shortRequest ∈ recorded trace) ∧
      ¬(longRequest.check plainHashes storage =
        .error (.contract .duplicateIdempotencyKey) → longRequest ∈ recorded trace) := by
  have run := Run.single (Step.recorded check_shortRequest)
  have exactly := (separates_iff_unshifted hashes_plainHashes).2 _ _ _ (fun _ => rfl) run
  refine ⟨_, _, run, rfl, (exactly shortRequest).mpr ?_, fun right => ?_⟩
  · intro earlier listed shifted
    obtain rfl : earlier = shortRequest := List.mem_singleton.mp listed
    exact shifted.ne rfl
  · exact (exactly longRequest).mp right shortRequest List.mem_cons_self shortRequest_shifted

end Sample

end Idempotency
