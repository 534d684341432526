import CredenceContracts.Delegation.Records
import CredenceContracts.Delegation.Replay
import CredenceContracts.Soroban.Lifetime

/-!
# Lifetimes of nonces and delegations

A new delegation extends the lifetimes of its own entry and of its owner's nonce.
An extension is skipped where the entry already lives half as long as asked, so that
an entry which is neither short nor long before ends up short of the delegation.
-/

namespace Delegations

open Soroban Transition

/-- The buffer beside the lifetime of a delegation, about a day. -/
def ledgerBumpBuffer : Nat :=
  17280

/-- About thirty days. -/
def minNonceTtl : Nat :=
  518400

/-- About six months. -/
def maxTtl : Nat :=
  3110400

/-- The entries with a lifetime of their own. -/
inductive EntryKey where
  | delegation (key : DelegationKey)
  | nonce (identity : Address)
  deriving DecidableEq

section Bumps

variable (env : Env) (minTtl : Nat) (lifetimes : Lifetimes EntryKey)

/-- The ledgers up to an expiry and the buffer, in unsigned words and capped. -/
def ttlForExpiry (expiresAt : Nat) : Nat :=
  let remainingSecs := expiresAt - env.timestamp
  let ledgersUntilExpiry := remainingSecs / 5 % 2 ^ 32
  let desired := min (ledgersUntilExpiry + ledgerBumpBuffer) (2 ^ 32 - 1)
  min desired maxTtl

def bumpDelegationTtl (key : DelegationKey) (expiresAt : Nat) : Lifetimes EntryKey :=
  let extendTo := max (ttlForExpiry env expiresAt) ledgerBumpBuffer
  lifetimes.extend env (.delegation key) (extendTo / 2) extendTo

def bumpNonceTtl (identity : Address) (expiresAt : Nat) : Lifetimes EntryKey :=
  let extendTo := max (ttlForExpiry env expiresAt) minNonceTtl
  lifetimes.extend env (.nonce identity) (extendTo / 2) extendTo

/-- What writing a nonce does to the lifetimes. -/
def writeNonceTtl (identity : Address) : Lifetimes EntryKey :=
  bumpNonceTtl env (lifetimes.write env minTtl (.nonce identity)) identity 0

/-- What storing a delegation does to them. -/
def storeDelegationTtl (key : DelegationKey) (expiresAt : Nat) : Lifetimes EntryKey :=
  let written := lifetimes.write env minTtl (.delegation key)
  bumpNonceTtl env (bumpDelegationTtl env written key expiresAt) key.owner expiresAt

/-- What marking a stored delegation revoked does to them. -/
def markDelegationRevokedTtl (storage : Storage) (key : DelegationKey) : Lifetimes EntryKey :=
  match storage.delegation key with
  | some stored =>
      bumpDelegationTtl env (lifetimes.write env minTtl (.delegation key)) key stored.expiresAt
  | none => lifetimes

/-- What reading a delegation does to them. -/
def readDelegationTtl (storage : Storage) (key : DelegationKey) : Lifetimes EntryKey :=
  match storage.delegation key with
  | some stored => bumpDelegationTtl env lifetimes key stored.expiresAt
  | none => lifetimes

/-- The lifetimes after a successful call. -/
def Call.ages (storage : Storage) : Call → Lifetimes EntryKey
  | .delegate owner target delegationType expiresAt _
  | .executeDelegatedDelegate owner target delegationType expiresAt _ =>
      storeDelegationTtl env minTtl (writeNonceTtl env minTtl lifetimes owner)
        ⟨owner, target, delegationType⟩ expiresAt
  | .revokeDelegation owner target delegationType _
  | .executeDelegatedRevoke owner target delegationType _ =>
      markDelegationRevokedTtl env minTtl (writeNonceTtl env minTtl lifetimes owner) storage
        ⟨owner, target, delegationType⟩
  | .revokeAttestation attester subject _
  | .executeDelegatedRevokeAttest attester subject _ =>
      markDelegationRevokedTtl env minTtl (writeNonceTtl env minTtl lifetimes attester) storage
        ⟨attester, subject, .attestation⟩
  | .cleanupExpired owner target delegationType =>
      lifetimes.remove (.delegation ⟨owner, target, delegationType⟩)
  | .invalidateNonceRange identity _ => writeNonceTtl env minTtl lifetimes identity
  | .initializeDelegation _ | .setRevocationGracePeriod .. | .registerVerifier ..
  | .pausable _ => lifetimes

end Bumps

section Steps

/-- The entries and their lifetimes. -/
structure AgedStorage where
  storage : Storage
  lifetimes : Lifetimes EntryKey

/-- A call that writes, a view of a delegation, or the view of a nonce. -/
inductive Visit where
  | call (label : Label)
  | readDelegation (env : Env) (key : DelegationKey)
  | readNonce (env : Env) (identity : Address)

/-- The steps of the contract with the lifetimes of its entries.  A new entry gets the
least lifetime of the network. -/
inductive AgedStep (sha256 : Bytes → BytesN 32) (self : Address) (minTtl : Nat) :
    AgedStorage → Visit → AgedStorage → Prop where
  | call {state : AgedStorage} {label : Label} {after : Storage} :
      Step sha256 self state.storage label after →
      AgedStep sha256 self minTtl state (.call label)
        { storage := after
          lifetimes := label.call.ages label.env minTtl state.lifetimes state.storage }
  | readDelegation {state : AgedStorage} {env : Env} {key : DelegationKey} :
      AgedStep sha256 self minTtl state (.readDelegation env key)
        { state with lifetimes := readDelegationTtl env state.lifetimes state.storage key }
  | readNonce {state : AgedStorage} {env : Env} {identity : Address} :
      AgedStep sha256 self minTtl state (.readNonce env identity)
        { state with lifetimes := bumpNonceTtl env state.lifetimes identity 0 }

end Steps

section Bounds

variable {env : Env} {minTtl : Nat} {lifetimes : Lifetimes EntryKey}
variable {key : DelegationKey} {identity : Address} {expiresAt : Nat}

/-- What a delegation needs: the ledgers up to its expiry and the buffer. -/
def neededTtl (env : Env) (expiresAt : Nat) : Nat :=
  (expiresAt - env.timestamp) / 5 + ledgerBumpBuffer

/-- The time to live of a nonce after it was consumed. -/
def renewedTtl (ttl : Nat) : Nat :=
  if ttl < minNonceTtl / 2 then minNonceTtl else ttl

/-- An entry that lives half as long as asked already, but not as long as needed. -/
def FallsShort (target needed ttl : Nat) : Prop :=
  target / 2 ≤ ttl ∧ ttl < needed

instance (target needed ttl : Nat) : Decidable (FallsShort target needed ttl) :=
  inferInstanceAs (Decidable (_ ∧ _))

theorem ttlForExpiry_of_le (capped : neededTtl env expiresAt ≤ maxTtl) :
    ttlForExpiry env expiresAt = neededTtl env expiresAt := by
  simp only [neededTtl, ledgerBumpBuffer, maxTtl] at capped
  simp only [ttlForExpiry, neededTtl, ledgerBumpBuffer, maxTtl]
  omega

theorem ttlForExpiry_zero : ttlForExpiry env 0 = ledgerBumpBuffer := by
  simp [ttlForExpiry, ledgerBumpBuffer, maxTtl]

theorem ttl_bumpDelegation (present : (lifetimes (.delegation key)).isSome = true)
    (capped : neededTtl env expiresAt ≤ maxTtl) :
    (bumpDelegationTtl env lifetimes key expiresAt).ttl env minTtl (.delegation key) =
      if lifetimes.ttl env minTtl (.delegation key) < neededTtl env expiresAt / 2 then
        neededTtl env expiresAt
      else lifetimes.ttl env minTtl (.delegation key) := by
  have buffered : max (neededTtl env expiresAt) ledgerBumpBuffer = neededTtl env expiresAt :=
    max_eq_left (Nat.le_add_left _ _)
  simp only [bumpDelegationTtl, ttlForExpiry_of_le capped, buffered, Lifetimes.ttl_extend present]

theorem ttl_bumpNonce (present : (lifetimes (.nonce identity)).isSome = true)
    (capped : neededTtl env expiresAt ≤ maxTtl) :
    (bumpNonceTtl env lifetimes identity expiresAt).ttl env minTtl (.nonce identity) =
      if lifetimes.ttl env minTtl (.nonce identity) <
          max (neededTtl env expiresAt) minNonceTtl / 2 then
        max (neededTtl env expiresAt) minNonceTtl
      else lifetimes.ttl env minTtl (.nonce identity) := by
  simp only [bumpNonceTtl, ttlForExpiry_of_le capped, Lifetimes.ttl_extend present]

theorem ttl_writeNonce :
    (writeNonceTtl env minTtl lifetimes identity).ttl env minTtl (.nonce identity) =
      renewedTtl (lifetimes.ttl env minTtl (.nonce identity)) := by
  have floor : max ledgerBumpBuffer minNonceTtl = minNonceTtl := by decide
  simp only [writeNonceTtl, bumpNonceTtl, ttlForExpiry_zero, floor, renewedTtl]
  rw [Lifetimes.ttl_extend (by simp), Lifetimes.ttl_write]

@[simp] theorem writeNonceTtl_delegation :
    (writeNonceTtl env minTtl lifetimes identity).ttl env minTtl (.delegation key) =
      lifetimes.ttl env minTtl (.delegation key) := by
  simp [writeNonceTtl, bumpNonceTtl]

/-- The lifetimes of a delegation and of its owner's nonce cover the delegation. -/
def Covers (env : Env) (lifetimes : Lifetimes EntryKey) (key : DelegationKey)
    (expiresAt : Nat) : Prop :=
  lifetimes.LivesFor env (neededTtl env expiresAt) (.delegation key) ∧
    lifetimes.LivesFor env (neededTtl env expiresAt) (.nonce key.owner)

/-- Neither entry falls short when a delegation is stored. -/
def Extendable (env : Env) (minTtl : Nat) (lifetimes : Lifetimes EntryKey)
    (key : DelegationKey) (expiresAt : Nat) : Prop :=
  let needed := neededTtl env expiresAt
  ¬FallsShort needed needed (lifetimes.ttl env minTtl (.delegation key)) ∧
    ¬FallsShort (max needed minNonceTtl) needed
      (renewedTtl (lifetimes.ttl env minTtl (.nonce key.owner)))

/-- An extension to at least what is needed gives that, unless the entry falls short. -/
theorem needed_le_iff {needed target ttl : Nat} (enough : needed ≤ target) :
    needed ≤ (if ttl < target / 2 then target else ttl) ↔ ¬FallsShort target needed ttl := by
  unfold FallsShort
  split <;> omega

theorem storeDelegation_covers_iff (capped : neededTtl env expiresAt ≤ maxTtl) :
    Covers env
        (storeDelegationTtl env minTtl (writeNonceTtl env minTtl lifetimes key.owner) key
          expiresAt) key expiresAt ↔
      Extendable env minTtl lifetimes key expiresAt := by
  unfold Covers Extendable
  simp only [storeDelegationTtl]
  have delegation : (bumpNonceTtl env (bumpDelegationTtl env
      ((writeNonceTtl env minTtl lifetimes key.owner).write env minTtl (.delegation key)) key
        expiresAt) key.owner expiresAt).ttl env minTtl (.delegation key) =
      if lifetimes.ttl env minTtl (.delegation key) < neededTtl env expiresAt / 2 then
        neededTtl env expiresAt
      else lifetimes.ttl env minTtl (.delegation key) := by
    rw [bumpNonceTtl, Lifetimes.ttl_extend_of_ne (by simp), ttl_bumpDelegation (by simp) capped]
    simp
  have nonce : (bumpNonceTtl env (bumpDelegationTtl env
      ((writeNonceTtl env minTtl lifetimes key.owner).write env minTtl (.delegation key)) key
        expiresAt) key.owner expiresAt).ttl env minTtl (.nonce key.owner) =
      if renewedTtl (lifetimes.ttl env minTtl (.nonce key.owner)) <
          max (neededTtl env expiresAt) minNonceTtl / 2 then
        max (neededTtl env expiresAt) minNonceTtl
      else renewedTtl (lifetimes.ttl env minTtl (.nonce key.owner)) := by
    rw [ttl_bumpNonce (by simp [bumpDelegationTtl, writeNonceTtl, bumpNonceTtl]) capped,
      bumpDelegationTtl, Lifetimes.ttl_extend_of_ne (by simp), Lifetimes.ttl_write,
      ttl_writeNonce]
  rw [Lifetimes.livesFor_iff minTtl (by simp [bumpNonceTtl, bumpDelegationTtl]),
    Lifetimes.livesFor_iff minTtl (by simp [bumpNonceTtl, bumpDelegationTtl, writeNonceTtl]),
    delegation, nonce, needed_le_iff le_rfl, needed_le_iff (le_max_left _ _)]

end Bounds

section Lasting

variable {env : Env} {minTtl : Nat} {lifetimes : Lifetimes EntryKey} {storage : Storage}
variable {key : DelegationKey} {identity other : Address} {expiresAt : Nat}

theorem lasts_bumpNonce :
    lifetimes.Lasts (bumpNonceTtl env lifetimes other expiresAt) (.nonce identity) :=
  Lifetimes.lasts_extend (Nat.div_le_self _ _)

theorem lasts_bumpDelegation :
    lifetimes.Lasts (bumpDelegationTtl env lifetimes key expiresAt) (.nonce identity) :=
  Lifetimes.lasts_extend (Nat.div_le_self _ _)

theorem lasts_writeNonce :
    lifetimes.Lasts (writeNonceTtl env minTtl lifetimes other) (.nonce identity) :=
  Lifetimes.lasts_write.trans lasts_bumpNonce

theorem lasts_markDelegationRevoked :
    lifetimes.Lasts (markDelegationRevokedTtl env minTtl lifetimes storage key)
      (.nonce identity) := by
  unfold markDelegationRevokedTtl
  cases storage.delegation key with
  | none => exact .refl _ _
  | some stored => exact Lifetimes.lasts_write.trans lasts_bumpDelegation

theorem lasts_readDelegation :
    lifetimes.Lasts (readDelegationTtl env lifetimes storage key) (.nonce identity) := by
  unfold readDelegationTtl
  cases storage.delegation key with
  | none => exact .refl _ _
  | some stored => exact lasts_bumpDelegation

/-- No call shortens the lifetime of a nonce. -/
theorem lasts_ages (call : Call) :
    lifetimes.Lasts (call.ages env minTtl lifetimes storage) (.nonce identity) := by
  cases call with
  | delegate | executeDelegatedDelegate =>
      apply lasts_writeNonce.trans
      apply Lifetimes.lasts_write.trans
      exact lasts_bumpDelegation.trans lasts_bumpNonce
  | revokeDelegation | revokeAttestation | executeDelegatedRevoke
  | executeDelegatedRevokeAttest =>
      exact lasts_writeNonce.trans lasts_markDelegationRevoked
  | invalidateNonceRange => exact lasts_writeNonce
  | cleanupExpired => exact Lifetimes.lasts_remove (by simp)
  | initializeDelegation | setRevocationGracePeriod | registerVerifier | pausable =>
      exact .refl _ _

end Lasting

section Runs

variable {sha256 : Bytes → BytesN 32} {self : Address} {minTtl : Nat}
variable {start final : AgedStorage} {trace earlier later : List (Event AgedStorage Visit)}
variable {event : Event AgedStorage Visit}

theorem lasts_of_step {before after : AgedStorage} {visit : Visit} {identity : Address}
    (stepped : AgedStep sha256 self minTtl before visit after) :
    before.lifetimes.Lasts after.lifetimes (.nonce identity) := by
  cases stepped with
  | call => exact lasts_ages _
  | readDelegation => exact lasts_readDelegation
  | readNonce => exact lasts_bumpNonce

theorem lifetimes_of_call {before after : AgedStorage} {label : Label}
    (stepped : AgedStep sha256 self minTtl before (.call label) after) :
    after.lifetimes = label.call.ages label.env minTtl before.lifetimes before.storage := by
  cases stepped with
  | call => rfl

theorem ages_of_grants {call : Call} {env : Env} {lifetimes : Lifetimes EntryKey}
    {storage : Storage} {key : DelegationKey} {expiresAt : Nat}
    (grants : call.grants = some (key, expiresAt)) :
    call.ages env minTtl lifetimes storage =
      storeDelegationTtl env minTtl (writeNonceTtl env minTtl lifetimes key.owner) key
        expiresAt := by
  cases call with
  | delegate | executeDelegatedDelegate =>
      simp only [Call.grants, Option.some.injEq, Prod.mk.injEq] at grants
      obtain ⟨rfl, rfl⟩ := grants
      rfl
  | _ => cases grants

/-- In every run, right after a delegation is made its entry and the nonce of its owner
cover it if and only if neither fell short before; and whatever happens then, the
nonce lives no shorter. -/
theorem lifetimes_cover_iff (run : Run (AgedStep sha256 self minTtl) start trace final)
    (position : trace = earlier ++ event :: later) {label : Label} {key : DelegationKey}
    {expiresAt : Nat} (called : event.label = .call label)
    (grants : label.call.grants = some (key, expiresAt))
    (capped : neededTtl label.env expiresAt ≤ maxTtl) :
    (Covers label.env event.after.lifetimes key expiresAt ↔
      Extendable label.env minTtl event.before.lifetimes key expiresAt) ∧
      ∀ other ∈ later,
        event.after.lifetimes.Lasts other.after.lifetimes (.nonce key.owner) := by
  obtain ⟨-, stepped, rest⟩ := run.split position
  constructor
  · rw [called] at stepped
    rw [lifetimes_of_call stepped, ages_of_grants grants, storeDelegation_covers_iff capped]
  · intro other member
    obtain ⟨between, remaining, inside⟩ := List.append_of_mem member
    obtain ⟨reached, last, -⟩ := rest.split inside
    apply Lifetimes.Lasts.trans _ (lasts_of_step last)
    apply reached.invariant
      (fun state => event.after.lifetimes.Lasts state.lifetimes (.nonce key.owner))
    · exact .refl _ _
    · exact fun past lasts stepped => lasts.trans (lasts_of_step stepped)

end Runs

section Sample

/-- A contract in which nothing was stored yet has no lifetimes. -/
def AgedStorage.deployed : AgedStorage :=
  ⟨.deployed, fun _ => none⟩

/-- The first delegation of an owner, made at time zero. -/
def firstDelegation (expiresAt : Nat) : Label :=
  sampleLabel 0 (.delegate ⟨2⟩ ⟨3⟩ .management expiresAt 0)

/-- It on a network whose entries live for 4096 ledgers at least. -/
def firstEvent (expiresAt : Nat) : Event AgedStorage Visit where
  before := .deployed
  label := .call (firstDelegation expiresAt)
  after :=
    { storage := advance (next samplePadding ⟨0⟩) .deployed (firstDelegation expiresAt)
      lifetimes := (firstDelegation expiresAt).call.ages (firstDelegation expiresAt).env 4096
        (fun _ => none) .deployed }

theorem firstEvent_run {expiresAt : Nat} {after : Storage}
    (followed : next samplePadding ⟨0⟩ .deployed (firstDelegation expiresAt) = some after) :
    Run (AgedStep samplePadding ⟨0⟩ 4096) .deployed [firstEvent expiresAt]
      (firstEvent expiresAt).after := by
  have advanced : next samplePadding ⟨0⟩ .deployed (firstDelegation expiresAt) =
      some (advance (next samplePadding ⟨0⟩) .deployed (firstDelegation expiresAt)) :=
    next_eq_advance (by simp [followed])
  exact .single (.call (step_of_next advanced))

/-- The nonce of an owner does not cover the first delegation for forty-five days. -/
theorem nonce_short_of_delegation :
    ∃ final, Run (AgedStep samplePadding ⟨0⟩ 4096) .deployed [firstEvent 3888000] final ∧
      neededTtl (firstDelegation 3888000).env 3888000 ≤ maxTtl ∧
        ¬Covers (firstDelegation 3888000).env (firstEvent 3888000).after.lifetimes
          ⟨⟨2⟩, ⟨3⟩, .management⟩ 3888000 := by
  refine ⟨_, firstEvent_run rfl, by decide, ?_⟩
  intro covers
  have extendable := (storeDelegation_covers_iff (by decide)).mp covers
  exact extendable.2 (by decide)

/-- It covers one for ten days. -/
theorem lifetimes_cover_sample :
    Covers (firstDelegation 864000).env (firstEvent 864000).after.lifetimes
      ⟨⟨2⟩, ⟨3⟩, .management⟩ 864000 := by
  apply (lifetimes_cover_iff (firstEvent_run rfl) (List.nil_append _).symm rfl rfl
    (by decide)).1.mpr
  constructor
  · decide
  · decide

end Sample

end Delegations
