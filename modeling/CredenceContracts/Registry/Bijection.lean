import CredenceContracts.Library.Pairing
import CredenceContracts.Registry.Spec
import Mathlib.Data.List.Nodup

/-!
# The registry is a bijection

Both registrations and the removal write both directions of the map together, so the
two tables stay halves of one pairing of identities and bond contracts.  The list names
the registered identities in the order of their last registrations.
-/

namespace Registry

open Soroban Transition

section Tables

/-- What identifies the registered pairs: the identity and the bond contract of every
entry, the reverse table and the list. -/
structure Tables where
  pairs : Address → Option (Address × Address)
  owner : Address → Option Address
  listed : List Address

def RegistryEntry.pair (entry : RegistryEntry) : Address × Address :=
  (entry.identity, entry.bondContract)

def Storage.tables (storage : Storage) : Tables where
  pairs := Option.map RegistryEntry.pair ∘ storage.identityToBond
  owner := storage.bondToIdentity
  listed := storage.registeredIdentities

/-- Both directions of a new pair, its identity last in the list. -/
def Tables.store (tables : Tables) (identity bondContract : Address) : Tables where
  pairs := Function.update tables.pairs identity (some (identity, bondContract))
  owner := Function.update tables.owner bondContract (some identity)
  listed :=
    if tables.listed.any (fun listed => listed == identity) then
      tables.listed
    else
      tables.listed ++ [identity]

def Tables.remove (tables : Tables) (identity bondContract : Address) : Tables where
  pairs := Function.update tables.pairs identity none
  owner := Function.update tables.owner bondContract none
  listed := tables.listed.erase identity

/-- The tables hold one pairing, every entry names its key, and the list names the
registered identities once each. -/
structure Tables.Sound (tables : Tables) : Prop where
  keyed : ∀ identity pair, tables.pairs identity = some pair → pair.1 = identity
  paired : ∃ pairing, Pairing.Represents (Option.map Prod.snd ∘ tables.pairs) tables.owner
    pairing
  nodup : tables.listed.Nodup
  listed : ∀ identity, identity ∈ tables.listed ↔ tables.pairs identity ≠ none

variable {tables : Tables} {identity bondContract : Address}

/-- A new identity is appended to the list. -/
theorem Tables.Sound.listed_store (sound : tables.Sound)
    (absent : tables.pairs identity = none) :
    (tables.store identity bondContract).listed = tables.listed ++ [identity] := by
  have unlisted : identity ∉ tables.listed := fun member =>
    (sound.listed identity).mp member absent
  unfold Tables.store
  simp [unlisted]

theorem Tables.Sound.store (sound : tables.Sound) (absent : tables.pairs identity = none)
    (free : tables.owner bondContract = none) :
    (tables.store identity bondContract).Sound where
  keyed := by
    intro key pair found
    by_cases same : key = identity
    · subst same
      have stored : some (key, bondContract) = some pair := by
        simpa [Tables.store] using found
      rw [← Option.some.inj stored]
    · exact sound.keyed key pair (by simpa [Tables.store, same] using found)
  paired := by
    obtain ⟨pairing, represents⟩ := sound.paired
    have unpaired : (Option.map Prod.snd ∘ tables.pairs) identity = none := by simp [absent]
    obtain ⟨linked, holds⟩ := represents.link unpaired free
    exact ⟨linked, by simpa [Tables.store, Function.comp_update] using holds⟩
  nodup := by
    rw [sound.listed_store absent, ← List.concat_eq_append]
    have unlisted : identity ∉ tables.listed := fun member =>
      (sound.listed identity).mp member absent
    exact List.Nodup.concat unlisted sound.nodup
  listed := by
    intro key
    rw [sound.listed_store absent]
    by_cases same : key = identity
    · simp [Tables.store, same]
    · simpa [Tables.store, same] using sound.listed key

theorem Tables.Sound.remove (sound : tables.Sound)
    (found : tables.pairs identity = some (identity, bondContract)) :
    (tables.remove identity bondContract).Sound where
  keyed := by
    intro key pair present
    by_cases same : key = identity
    · simp [Tables.remove, same] at present
    · exact sound.keyed key pair (by simpa [Tables.remove, same] using present)
  paired := by
    obtain ⟨pairing, represents⟩ := sound.paired
    have partners : (Option.map Prod.snd ∘ tables.pairs) identity = some bondContract := by
      simp [found]
    obtain ⟨parted, holds⟩ := represents.unlink partners
    exact ⟨parted, by simpa [Tables.remove, Function.comp_update] using holds⟩
  nodup := sound.nodup.erase identity
  listed := by
    intro key
    have kept : key ∈ (tables.remove identity bondContract).listed ↔
        key ≠ identity ∧ key ∈ tables.listed := sound.nodup.mem_erase_iff
    rw [kept, sound.listed]
    by_cases same : key = identity <;> simp [Tables.remove, same]

end Tables

section Steps

variable {storage after : Storage} {label : Label} {trace : List (Event Storage Label)}

/-- The event registered the identity, which had no entry before it. -/
def Registers (identity : Address) (event : Event Storage Label) : Prop :=
  event.before.identityToBond identity = none ∧
    ((∃ bondContract waived, event.label.call = .register identity bondContract waived) ∨
      ∃ caller, event.label.call = .registerTrustless caller identity)

theorem Registers.unique {first second : Address} {event : Event Storage Label}
    (registers : Registers first event) (also : Registers second event) : second = first := by
  obtain ⟨-, ⟨_, _, called⟩ | ⟨_, called⟩⟩ := registers <;>
    obtain ⟨-, ⟨_, _, again⟩ | ⟨_, again⟩⟩ := also <;>
    simp_all

/-- Before its initialisation the registry is empty and no hash is pinned. -/
def Storage.Fresh (storage : Storage) : Prop :=
  storage.admin = none →
    storage.tables = Storage.deployed.tables ∧ storage.bondCodeHash = []

/-- The tables after writing a new pair. -/
theorem tables_storePair {env : Env} {identity bondContract : Address} :
    (storePair env storage identity bondContract).1.tables =
      storage.tables.store identity bondContract := by
  simp only [Storage.tables, storePair, Tables.store, Function.comp_update]
  rfl

/-- Writing back an entry with another active flag leaves the tables alone. -/
theorem tables_of_flagged {identity : Address} {entry : RegistryEntry} {active : Bool}
    (found : storage.identityToBond identity = some entry) :
    Storage.tables { storage with
      identityToBond := Function.update storage.identityToBond identity
        (some { entry with active := active }) } = storage.tables := by
  have pair : (Option.map RegistryEntry.pair ∘ storage.identityToBond) identity =
      some (entry.identity, entry.bondContract) := by
    simp [found, RegistryEntry.pair]
  simp only [Storage.tables, Function.comp_update, Tables.mk.injEq, and_true]
  exact Function.update_eq_self_iff.mpr pair.symm

/-- What a step does to the tables. -/
inductive TablesChange (storage : Storage) (label : Label) (after : Storage) : Prop where
  | kept : after.tables = storage.tables →
      (∀ identity, ¬Registers identity ⟨storage, label, after⟩) →
      TablesChange storage label after
  | stored (identity bondContract : Address) :
      Registers identity ⟨storage, label, after⟩ →
      storage.tables.pairs identity = none → storage.tables.owner bondContract = none →
      after.tables = storage.tables.store identity bondContract →
      TablesChange storage label after
  | removed (identity : Address) (entry : RegistryEntry) :
      label.call = .remove identity → storage.identityToBond identity = some entry →
      after.tables = storage.tables.remove identity entry.bondContract →
      TablesChange storage label after

/-- A new pair is stored by either registration. -/
theorem TablesChange.of_storePair {env : Env} {identity bondContract : Address}
    (absent : storage.identityToBond identity = none)
    (free : storage.bondToIdentity bondContract = none)
    (called : (∃ bondContract waived,
        label.call = .register identity bondContract waived) ∨
      ∃ caller, label.call = .registerTrustless caller identity)
    (same : after.tables = (storePair env storage identity bondContract).1.tables) :
    TablesChange storage label after := by
  apply TablesChange.stored identity bondContract ⟨absent, called⟩
  · simp [Storage.tables, absent]
  · exact free
  · exact same.trans tables_storePair

theorem step_tables (fresh : storage.Fresh) (stepped : Step storage label after) :
    TablesChange storage label after := by
  obtain ⟨env, contracts, call⟩ := label
  cases call with
  | initializeRegistry admin =>
      obtain ⟨unset, -, rfl⟩ := initializeRegistry_eq_ok.mp stepped
      refine .kept ?_ (by simp [Registers])
      obtain ⟨same, -⟩ := fresh unset
      have empty : storage.registeredIdentities = [] := congrArg Tables.listed same
      simp [Storage.tables, empty]
  | register identity bondContract waived =>
      obtain ⟨⟨_, entry⟩, registered, rfl⟩ := Outcome.map_eq_ok.mp stepped
      obtain ⟨-, -, absent, free, -, rfl⟩ := register_eq_ok.mp registered
      exact .of_storePair absent free (.inl ⟨_, _, rfl⟩) rfl
  | deactivate identity =>
      obtain ⟨-, entry, found, -, rfl⟩ := deactivate_eq_ok.mp stepped
      exact .kept (tables_of_flagged found) (by simp [Registers])
  | remove identity =>
      obtain ⟨-, entry, found, rfl⟩ := remove_eq_ok.mp stepped
      refine .removed identity entry rfl found ?_
      simp [Storage.tables, Tables.remove, Function.comp_update]
  | reactivate identity =>
      obtain ⟨-, entry, found, -, rfl⟩ := reactivate_eq_ok.mp stepped
      exact .kept (tables_of_flagged found) (by simp [Registers])
  | transferAdmin newAdmin =>
      obtain ⟨-, rfl⟩ := transferAdmin_eq_ok.mp stepped
      exact .kept rfl (by simp [Registers])
  | setBondCodeHash codeHash =>
      obtain ⟨-, rfl⟩ := setBondCodeHash_eq_ok.mp stepped
      exact .kept rfl (by simp [Registers])
  | registerTrustless caller identity =>
      obtain ⟨⟨_, entry⟩, registered, rfl⟩ := Outcome.map_eq_ok.mp stepped
      obtain ⟨-, ⟨found, -, -, rfl⟩ | ⟨absent, free, stored⟩⟩ :=
        registerTrustless_eq_ok.mp registered
      · refine .kept rfl fun other registers => ?_
        obtain ⟨missing, ⟨_, _, called⟩ | ⟨_, called⟩⟩ := registers
        · cases called
        · cases called
          simp [found] at missing
      · exact .of_storePair absent free (.inr ⟨_, rfl⟩) (by rw [← stored])
  | pausable call =>
      obtain ⟨pause, -, stored⟩ := Outcome.bind_eq_ok.mp stepped
      obtain rfl := Outcome.pure_eq_ok.mp stored
      exact .kept rfl (by simp [Registers])

end Steps

section Order

variable {trace : List (Event Storage Label)} {listed : List Address}

/-- The listed identities were registered, in this order. -/
structure Ordered (listed : List Address) (trace : List (Event Storage Label)) : Prop where
  registered : ∀ identity ∈ listed, Since (Registers identity) (Registers identity) trace
  ordered : listed.Pairwise fun first second =>
    Precedes (Registers first) (Registers second) trace

theorem Ordered.nil : Ordered [] [] where
  registered := by simp
  ordered := .nil

theorem Ordered.sublist {shorter : List Address} (ordered : Ordered listed trace)
    (fewer : shorter.Sublist listed) : Ordered shorter trace where
  registered := fun identity member => ordered.registered identity (fewer.subset member)
  ordered := ordered.ordered.sublist fewer

/-- Events that register none of the listed identities keep the order. -/
theorem Ordered.quiet {event : Event Storage Label} (ordered : Ordered listed trace)
    (quiet : ∀ identity ∈ listed, ¬Registers identity event) :
    Ordered listed (trace ++ [event]) where
  registered := fun identity member =>
    since_snoc.mpr (.inr ⟨quiet identity member, ordered.registered identity member⟩)
  ordered := by
    refine ordered.ordered.imp_of_mem fun {first second} member _ before => ?_
    exact precedes_snoc.mpr ⟨quiet first member, .inl before⟩

/-- A new registration is the last one. -/
theorem Ordered.append {event : Event Storage Label} {identity : Address}
    (ordered : Ordered listed trace) (registers : Registers identity event)
    (unlisted : identity ∉ listed) : Ordered (listed ++ [identity]) (trace ++ [event]) := by
  have quiet : ∀ other ∈ listed, ¬Registers other event := by
    intro other member again
    obtain rfl : other = identity := registers.unique again
    exact unlisted member
  have kept := ordered.quiet quiet
  constructor
  · intro other member
    rcases List.mem_append.mp member with earlier | final
    · exact kept.registered other earlier
    · obtain rfl : other = identity := by simpa using final
      exact since_snoc.mpr (.inl registers)
  · refine List.pairwise_append.mpr ⟨kept.ordered, by simp, ?_⟩
    intro first member second last
    obtain rfl : second = identity := by simpa using last
    exact precedes_snoc.mpr
      ⟨quiet first member, .inr ⟨ordered.registered first member, registers⟩⟩

end Order

section Runs

variable {storage : Storage} {trace : List (Event Storage Label)}

/-- A call that the admin signed needs an initialised registry. -/
theorem AdminSigned.initialized {env : Env} (signed : AdminSigned env storage)
    (unset : storage.admin = none) : False := by
  obtain ⟨admin, stored, -⟩ := signed
  cases stored.symm.trans unset

theorem fresh_of_step {before after : Storage} {label : Label} (fresh : before.Fresh)
    (stepped : Step before label after) : after.Fresh := by
  intro unset
  obtain ⟨env, contracts, call⟩ := label
  cases call with
  | initializeRegistry admin =>
      obtain ⟨-, -, rfl⟩ := initializeRegistry_eq_ok.mp stepped
      cases unset
  | register identity bondContract waived =>
      obtain ⟨⟨_, entry⟩, registered, rfl⟩ := Outcome.map_eq_ok.mp stepped
      obtain ⟨⟨-, signed⟩, -, -, -, -, rfl⟩ := register_eq_ok.mp registered
      exact (signed.initialized unset).elim
  | deactivate identity =>
      obtain ⟨⟨-, signed⟩, _, -, -, rfl⟩ := deactivate_eq_ok.mp stepped
      exact (signed.initialized unset).elim
  | remove identity =>
      obtain ⟨⟨-, signed⟩, _, -, rfl⟩ := remove_eq_ok.mp stepped
      exact (signed.initialized unset).elim
  | reactivate identity =>
      obtain ⟨⟨-, signed⟩, _, -, -, rfl⟩ := reactivate_eq_ok.mp stepped
      exact (signed.initialized unset).elim
  | transferAdmin newAdmin =>
      obtain ⟨-, rfl⟩ := transferAdmin_eq_ok.mp stepped
      cases unset
  | setBondCodeHash codeHash =>
      obtain ⟨signed, rfl⟩ := setBondCodeHash_eq_ok.mp stepped
      exact (signed.initialized unset).elim
  | registerTrustless caller identity =>
      obtain ⟨⟨_, entry⟩, registered, rfl⟩ := Outcome.map_eq_ok.mp stepped
      obtain ⟨⟨-, -, sized, -⟩, settled⟩ := registerTrustless_eq_ok.mp registered
      have unsetBefore : before.admin = none := by
        rcases settled with ⟨-, -, -, rfl⟩ | ⟨-, -, stored⟩
        · exact unset
        · rw [← unset, (Prod.mk.inj stored).1]
      simp [(fresh unsetBefore).2] at sized
  | pausable call =>
      obtain ⟨pause, -, stored⟩ := Outcome.bind_eq_ok.mp stepped
      obtain rfl := Outcome.pure_eq_ok.mp stored
      exact fresh unset

/-- In every state that a run reaches the tables are sound and the list is in the order
of the registrations. -/
theorem sound_of_run (run : Run Step .deployed trace storage) :
    storage.Fresh ∧ storage.tables.Sound ∧ Ordered storage.registeredIdentities trace := by
  apply run.history (motive := fun trace storage =>
    storage.Fresh ∧ storage.tables.Sound ∧ Ordered storage.registeredIdentities trace)
  · refine ⟨fun _ => ⟨rfl, rfl⟩, ⟨?_, ?_, ?_, ?_⟩, .nil⟩
    · simp [Storage.tables, Storage.deployed]
    · refine ⟨⊥, ?_⟩
      exact Pairing.represents_empty
    · exact List.nodup_nil
    · simp [Storage.tables, Storage.deployed]
  · rintro trace event - ⟨fresh, sound, ordered⟩ stepped
    refine ⟨fresh_of_step fresh stepped, ?_⟩
    cases step_tables fresh stepped with
    | kept same quiet =>
        have listed : event.after.registeredIdentities = event.before.registeredIdentities :=
          congrArg Tables.listed same
        rw [same, listed]
        exact ⟨sound, ordered.quiet fun identity _ => quiet identity⟩
    | stored identity bondContract registers absent free same =>
        have listed : event.after.registeredIdentities =
            event.before.registeredIdentities ++ [identity] :=
          (congrArg Tables.listed same).trans (sound.listed_store absent)
        rw [same, listed]
        refine ⟨sound.store absent free, ordered.append registers fun member => ?_⟩
        exact (sound.listed identity).mp member absent
    | removed identity entry called found same =>
        have listed : event.after.registeredIdentities =
            event.before.registeredIdentities.erase identity :=
          congrArg Tables.listed same
        have pair : event.before.tables.pairs identity =
            some (entry.identity, entry.bondContract) := by
          simp [Storage.tables, found, RegistryEntry.pair]
        have keyed : entry.identity = identity := sound.keyed identity _ pair
        rw [keyed] at pair
        rw [same, listed]
        refine ⟨sound.remove pair, (ordered.quiet ?_).sublist List.erase_sublist⟩
        rintro other - ⟨-, ⟨_, _, registering⟩ | ⟨_, registering⟩⟩ <;>
          simp [called] at registering

end Runs

section Registries

variable {storage : Storage} {trace : List (Event Storage Label)}

/-- The registry after a history. -/
structure Bijective (storage : Storage) (trace : List (Event Storage Label)) : Prop where
  paired : ∀ identity bondContract,
    (∃ entry, storage.identityToBond identity = some entry ∧
      entry.bondContract = bondContract) ↔
        storage.bondToIdentity bondContract = some identity
  keyed : ∀ identity entry, storage.identityToBond identity = some entry →
    entry.identity = identity
  injective : ∀ first second entry other, storage.identityToBond first = some entry →
    storage.identityToBond second = some other →
      entry.bondContract = other.bondContract → first = second
  nodup : storage.registeredIdentities.Nodup
  listed : ∀ identity, identity ∈ storage.registeredIdentities ↔
    ∃ entry, storage.identityToBond identity = some entry
  /-- The list is in the order of the registrations that created the entries. -/
  ordered : storage.registeredIdentities.Pairwise fun first second =>
    Precedes (Registers first) (Registers second) trace
  /-- Every listed identity was registered. -/
  registered : ∀ identity ∈ storage.registeredIdentities,
    ∃ event ∈ trace, Registers identity event
  /-- A removal clears both halves of a pair. -/
  removed : ∀ event ∈ trace, ∀ identity, event.label.call = .remove identity →
    ∃ entry, event.before.identityToBond identity = some entry ∧
      event.after.identityToBond identity = none ∧
        event.after.bondToIdentity entry.bondContract = none ∧
          identity ∉ event.after.registeredIdentities

/-- The two tables are each other's inverse. -/
theorem Tables.Sound.agree (sound : storage.tables.Sound) (identity bondContract : Address) :
    (∃ entry, storage.identityToBond identity = some entry ∧
      entry.bondContract = bondContract) ↔
        storage.bondToIdentity bondContract = some identity := by
  obtain ⟨pairing, represents⟩ := sound.paired
  rw [show storage.bondToIdentity = storage.tables.owner from rfl,
    ← represents.iff identity bondContract]
  simp [Storage.tables, RegistryEntry.pair]

/-- After every run the two lookups undo each other, and the identities that are
registered are listed. -/
theorem lookups_agree (run : Run Step .deployed trace storage) (identity : Address)
    (bondContract : Address) :
    (getIdentity storage bondContract = .ok identity ↔
      ∃ entry, getBondContract storage identity = .ok entry ∧
        entry.bondContract = bondContract) ∧
      (isRegistered storage identity = true → identity ∈ storage.registeredIdentities) := by
  have sound := (sound_of_run run).2.1
  constructor
  · simp only [getIdentity, getBondContract, Outcome.unwrapOr_eq_ok]
    exact (sound.agree identity bondContract).symm
  · intro active
    refine (sound.listed identity).mpr fun absent => ?_
    have missing : storage.identityToBond identity = none := by
      simpa [Storage.tables] using absent
    simp [isRegistered, missing] at active

/-- Every run of the registry keeps the bijection. -/
theorem registry_bijection (run : Run Step .deployed trace storage) :
    Bijective storage trace where
  paired := (sound_of_run run).2.1.agree
  keyed := by
    intro identity entry found
    have pair : storage.tables.pairs identity = some entry.pair := by
      simp [Storage.tables, found]
    exact (sound_of_run run).2.1.keyed identity entry.pair pair
  injective := by
    intro first second entry other found also same
    have agree := (sound_of_run run).2.1.agree
    have owned := (agree first entry.bondContract).mp ⟨entry, found, rfl⟩
    have again := (agree second entry.bondContract).mp ⟨other, also, same.symm⟩
    exact Option.some.inj (owned.symm.trans again)
  nodup := (sound_of_run run).2.1.nodup
  listed := by
    intro identity
    have listed := (sound_of_run run).2.1.listed identity
    rw [show storage.registeredIdentities = storage.tables.listed from rfl, listed]
    simp [Storage.tables, Option.ne_none_iff_exists']
  ordered := (sound_of_run run).2.2.ordered
  registered := by
    intro identity member
    obtain ⟨earlier, event, later, rfl, registers, -⟩ :=
      (sound_of_run run).2.2.registered identity member
    exact ⟨event, by simp, registers⟩
  removed := by
    intro event member identity called
    obtain ⟨earlier, reached, stepped⟩ := run.reached_of_mem member
    obtain ⟨-, before, -⟩ := sound_of_run reached
    obtain ⟨state, ⟨env, contracts, call⟩, after⟩ := event
    obtain rfl : call = .remove identity := called
    have removed : remove env state identity = .ok after := stepped
    obtain ⟨-, entry, found, rfl⟩ := remove_eq_ok.mp removed
    exact ⟨entry, found, by simp, by simp, before.nodup.not_mem_erase⟩

end Registries

section Sample

def sampleContracts : Contracts where
  supportsInterface := fun _ => some true
  reportedCodeHash := fun _ => some (List.replicate 32 7)
  deployedCodeHash := fun _ => some (List.replicate 32 7)

def sampleLabel (timestamp : Nat) (call : Call) : Label where
  env := .signedByAll ⟨0⟩ timestamp
  contracts := sampleContracts
  call := call

/-- Two identities are registered, the first is removed and registers again by itself,
last in the list and with the bond contract it had. -/
theorem registry_bijection_sample :
    ∃ trace storage, Run Step .deployed trace storage ∧ Bijective storage trace ∧
      storage.registeredIdentities = [⟨3⟩, ⟨2⟩] := by
  obtain ⟨storage, followed, listed⟩ : ∃ storage,
      replay next .deployed
          [ sampleLabel 1 (.initializeRegistry ⟨1⟩),
            sampleLabel 2 (.setBondCodeHash (List.replicate 32 7)),
            sampleLabel 3 (.register ⟨2⟩ ⟨20⟩ false),
            sampleLabel 4 (.register ⟨3⟩ ⟨30⟩ true),
            sampleLabel 5 (.deactivate ⟨2⟩),
            sampleLabel 6 (.remove ⟨2⟩),
            sampleLabel 7 (.registerTrustless ⟨20⟩ ⟨2⟩) ] = some storage ∧
        storage.registeredIdentities = [⟨3⟩, ⟨2⟩] :=
    ⟨_, rfl, rfl⟩
  obtain ⟨trace, run, _⟩ := run_of_replay step_of_next followed
  exact ⟨trace, storage, run, registry_bijection run, listed⟩

end Sample

end Registry
