import CredenceContracts.Library.Outcome

/-!
# The contract host

What a contract sees of the platform it runs on: the invocation environment and
the ways an invocation fails.  A failed invocation has no effect, so contract
functions return the new state only when they succeed.  Entry lifetimes are a model
of their own; elsewhere no stored entry is lost to archival.
-/

namespace Soroban

/-- An account or a contract. -/
structure Address where
  key : Nat
  deriving DecidableEq, Repr

/-- A byte string. -/
abbrev Bytes :=
  List UInt8

/-- A byte string of fixed length. -/
abbrev BytesN (length : Nat) :=
  Vector UInt8 length

/-- The invocation environment. -/
structure Env where
  currentContractAddress : Address
  timestamp : Nat
  sequence : Nat
  /-- The addresses that authorised this invocation with its arguments. -/
  authorized : Address → Bool

/-- An invocation of the contract at `self` that every account authorised. -/
def Env.signedByAll (self : Address) (timestamp : Nat) : Env where
  currentContractAddress := self
  timestamp
  sequence := timestamp
  authorized := fun _ => true

/-- An invocation of the contract at `self` that one account authorised. -/
def Env.signedBy (signer self : Address) (timestamp : Nat) : Env where
  currentContractAddress := self
  timestamp
  sequence := timestamp
  authorized := fun address => address == signer

/-- The error codes that the modelled entry points raise. -/
inductive ContractError where
  | notInitialized
  | alreadyInitialized
  | notAdmin
  | notSigner
  | unauthorizedDepositor
  | alreadyActive
  | alreadyDeactivated
  | adminSuspended
  | contractPaused
  | invalidPauseAction
  | amountMustBePositive
  | thresholdExceedsSigners
  | insufficientTreasuryBalance
  | proposalNotFound
  | proposalAlreadyExecuted
  | insufficientApprovals
  | proposalExpired
  | slippageExceeded
  | invalidNonce
  | expiryInPast
  | delegationExpiryTooLong
  | delegationNotFound
  | delegationNotExpired
  | alreadyRevoked
  | revocationGraceExpired
  | domainMismatch
  | ownerMismatch
  | targetMismatch
  | contractIdMismatch
  | unknownScheme
  | verifierNotRegistered
  | verificationFailed
  | bondNotFound
  | bondNotActive
  | notBondOwner
  | insufficientBalance
  | slashExceedsBond
  | lockupNotExpired
  | notRollingBond
  | withdrawalAlreadyRequested
  | reentrancyDetected
  | earlyExitConfigNotSet
  | invariantViolation
  | leverageExceeded
  | unsupportedDecimals
  | unauthorizedToken
  | treasuryNotConfigured
  | duplicateIdempotencyKey
  | unauthorizedAttester
  | duplicateAttestation
  | attestationNotFound
  | notOriginalAttester
  | attestationAlreadyRevoked
  | attestationWeightExceedsMax
  | emptyBatch
  | batchTooLarge
  | timelockNotReady
  | emergencyDrainNotPermitted
  | cursorOutOfRange
  | signatureExpired
  | identityAlreadyRegistered
  | bondContractAlreadyRegistered
  | identityNotRegistered
  | bondContractNotRegistered
  | unsupportedInterface
  | contractCodeVerificationFailed
  | adminUnchanged
  | invalidAdminAddress
  | overflow
  | underflow
  deriving DecidableEq, Repr

/-- Why an invocation failed. -/
inductive Failure where
  | contract (code : ContractError)
  | panicked (message : String)
  | unauthorized (address : Address)
  /-- A call into another contract or of a host function failed. -/
  | trapped
  deriving DecidableEq, Repr

abbrev Outcome (α : Type) :=
  Except Failure α

def requireAuth (env : Env) (address : Address) : Outcome Unit :=
  Outcome.rejectIf (env.authorized address = false) (.unauthorized address)

@[simp] theorem requireAuth_eq_ok {env : Env} {address : Address} {result : Unit} :
    requireAuth env address = .ok result ↔ env.authorized address = true := by
  simp [requireAuth]

/-- The result of a call into another contract. -/
def calling {α : Type} (result : Option α) : Outcome α :=
  Outcome.unwrapOr result .trapped

@[simp] theorem calling_eq_ok {α : Type} {call : Option α} {result : α} :
    calling call = .ok result ↔ call = some result := by
  simp [calling]

end Soroban
