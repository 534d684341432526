import CredenceContracts.Soroban.Token

/-!
# What the bond contract stores

One bond record, the pull-payment claims of every user, the configuration that
the bond entry points read and the log of published events.  Entries whose
every read has the same default are kept as plain values that start at it.
-/

namespace CredenceBond

open Soroban

/-- Identity tier based on bonded amount. -/
inductive BondTier where
  | bronze
  | silver
  | gold
  | platinum
  deriving DecidableEq, Repr

/-- The stored bond. -/
structure IdentityBond where
  identity : Address
  bondedAmount : Int
  bondStart : Nat
  bondDuration : Nat
  slashedAmount : Int
  active : Bool
  isRolling : Bool
  /-- Zero while no withdrawal is requested. -/
  withdrawalRequestedAt : Nat
  noticePeriodDuration : Nat
  deriving DecidableEq, Repr

/-- The withdrawable stake. -/
def IdentityBond.stake (bond : IdentityBond) : Int :=
  bond.bondedAmount - bond.slashedAmount

structure EarlyExitConfig where
  treasury : Address
  penaltyBps : Nat
  deriving DecidableEq, Repr

/-- How the weight of an attestation follows from its attester's stake. -/
structure WeightConfig where
  multiplierBps : Nat
  maxWeight : Nat
  deriving DecidableEq, Repr

/-- The exclusive upper bounds of the tiers below the highest. -/
structure TierThresholds where
  bronzeMax : Int
  silverMax : Int
  goldMax : Int
  deriving DecidableEq, Repr

/-- Source classification for funds leaving the bond contract. -/
inductive FundSource where
  | protocolFee
  | slashedFunds
  deriving DecidableEq, Repr

structure SlashRecord where
  identity : Address
  slashAmount : Int
  reason : String
  timestamp : Nat
  totalSlashedAfter : Int
  deriving DecidableEq, Repr

/-- Types of claimable rewards. -/
inductive ClaimType where
  | verifierReward
  | slashingReward
  | penaltyRefund
  | feeRebate
  | disputeReward
  deriving DecidableEq, Repr

/-- A pending claim for a user. -/
structure PendingClaim where
  claimId : Nat
  claimType : ClaimType
  amount : Int
  createdAt : Nat
  /-- Zero for no expiry. -/
  expiresAt : Nat
  sourceId : Nat
  metadata : String
  processed : Bool
  deriving DecidableEq, Repr

/-- Result of a claim operation. -/
structure ClaimResult where
  processedCount : Nat
  totalAmount : Int
  claimTypes : List ClaimType
  deriving DecidableEq, Repr

/-- The events that the contract can publish, with their topics and data. -/
inductive BondEvent where
  | bondCreatedV2 (identity : Address) (amount : Int) (startTimestamp duration : Nat)
      (isRolling : Bool) (endTimestamp : Nat)
  | bondIncreasedV2 (identity : Address) (addedAmount newTotal : Int) (timestamp : Nat)
      (tierChanged : Bool) (newTier : BondTier)
  | bondWithdrawnV2 (identity : Address) (amountWithdrawn remaining : Int) (timestamp : Nat)
      (isEarly : Bool) (penaltyAmount : Int)
  | earlyExitConfigSet (treasury : Address) (penaltyBps : Nat)
  | earlyExitPenalty (identity : Address) (withdrawAmount penalty : Int) (treasury : Address)
  | bondFundTransfer (recipient : Address) (amount : Int) (source : FundSource)
  | tierChanged (identity : Address) (newTier : BondTier)
  | tierChangedV2 (identity : Address) (oldTier newTier : BondTier) (timestamp : Nat)
  | withdrawalRequested (identity : Address) (requestedAt : Nat)
  | bondRenewed (identity : Address) (bondStart bondDuration : Nat)
  | bondSlashed (identity : Address) (slashAmount totalSlashed : Int)
  | bondSlashedV2 (identity : Address) (slashAmount totalSlashed : Int) (timestamp : Nat)
      (admin : Address) (reason : String) (isFullSlash : Bool)
  | bondLiquidated (identity : Address) (residual : Int) (reason : String) (timestamp : Nat)
      (admin : Address)
  | adminTransferred (currentAdmin newAdmin : Address)
  | liquidationTreasurySet (treasury : Address)
  | slashTreasurySet (treasury : Address)
  | claimAdded (user : Address) (claimType : ClaimType) (amount : Int) (sourceId : Nat)
  | claimsProcessed (user : Address) (result : ClaimResult)
  | claimsExpired (user : Address) (expiredCount : Nat) (expiredAmount : Int)
  deriving DecidableEq, Repr

/-- The entries of the pull-payment claims. -/
structure ClaimStore where
  pendingClaims : Address → List PendingClaim
  claimableAmount : Address → Int
  claimCounter : Nat
  claimById : Nat → Option PendingClaim

/-- The sum of the amounts of a list of claims. -/
def claimSum (claims : List PendingClaim) : Int :=
  (claims.map PendingClaim.amount).sum

/-- The stored entries and the events published so far. -/
structure Storage where
  admin : Option Address
  acceptedTokens : List Address
  bondToken : Option Address
  bond : Option IdentityBond
  tierThresholds : Option TierThresholds
  maxLeverage : Nat
  earlyExitConfig : Option EarlyExitConfig
  weightConfig : WeightConfig
  lastCollateralIncreaseLedger : Option Nat
  locked : Bool
  callback : Option Address
  fees : Int
  slashTreasury : Option Address
  slashCounter : Nat
  slashCount : Address → Nat
  slashRecord : Address → Nat → Option SlashRecord
  liquidationTreasury : Option Address
  liquidated : Address → Bool
  idempotencyKey : Bytes → Bool
  subjectAttestations : Address → List Nat
  subjectAttestationCount : Address → Option Nat
  claims : ClaimStore
  events : List BondEvent

def defaultMaxLeverage : Nat :=
  100000

def defaultWeightConfig : WeightConfig where
  multiplierBps := 100
  maxWeight := 100000

/-- A store without claims. -/
def ClaimStore.empty : ClaimStore where
  pendingClaims := fun _ => []
  claimableAmount := fun _ => 0
  claimCounter := 0
  claimById := fun _ => none

/-- A bond contract in which nothing was stored yet. -/
def Storage.deployed : Storage where
  admin := none
  acceptedTokens := []
  bondToken := none
  bond := none
  tierThresholds := none
  maxLeverage := defaultMaxLeverage
  earlyExitConfig := none
  weightConfig := defaultWeightConfig
  lastCollateralIncreaseLedger := none
  locked := false
  callback := none
  fees := 0
  slashTreasury := none
  slashCounter := 0
  slashCount := fun _ => 0
  slashRecord := fun _ _ => none
  liquidationTreasury := none
  liquidated := fun _ => false
  idempotencyKey := fun _ => false
  subjectAttestations := fun _ => []
  subjectAttestationCount := fun _ => none
  claims := .empty
  events := []

/-- The withdrawable stake of the stored bond, none without a bond. -/
def Storage.stake (storage : Storage) : Int :=
  match storage.bond with
  | some bond => bond.stake
  | none => 0

def Storage.publish (storage : Storage) (event : BondEvent) : Storage :=
  { storage with events := storage.events ++ [event] }

/-- The bond contract together with the token ledger it moves funds on. -/
structure State (Ledger : Type) where
  storage : Storage
  ledger : Ledger

end CredenceBond
