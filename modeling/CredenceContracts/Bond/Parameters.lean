import CredenceContracts.Library.Run
import CredenceContracts.Soroban.Host

/-!
# Protocol parameters

The parameters of the bond contract that governance sets: fees, cooldowns, tier
thresholds and the leverage limit.  Every setter is the same function of a
parameter's own bounds and names, with or without an explicit approval.  Values
of all widths are integers here.
-/

namespace Parameters

open Soroban Transition
open Outcome (rejectIf unwrapOr)

/-- A governance approval of one update; an expiry of 0 means none. -/
structure GovernanceApproval where
  approver : Address
  expiresAt : Nat
  category : String
  deriving DecidableEq, Repr

inductive ParameterKey where
  | protocolFeeBps
  | attestationFeeBps
  | withdrawalCooldownSecs
  | slashCooldownSecs
  | bronzeThreshold
  | silverThreshold
  | goldThreshold
  | platinumThreshold
  | maxLeverage
  deriving DecidableEq, Repr

/-- Where a parameter is stored, what it may be, and how its updates name it. -/
structure Parameter where
  key : ParameterKey
  minimum : Int
  maximum : Int
  default : Int
  /-- The parameter in the text of its bounds failure. -/
  name : String
  /-- The parameter in the topics of its event. -/
  symbol : String
  category : String

/-- The event of an update. -/
structure ParameterUpdated where
  key : String
  category : String
  admin : Address
  oldValue : Int
  newValue : Int
  deriving DecidableEq, Repr

structure Storage where
  admin : Option Address
  value : ParameterKey → Option Int
  events : List ParameterUpdated

/-- A contract whose parameters all have their defaults. -/
def Storage.initialized (admin : Address) : Storage where
  admin := some admin
  value := fun _ => none
  events := []

def Parameter.get (parameter : Parameter) (storage : Storage) : Int :=
  (storage.value parameter.key).getD parameter.default

def validateAdmin (env : Env) (storage : Storage) (caller : Address) : Outcome Unit := do
  requireAuth env caller
  let storedAdmin ← unwrapOr storage.admin (.panicked "not initialized")
  rejectIf (caller ≠ storedAdmin) (.panicked "not admin")

def validateGovernanceApproval (env : Env) (admin : Address) (approval : GovernanceApproval)
    (expectedCategory : String) : Outcome Unit := do
  rejectIf (approval.approver ≠ admin) (.panicked "governance approver mismatch")
  rejectIf (approval.expiresAt > 0 ∧ env.timestamp > approval.expiresAt)
    (.panicked "governance approval expired")
  rejectIf (approval.category ≠ expectedCategory)
    (.panicked "governance approval category mismatch")

/-- Set a parameter under an explicit approval; its own bounds are all that the value
is checked against. -/
def Parameter.setWithApproval (parameter : Parameter) (env : Env) (storage : Storage)
    (admin : Address) (value : Int) (approval : GovernanceApproval) : Outcome Storage := do
  validateAdmin env storage admin
  validateGovernanceApproval env admin approval parameter.category
  rejectIf (¬(parameter.minimum ≤ value ∧ value ≤ parameter.maximum))
    (.panicked (parameter.name ++ " out of bounds"))
  let event := {
    key := parameter.symbol
    category := parameter.category
    admin
    oldValue := parameter.get storage
    newValue := value }
  return { storage with
    value := Function.update storage.value parameter.key (some value)
    events := storage.events ++ [event] }

/-- Set a parameter under the admin's own approval, which does not expire. -/
def Parameter.set (parameter : Parameter) (env : Env) (storage : Storage) (admin : Address)
    (value : Int) : Outcome Storage :=
  parameter.setWithApproval env storage admin value
    { approver := admin, expiresAt := 0, category := parameter.category }

section Table

def protocolFeeBps : Parameter where
  key := .protocolFeeBps
  minimum := 0
  maximum := 1000
  default := 50
  name := "protocol_fee_bps"
  symbol := "fee_prot"
  category := "fee"

def attestationFeeBps : Parameter where
  key := .attestationFeeBps
  minimum := 0
  maximum := 500
  default := 10
  name := "attestation_fee_bps"
  symbol := "fee_att"
  category := "fee"

def withdrawalCooldownSecs : Parameter where
  key := .withdrawalCooldownSecs
  minimum := 0
  maximum := 2592000
  default := 604800
  name := "withdrawal_cooldown_secs"
  symbol := "cd_with"
  category := "cooldown"

def slashCooldownSecs : Parameter where
  key := .slashCooldownSecs
  minimum := 0
  maximum := 604800
  default := 86400
  name := "slash_cooldown_secs"
  symbol := "cd_slash"
  category := "cooldown"

def bronzeThreshold : Parameter where
  key := .bronzeThreshold
  minimum := 0
  maximum := 1000000000000
  default := 100000000
  name := "bronze_threshold"
  symbol := "th_brnz"
  category := "tier"

def silverThreshold : Parameter where
  key := .silverThreshold
  minimum := 100000000
  maximum := 10000000000000
  default := 1000000000
  name := "silver_threshold"
  symbol := "th_slvr"
  category := "tier"

def goldThreshold : Parameter where
  key := .goldThreshold
  minimum := 1000000000
  maximum := 100000000000000
  default := 10000000000
  name := "gold_threshold"
  symbol := "th_gold"
  category := "tier"

def platinumThreshold : Parameter where
  key := .platinumThreshold
  minimum := 10000000000
  maximum := 1000000000000000
  default := 100000000000
  name := "platinum_threshold"
  symbol := "th_plat"
  category := "tier"

def maxLeverage : Parameter where
  key := .maxLeverage
  minimum := 1
  maximum := 100000000
  default := 100000
  name := "max_leverage"
  symbol := "max_lev"
  category := "risk"

end Table

section Functions

def getProtocolFeeBps := protocolFeeBps.get
def getAttestationFeeBps := attestationFeeBps.get
def getWithdrawalCooldownSecs := withdrawalCooldownSecs.get
def getSlashCooldownSecs := slashCooldownSecs.get
def getBronzeThreshold := bronzeThreshold.get
def getSilverThreshold := silverThreshold.get
def getGoldThreshold := goldThreshold.get
def getPlatinumThreshold := platinumThreshold.get
def getMaxLeverage := maxLeverage.get

def setProtocolFeeBps := protocolFeeBps.set
def setAttestationFeeBps := attestationFeeBps.set
def setWithdrawalCooldownSecs := withdrawalCooldownSecs.set
def setSlashCooldownSecs := slashCooldownSecs.set
def setBronzeThreshold := bronzeThreshold.set
def setSilverThreshold := silverThreshold.set
def setGoldThreshold := goldThreshold.set
def setPlatinumThreshold := platinumThreshold.set
def setMaxLeverage := maxLeverage.set

def setProtocolFeeBpsWithApproval := protocolFeeBps.setWithApproval
def setAttestationFeeBpsWithApproval := attestationFeeBps.setWithApproval
def setWithdrawalCooldownSecsWithApproval := withdrawalCooldownSecs.setWithApproval
def setSlashCooldownSecsWithApproval := slashCooldownSecs.setWithApproval
def setBronzeThresholdWithApproval := bronzeThreshold.setWithApproval
def setSilverThresholdWithApproval := silverThreshold.setWithApproval
def setGoldThresholdWithApproval := goldThreshold.setWithApproval
def setPlatinumThresholdWithApproval := platinumThreshold.setWithApproval
def setMaxLeverageWithApproval := maxLeverage.setWithApproval

/-- The parameter stored under a key. -/
def ParameterKey.parameter : ParameterKey → Parameter
  | .protocolFeeBps => Parameters.protocolFeeBps
  | .attestationFeeBps => Parameters.attestationFeeBps
  | .withdrawalCooldownSecs => Parameters.withdrawalCooldownSecs
  | .slashCooldownSecs => Parameters.slashCooldownSecs
  | .bronzeThreshold => Parameters.bronzeThreshold
  | .silverThreshold => Parameters.silverThreshold
  | .goldThreshold => Parameters.goldThreshold
  | .platinumThreshold => Parameters.platinumThreshold
  | .maxLeverage => Parameters.maxLeverage

/-- The setter of the parameter under a key. -/
def ParameterKey.set :
    ParameterKey → Env → Storage → Address → Int → Outcome Storage
  | .protocolFeeBps => setProtocolFeeBps
  | .attestationFeeBps => setAttestationFeeBps
  | .withdrawalCooldownSecs => setWithdrawalCooldownSecs
  | .slashCooldownSecs => setSlashCooldownSecs
  | .bronzeThreshold => setBronzeThreshold
  | .silverThreshold => setSilverThreshold
  | .goldThreshold => setGoldThreshold
  | .platinumThreshold => setPlatinumThreshold
  | .maxLeverage => setMaxLeverage

/-- The setter that takes an approval of the parameter under a key. -/
def ParameterKey.setWithApproval :
    ParameterKey → Env → Storage → Address → Int → GovernanceApproval → Outcome Storage
  | .protocolFeeBps => setProtocolFeeBpsWithApproval
  | .attestationFeeBps => setAttestationFeeBpsWithApproval
  | .withdrawalCooldownSecs => setWithdrawalCooldownSecsWithApproval
  | .slashCooldownSecs => setSlashCooldownSecsWithApproval
  | .bronzeThreshold => setBronzeThresholdWithApproval
  | .silverThreshold => setSilverThresholdWithApproval
  | .goldThreshold => setGoldThresholdWithApproval
  | .platinumThreshold => setPlatinumThresholdWithApproval
  | .maxLeverage => setMaxLeverageWithApproval

end Functions

/-- The calls of the setters. -/
inductive Call where
  | set (key : ParameterKey) (admin : Address) (value : Int)
  | setWithApproval (key : ParameterKey) (admin : Address) (value : Int)
      (approval : GovernanceApproval)

def Call.key : Call → ParameterKey
  | .set key _ _ => key
  | .setWithApproval key _ _ _ => key

def Call.value : Call → Int
  | .set _ _ value => value
  | .setWithApproval _ _ value _ => value

def invoke (env : Env) (storage : Storage) : Call → Outcome Storage
  | .set key admin value => key.set env storage admin value
  | .setWithApproval key admin value approval =>
      key.setWithApproval env storage admin value approval

/-- One call and the environment it is made in. -/
structure Label where
  env : Env
  call : Call

/-- The updates that are accepted; a failing one has no effect and is no step. -/
def Step (storage : Storage) (label : Label) (after : Storage) : Prop :=
  invoke label.env storage label.call = .ok after

def next (storage : Storage) (label : Label) : Option Storage :=
  (invoke label.env storage label.call).toOption

theorem step_of_next {storage after : Storage} {label : Label}
    (followed : next storage label = some after) : Step storage label after :=
  Outcome.toOption_eq_some.mp followed

section Updates

variable {env : Env} {storage after : Storage} {label : Label}

theorem ParameterKey.set_eq (key : ParameterKey) : key.set = key.parameter.set := by
  cases key <;> rfl

theorem ParameterKey.setWithApproval_eq (key : ParameterKey) :
    key.setWithApproval = key.parameter.setWithApproval := by
  cases key <;> rfl

@[simp] theorem ParameterKey.parameter_key (key : ParameterKey) : key.parameter.key = key := by
  cases key <;> rfl

/-- The value is within the parameter's bounds. -/
def Parameter.Admits (parameter : Parameter) (value : Int) : Prop :=
  parameter.minimum ≤ value ∧ value ≤ parameter.maximum

/-- Every default passes the check of its own setter. -/
theorem default_admitted (key : ParameterKey) : key.parameter.Admits key.parameter.default := by
  unfold Parameter.Admits
  cases key <;> decide

/-- What an accepted update needs and what it writes. -/
theorem setWithApproval_eq_ok {parameter : Parameter} {admin : Address} {value : Int}
    {approval : GovernanceApproval} :
    parameter.setWithApproval env storage admin value approval = .ok after ↔
      (env.authorized admin = true ∧ storage.admin = some admin) ∧
        (approval.approver = admin ∧ approval.category = parameter.category ∧
          (0 < approval.expiresAt → env.timestamp ≤ approval.expiresAt)) ∧
        parameter.Admits value ∧
          after = { storage with
            value := Function.update storage.value parameter.key (some value)
            events := storage.events ++ [{
              key := parameter.symbol
              category := parameter.category
              admin
              oldValue := parameter.get storage
              newValue := value }] } := by
  simp only [Parameter.setWithApproval, validateAdmin, validateGovernanceApproval,
    Parameter.Admits, Outcome.bind_eq_ok, requireAuth_eq_ok, Outcome.unwrapOr_eq_ok,
    Outcome.rejectIf_eq_ok, Outcome.pure_eq_ok]
  grind

/-- An accepted update writes an admitted value under its key, and nothing else. -/
theorem step_writes (stepped : Step storage label after) :
    label.call.key.parameter.Admits label.call.value ∧ after.admin = storage.admin ∧
      after.value =
        Function.update storage.value label.call.key (some label.call.value) := by
  obtain ⟨env, call⟩ := label
  unfold Step at stepped
  cases call with
  | set key admin value =>
      simp only [invoke, ParameterKey.set_eq, Parameter.set] at stepped
      obtain ⟨-, -, admitted, rfl⟩ := setWithApproval_eq_ok.mp stepped
      exact ⟨admitted, rfl, by simp [Call.key, Call.value]⟩
  | setWithApproval key admin value approval =>
      simp only [invoke, ParameterKey.setWithApproval_eq] at stepped
      obtain ⟨-, -, admitted, rfl⟩ := setWithApproval_eq_ok.mp stepped
      exact ⟨admitted, rfl, by simp [Call.key, Call.value]⟩

/-- What is read after an update. -/
theorem step_get (stepped : Step storage label after) (key : ParameterKey) :
    key.parameter.get after =
      if key = label.call.key then label.call.value else key.parameter.get storage := by
  obtain ⟨-, -, written⟩ := step_writes stepped
  unfold Parameter.get
  rw [written, ParameterKey.parameter_key, Function.update_apply]
  split <;> rfl

/-- In every run of updates all parameters stay within their bounds. -/
theorem values_admitted {admin : Address} {trace : List (Event Storage Label)}
    (run : Run Step (.initialized admin) trace storage) (key : ParameterKey) :
    key.parameter.Admits (key.parameter.get storage) := by
  refine run.invariant (fun state => key.parameter.Admits (key.parameter.get state))
    (default_admitted key) ?_
  intro event admitted stepped
  rw [step_get stepped key]
  split
  · rename_i same
    exact same ▸ (step_writes stepped).1
  · exact admitted

end Updates

end Parameters
