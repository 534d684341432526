import CredenceContracts.Bond.Funds
import CredenceContracts.Library.Rescaling

/-!
# Decimal normalization

Token amounts are accounted in eighteen decimals.  A token with fewer decimals has the
coarser unit, so its amounts are multiplied on the way in, where the product may not fit,
and divided on the way out, where a rest is cut off.
-/

namespace CredenceBond

open Soroban MachineInt Rescaling
open Outcome (rejectIf)

/-- Target decimals for all internal accounting. -/
def normalizedDecimals : Nat :=
  18

def minSupportedDecimals : Nat :=
  0

section Model

variable {Ledger : Type} (token : TokenInterface Ledger) (ledger : Ledger) (asset : Address)

def validateSupportedDecimals : Outcome Unit :=
  let decimals := token.decimals ledger asset
  rejectIf (decimals < minSupportedDecimals ∨ decimals > maxSupportedDecimals)
    (.contract .unsupportedDecimals)

/-- The scale factor, and whether it is a multiplier or a divisor. -/
def getScaleInfo : Outcome (Int × Bool) := do
  let decimals := token.decimals ledger asset
  validateSupportedDecimals token ledger asset
  if decimals ≤ normalizedDecimals then
    let exponent := normalizedDecimals - decimals
    return (wrappingI128 (10 ^ exponent), true)
  else
    let exponent := decimals - normalizedDecimals
    return (wrappingI128 (10 ^ exponent), false)

/-- A native token amount in eighteen decimals. -/
def normalize (amount : Int) : Outcome Int := do
  rejectIf (amount < 0) (.panicked "bond amount cannot be negative")
  let (scale, isMultiplier) ← getScaleInfo token ledger asset
  if isMultiplier then
    checkedI128 (amount * scale)
      (.panicked "normalization overflow: amount * scale exceeds i128")
  else
    checkedDivI128 amount scale (.panicked "normalization error: division by zero")

/-- An amount in eighteen decimals in the token's own. -/
def denormalize (amount : Int) : Outcome Int := do
  rejectIf (amount < 0) (.panicked "cannot denormalize negative amount")
  let (scale, isMultiplier) ← getScaleInfo token ledger asset
  if isMultiplier then
    checkedDivI128 amount scale (.panicked "denormalization error: division by zero")
  else
    checkedI128 (amount * scale)
      (.panicked "denormalization overflow: amount * scale exceeds i128")

/-- The check to make before normalizing an amount. -/
def canNormalizeSafely (amount : Int) : Outcome Bool :=
  if amount < 0 then
    return false
  else do
    let (scale, isMultiplier) ← getScaleInfo token ledger asset
    if isMultiplier then
      return decide (FitsI128 (amount * scale))
    else
      return true

end Model

section Spec

variable {Ledger : Type} {token : TokenInterface Ledger} {ledger : Ledger} {asset : Address}
variable {amount result : Int}

/-- The decimals that the bond contract works with. -/
def SupportedDecimals (decimals : Nat) : Prop :=
  minSupportedDecimals ≤ decimals ∧ decimals ≤ maxSupportedDecimals

/-- How often a unit in eighteen decimals goes into one of the token. -/
def decimalScale (decimals : Nat) : Int :=
  10 ^ (normalizedDecimals - decimals)

theorem decimalScale_pos (decimals : Nat) : 0 < decimalScale decimals :=
  pow_pos (by decide) _

theorem decimalScale_fits (decimals : Nat) : FitsI128 (decimalScale decimals) := by
  have largest : decimalScale decimals ≤ 10 ^ normalizedDecimals :=
    pow_le_pow_right₀ (by decide) (Nat.sub_le _ _)
  exact FitsI128.zero.between (by decide) (decimalScale_pos decimals).le largest

@[simp] theorem validateSupportedDecimals_eq_ok {done : Unit} :
    validateSupportedDecimals token ledger asset = .ok done ↔
      SupportedDecimals (token.decimals ledger asset) := by
  simp [validateSupportedDecimals, SupportedDecimals]

/-- No supported token has more decimals than the accounting, so the factor is always a
multiplier. -/
@[simp] theorem getScaleInfo_eq_ok {scale : Int} {isMultiplier : Bool} :
    getScaleInfo token ledger asset = .ok (scale, isMultiplier) ↔
      SupportedDecimals (token.decimals ledger asset) ∧
        scale = decimalScale (token.decimals ledger asset) ∧ isMultiplier = true := by
  have exact := wrappingI128_of_fits (decimalScale_fits (token.decimals ledger asset))
  rw [decimalScale] at exact
  simp only [getScaleInfo, Outcome.bind_eq_ok, validateSupportedDecimals_eq_ok, exists_const]
  refine and_congr_right fun supported => ?_
  have few : token.decimals ledger asset ≤ normalizedDecimals := supported.2
  rw [if_pos few, exact, Outcome.pure_eq_ok, Prod.mk.injEq, decimalScale]

theorem normalize_eq_ok :
    normalize token ledger asset amount = .ok result ↔
      0 ≤ amount ∧ SupportedDecimals (token.decimals ledger asset) ∧ FitsI128 result ∧
        result = finer (decimalScale (token.decimals ledger asset)) amount := by
  simp only [normalize, Outcome.bind_eq_ok, Outcome.rejectIf_eq_ok, Prod.exists,
    getScaleInfo_eq_ok, finer]
  constructor
  · rintro ⟨-, nonneg, scale, isMultiplier, ⟨supported, rfl, rfl⟩, product⟩
    obtain ⟨fits, rfl⟩ := checkedI128_eq_ok.mp product
    exact ⟨not_lt.mp nonneg, supported, fits, rfl⟩
  · rintro ⟨nonneg, supported, fits, rfl⟩
    exact ⟨(), not_lt.mpr nonneg, _, _, ⟨supported, rfl, rfl⟩,
      checkedI128_eq_ok.mpr ⟨fits, rfl⟩⟩

theorem denormalize_eq_ok :
    denormalize token ledger asset amount = .ok result ↔
      0 ≤ amount ∧ SupportedDecimals (token.decimals ledger asset) ∧ FitsI128 result ∧
        result = coarser (decimalScale (token.decimals ledger asset)) amount := by
  have nonzero := (decimalScale_pos (token.decimals ledger asset)).ne'
  simp only [denormalize, Outcome.bind_eq_ok, Outcome.rejectIf_eq_ok, Prod.exists,
    getScaleInfo_eq_ok, coarser]
  constructor
  · rintro ⟨-, nonneg, scale, isMultiplier, ⟨supported, rfl, rfl⟩, quotient⟩
    obtain ⟨-, fits, rfl⟩ := checkedDivI128_eq_ok.mp quotient
    exact ⟨not_lt.mp nonneg, supported, fits, Int.tdiv_eq_ediv_of_nonneg (not_lt.mp nonneg)⟩
  · rintro ⟨nonneg, supported, fits, rfl⟩
    rw [← Int.tdiv_eq_ediv_of_nonneg nonneg] at fits ⊢
    exact ⟨(), not_lt.mpr nonneg, _, _, ⟨supported, rfl, rfl⟩,
      checkedDivI128_eq_ok.mpr ⟨nonzero, fits, rfl⟩⟩

/-- A token that an amount was pulled in from is a supported one. -/
theorem supported_of_transferIntoContract {env : Env} {storage : Storage} {owner : Address}
    {after : Ledger} (nonzero : amount ≠ 0) (stored : storage.bondToken = some asset)
    (pulled : transferIntoContract token env storage ledger owner amount = .ok after) :
    SupportedDecimals (token.decimals ledger asset) := by
  simp only [transferIntoContract, Outcome.bind_eq_ok, if_neg nonzero, getToken, stored,
    Outcome.unwrapOr_eq_ok, Outcome.rejectIf_eq_ok, Option.some.injEq] at pulled
  obtain ⟨-, -, _, rfl, -, few, -⟩ := pulled
  exact ⟨Nat.zero_le _, not_lt.mp few⟩

end Spec

section Agreement

variable {Ledger : Type} {token : TokenInterface Ledger} {ledger : Ledger} {asset : Address}
variable {amount other first second result back : Int}

/-- Scaled to the accounting and back, an amount is the same. -/
theorem denormalize_normalize (done : normalize token ledger asset amount = .ok result) :
    denormalize token ledger asset result = .ok amount := by
  obtain ⟨nonneg, supported, fits, rfl⟩ := normalize_eq_ok.mp done
  have positive := decimalScale_pos (token.decimals ledger asset)
  exact denormalize_eq_ok.mpr ⟨finer_nonneg positive nonneg, supported,
    FitsI128.zero.between fits nonneg (le_finer positive nonneg), (coarser_finer positive).symm⟩

/-- A larger amount is larger in eighteen decimals. -/
theorem normalize_lt (less : amount < other)
    (one : normalize token ledger asset amount = .ok first)
    (two : normalize token ledger asset other = .ok second) : first < second := by
  obtain ⟨-, -, -, rfl⟩ := normalize_eq_ok.mp one
  obtain ⟨-, -, -, rfl⟩ := normalize_eq_ok.mp two
  exact finer_strictMono (decimalScale_pos _) less

/-- An amount in eighteen decimals loses less than one unit of the token on the way out. -/
theorem normalize_denormalize (supported : SupportedDecimals (token.decimals ledger asset))
    (nonneg : 0 ≤ amount) (fits : FitsI128 amount) :
    ∃ back result, denormalize token ledger asset amount = .ok back ∧
      normalize token ledger asset back = .ok result ∧ result ≤ amount ∧
        amount < result + decimalScale (token.decimals ledger asset) := by
  have positive := decimalScale_pos (token.decimals ledger asset)
  generalize scaled : decimalScale (token.decimals ledger asset) = scale at positive
  have whole : 0 ≤ coarser scale amount := coarser_nonneg positive nonneg
  have again : finer scale (coarser scale amount) ≤ amount := finer_coarser_le positive
  have least : coarser scale amount ≤ finer scale (coarser scale amount) :=
    le_finer positive whole
  refine ⟨coarser scale amount, finer scale (coarser scale amount), ?_, ?_, again,
    lt_finer_coarser_add positive⟩
  · rw [denormalize_eq_ok, scaled]
    exact ⟨nonneg, supported, FitsI128.zero.between fits whole (least.trans again), rfl⟩
  · rw [normalize_eq_ok, scaled]
    exact ⟨whole, supported,
      FitsI128.zero.between fits (finer_nonneg positive whole) again, rfl⟩

/-- The check answers for every amount, and it foretells whether normalizing succeeds. -/
theorem canNormalizeSafely_spec
    (supported : SupportedDecimals (token.decimals ledger asset)) :
    ∃ safe, canNormalizeSafely token ledger asset amount = .ok safe ∧
      (safe = true ↔ ∃ result, normalize token ledger asset amount = .ok result) := by
  unfold canNormalizeSafely
  by_cases negative : amount < 0
  · refine ⟨false, by rw [if_pos negative]; rfl, iff_of_false (by simp) ?_⟩
    rintro ⟨result, done⟩
    exact negative.not_ge (normalize_eq_ok.mp done).1
  · refine ⟨decide (FitsI128 (amount * decimalScale (token.decimals ledger asset))), ?_, ?_⟩
    · rw [if_neg negative]
      simp only [Outcome.bind_eq_ok, Prod.exists, getScaleInfo_eq_ok]
      exact ⟨_, _, ⟨supported, rfl, rfl⟩, rfl⟩
    · simp [normalize_eq_ok, not_lt.mp negative, supported, finer]

/-- Amounts whose sum fits can be scaled one by one. -/
theorem normalize_add (nonneg : 0 ≤ amount) (otherNonneg : 0 ≤ other)
    (done : normalize token ledger asset (amount + other) = .ok result) :
    ∃ first second, normalize token ledger asset amount = .ok first ∧
      normalize token ledger asset other = .ok second ∧ first + second = result := by
  obtain ⟨-, supported, fits, rfl⟩ := normalize_eq_ok.mp done
  have positive := decimalScale_pos (token.decimals ledger asset)
  have left := finer_nonneg positive nonneg
  have right := finer_nonneg positive otherNonneg
  rw [finer_add] at fits ⊢
  refine ⟨_, _, normalize_eq_ok.mpr ⟨nonneg, supported, ?_, rfl⟩,
    normalize_eq_ok.mpr ⟨otherNonneg, supported, ?_, rfl⟩, rfl⟩
  · exact FitsI128.zero.between fits left (le_add_of_nonneg_right right)
  · exact FitsI128.zero.between fits right (le_add_of_nonneg_left left)

/-- Normalizing is lossless and denormalizing cuts off less than one unit of the token, for
every supported token and all amounts from zero on. -/
theorem normalization_agrees (supported : SupportedDecimals (token.decimals ledger asset)) :
    (∀ amount result, normalize token ledger asset amount = .ok result →
      denormalize token ledger asset result = .ok amount) ∧
    (∀ amount other first second, amount < other →
      normalize token ledger asset amount = .ok first →
        normalize token ledger asset other = .ok second → first < second) ∧
    (∀ amount, 0 ≤ amount → FitsI128 amount → ∃ back result,
      denormalize token ledger asset amount = .ok back ∧
        normalize token ledger asset back = .ok result ∧ result ≤ amount ∧
          amount < result + 10 ^ (18 - token.decimals ledger asset)) ∧
    (∀ amount, ∃ safe, canNormalizeSafely token ledger asset amount = .ok safe ∧
      (safe = true ↔ ∃ result, normalize token ledger asset amount = .ok result)) ∧
    ∀ amount other result, 0 ≤ amount → 0 ≤ other →
      normalize token ledger asset (amount + other) = .ok result →
        ∃ first second, normalize token ledger asset amount = .ok first ∧
          normalize token ledger asset other = .ok second ∧ first + second = result :=
  ⟨fun _ _ => denormalize_normalize, fun _ _ _ _ => normalize_lt,
    fun _ => normalize_denormalize supported, fun _ => canNormalizeSafely_spec supported,
    fun _ _ _ => normalize_add⟩

end Agreement

section Sample

/-- A token of six decimals. -/
def sixDecimals : TokenInterface ReferenceLedger :=
  { ReferenceLedger.token with decimals := fun _ _ => 6 }

/-- One and a half tokens come back as they were; of one and a half units in eighteen
decimals and a rest, the rest is lost. -/
theorem normalization_agrees_sample :
    denormalize sixDecimals (.uniform 0) ⟨1⟩ 1500000000000000000 = .ok 1500000 ∧
      ∃ back result, denormalize sixDecimals (.uniform 0) ⟨1⟩ 1500000000007 = .ok back ∧
        normalize sixDecimals (.uniform 0) ⟨1⟩ back = .ok result ∧
          result ≤ 1500000000007 ∧ 1500000000007 < result + 10 ^ 12 := by
  have supported : SupportedDecimals (sixDecimals.decimals (.uniform 0) ⟨1⟩) :=
    ⟨by decide, by decide⟩
  have scaled : normalize sixDecimals (.uniform 0) ⟨1⟩ 1500000 = .ok 1500000000000000000 :=
    normalize_eq_ok.mpr ⟨by decide, supported, by decide, by decide +kernel⟩
  obtain ⟨inward, -, outward, -, -⟩ := normalization_agrees supported
  exact ⟨inward _ _ scaled, outward 1500000000007 (by decide) (by decide)⟩

end Sample

end CredenceBond
