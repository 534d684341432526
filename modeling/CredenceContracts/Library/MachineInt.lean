import CredenceContracts.Library.Outcome
import Mathlib.Algebra.Order.Ring.Int

/-!
# Machine integers as mathematical integers

Signed 128-bit words are integers and unsigned words are naturals; a checked
operation is the exact operation followed by a range check, and an unchecked
one is the exact operation followed by a reduction.
-/

namespace MachineInt

variable {ε : Type}

/-- The values of a signed 128-bit word. -/
def FitsI128 (value : Int) : Prop :=
  -2 ^ 127 ≤ value ∧ value < 2 ^ 127

instance : DecidablePred FitsI128 := fun value => by
  unfold FitsI128
  infer_instance

theorem FitsI128.between {low value high : Int} (lowFits : FitsI128 low)
    (highFits : FitsI128 high) (lower : low ≤ value) (upper : value ≤ high) :
    FitsI128 value := by
  unfold FitsI128 at *
  omega

theorem FitsI128.zero : FitsI128 0 := by
  decide

/-- The outcome of a checked signed operation with an exact result. -/
def checkedI128 (exact : Int) (failure : ε) : Except ε Int :=
  if FitsI128 exact then .ok exact else .error failure

/-- The outcome of a checked signed division, which truncates. -/
def checkedDivI128 (dividend divisor : Int) (failure : ε) : Except ε Int :=
  if divisor = 0 then .error failure else checkedI128 (dividend.tdiv divisor) failure

/-- The outcome of a checked unsigned operation with an exact result. -/
def checkedUnsigned (width exact : Nat) (failure : ε) : Except ε Nat :=
  if exact < 2 ^ width then .ok exact else .error failure

def checkedU32 (exact : Nat) (failure : ε) : Except ε Nat :=
  checkedUnsigned 32 exact failure

def checkedU64 (exact : Nat) (failure : ε) : Except ε Nat :=
  checkedUnsigned 64 exact failure

/-- The conversion of a signed word to an unsigned one. -/
def toU128 (value : Int) (failure : ε) : Except ε Nat :=
  if 0 ≤ value then .ok value.toNat else .error failure

/-- The conversion of an unsigned 128-bit word to a signed one. -/
def toI128 (value : Nat) (failure : ε) : Except ε Int :=
  if value < 2 ^ 127 then .ok value else .error failure

def u64Max : Nat :=
  2 ^ 64 - 1

/-- An unchecked signed operation with an exact result. -/
def wrappingI128 (exact : Int) : Int :=
  (exact + 2 ^ 127) % 2 ^ 128 - 2 ^ 127

/-- An unchecked unsigned 32-bit operation with an exact result. -/
def wrappingU32 (exact : Nat) : Nat :=
  exact % 2 ^ 32

/-- A saturating signed operation with an exact result. -/
def saturatingI128 (exact : Int) : Int :=
  max (-2 ^ 127) (min exact (2 ^ 127 - 1))

/-- The exact result of a signed operation, or zero where it does not fit. -/
def i128OrZero (exact : Int) : Int :=
  if FitsI128 exact then exact else 0

/-- A saturating unsigned 32-bit operation with an exact result. -/
def saturatingU32 (exact : Nat) : Nat :=
  min exact (2 ^ 32 - 1)

/-- A saturating unsigned 128-bit operation with an exact result. -/
def saturatingU128 (exact : Nat) : Nat :=
  min exact (2 ^ 128 - 1)

/-- A saturating unsigned 64-bit operation with an exact result. -/
def saturatingU64 (exact : Nat) : Nat :=
  min exact u64Max

@[simp] theorem checkedI128_eq_ok {exact result : Int} {failure : ε} :
    checkedI128 exact failure = .ok result ↔ FitsI128 exact ∧ result = exact := by
  unfold checkedI128
  split <;> simp_all [eq_comm]

@[simp] theorem checkedI128_eq_error {exact : Int} {failure raised : ε} :
    checkedI128 exact failure = .error raised ↔ ¬FitsI128 exact ∧ failure = raised := by
  unfold checkedI128
  split <;> simp_all

@[simp] theorem checkedDivI128_eq_ok {dividend divisor result : Int} {failure : ε} :
    checkedDivI128 dividend divisor failure = .ok result ↔
      divisor ≠ 0 ∧ FitsI128 (dividend.tdiv divisor) ∧ result = dividend.tdiv divisor := by
  unfold checkedDivI128
  split <;> simp_all

@[simp] theorem checkedUnsigned_eq_ok {width exact result : Nat} {failure : ε} :
    checkedUnsigned width exact failure = .ok result ↔
      exact < 2 ^ width ∧ result = exact := by
  unfold checkedUnsigned
  split <;> simp_all [eq_comm]

@[simp] theorem checkedU32_eq_ok {exact result : Nat} {failure : ε} :
    checkedU32 exact failure = .ok result ↔ exact < 2 ^ 32 ∧ result = exact :=
  checkedUnsigned_eq_ok

@[simp] theorem checkedU64_eq_ok {exact result : Nat} {failure : ε} :
    checkedU64 exact failure = .ok result ↔ exact < 2 ^ 64 ∧ result = exact :=
  checkedUnsigned_eq_ok

@[simp] theorem checkedUnsigned_eq_error {width exact : Nat} {failure raised : ε} :
    checkedUnsigned width exact failure = .error raised ↔
      2 ^ width ≤ exact ∧ failure = raised := by
  unfold checkedUnsigned
  split <;> simp_all

@[simp] theorem checkedU64_eq_error {exact : Nat} {failure raised : ε} :
    checkedU64 exact failure = .error raised ↔ 2 ^ 64 ≤ exact ∧ failure = raised :=
  checkedUnsigned_eq_error

@[simp] theorem toU128_eq_ok {value : Int} {result : Nat} {failure : ε} :
    toU128 value failure = .ok result ↔ 0 ≤ value ∧ result = value.toNat := by
  unfold toU128
  split <;> simp_all [eq_comm]

@[simp] theorem toI128_eq_ok {value : Nat} {result : Int} {failure : ε} :
    toI128 value failure = .ok result ↔ value < 2 ^ 127 ∧ result = value := by
  unfold toI128
  split <;> simp_all [eq_comm]

theorem wrappingI128_of_fits {exact : Int} (fits : FitsI128 exact) :
    wrappingI128 exact = exact := by
  unfold FitsI128 at fits
  unfold wrappingI128
  omega

end MachineInt
