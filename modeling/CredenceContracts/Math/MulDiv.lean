import CredenceContracts.Library.IntegerRounding
import CredenceContracts.Library.MachineInt
import CredenceContracts.Soroban.Host
import Mathlib.Data.Rat.Floor

/-!
# Multiplication followed by division

The product of two signed 128-bit words is formed as an unsigned 256-bit word from their
absolute values, divided and rounded there, and given its sign at the end.  The 256-bit
words are those of another library: what it does is a parameter here, and what is relied
on are the exact results of operations that do not overflow.
-/

namespace CredenceMath

open Soroban MachineInt
open IntegerRounding (Direction)
open Outcome (rejectIf)

/-- The operations on unsigned 256-bit words. -/
structure U256 (Word : Type) where
  /-- The word of an unsigned 128-bit one. -/
  new : Nat → Word
  add : Word → Word → Word
  mul : Word → Word → Word
  div : Word → Word → Word
  rem : Word → Word → Word
  eq : Word → Word → Bool
  ge : Word → Word → Bool
  gt : Word → Word → Bool
  asU128 : Word → Nat

/-- Words have the values that `value` gives them, and an operation has the exact result
where that is a 256-bit word. -/
structure U256.Exact {Word : Type} (words : U256 Word) (value : Word → Nat) : Prop where
  new : ∀ {number}, number < 2 ^ 128 → value (words.new number) = number
  add : ∀ {first second}, value first + value second < 2 ^ 256 →
    value (words.add first second) = value first + value second
  mul : ∀ {first second}, value first * value second < 2 ^ 256 →
    value (words.mul first second) = value first * value second
  div : ∀ {first second}, value second ≠ 0 →
    value (words.div first second) = value first / value second
  rem : ∀ {first second}, value second ≠ 0 →
    value (words.rem first second) = value first % value second
  eq : ∀ {first second}, words.eq first second = true ↔ value first = value second
  ge : ∀ {first second}, words.ge first second = true ↔ value first ≥ value second
  gt : ∀ {first second}, words.gt first second = true ↔ value first > value second
  asU128 : ∀ {word}, value word < 2 ^ 128 → words.asU128 word = value word

/-- Rounding behavior of the division. -/
inductive Rounding where
  | down
  | up
  | nearest
  deriving DecidableEq, Repr

def bpsDenominator : Int :=
  10000

def i128Max : Nat :=
  2 ^ 127 - 1

section Calls

variable {Word : Type} (words : U256 Word)

/-- The rounded quotient, by the remainder of the division. -/
def rounded (quotient remainder divisor : Word) (mode : Rounding) : Word :=
  match mode with
  | .down => quotient
  | .up =>
      if words.eq remainder (words.new 0) then quotient
      else words.add quotient (words.new 1)
  | .nearest =>
      if words.ge (words.mul remainder (words.new 2)) divisor then
        words.add quotient (words.new 1)
      else
        quotient

/-- The rounded absolute value with its sign, where that is a signed 128-bit word. -/
def withSign (rounded : Word) (negative : Bool) (msg : String) : Outcome Int := do
  let positiveLimit := words.new i128Max
  let negativeLimit := words.new (i128Max + 1)
  if negative then do
    rejectIf (words.gt rounded negativeLimit = true) (.panicked msg)
    if words.eq rounded negativeLimit then
      return -2 ^ 127
    else do
      let magnitude ← toI128 (words.asU128 rounded) (.panicked msg)
      return wrappingI128 (-magnitude)
  else do
    rejectIf (words.gt rounded positiveLimit = true) (.panicked msg)
    toI128 (words.asU128 rounded) (.panicked msg)

/-- `a * b / denom` over a 256-bit intermediate. -/
def mulDivI128 (a b denom : Int) (mode : Rounding) (msg : String) : Outcome Int := do
  rejectIf (denom = 0) (.panicked msg)
  let negative := ((decide (a < 0)).xor (decide (b < 0))).xor (decide (denom < 0))
  let numerator := words.mul (words.new a.natAbs) (words.new b.natAbs)
  let divisor := words.new denom.natAbs
  let quotient := words.div numerator divisor
  let remainder := words.rem numerator divisor
  withSign words (rounded words quotient remainder divisor mode) negative msg

/-- A basis-point percentage of an amount, rounded away from zero. -/
def bpsRoundUp (amount : Int) (bpsValue : Nat) (msg : String) : Outcome Int :=
  mulDivI128 words amount bpsValue bpsDenominator .up msg

end Calls

section Magnitudes

variable {Word : Type} {words : U256 Word} {value : Word → Nat}

/-- The direction in which a mode rounds. -/
def Rounding.direction : Rounding → Direction
  | .down => .towardZero
  | .up => .awayFromZero
  | .nearest => .nearest

theorem natAbs_le {number : Int} (fits : FitsI128 number) : number.natAbs ≤ 2 ^ 127 := by
  unfold FitsI128 at fits
  omega

theorem product_le {a b : Int} (aFits : FitsI128 a) (bFits : FitsI128 b) :
    a.natAbs * b.natAbs ≤ 2 ^ 254 := by
  calc a.natAbs * b.natAbs ≤ 2 ^ 127 * 2 ^ 127 :=
        Nat.mul_le_mul (natAbs_le aFits) (natAbs_le bFits)
    _ = 2 ^ 254 := by norm_num

/-- The 256-bit words round the quotient of the absolute values exactly. -/
theorem value_rounded (exact : words.Exact value) {numerator divisor : Word} {mode : Rounding}
    (nonzero : value divisor ≠ 0) (small : value numerator ≤ 2 ^ 254)
    (narrow : value divisor ≤ 2 ^ 127) :
    value (rounded words (words.div numerator divisor) (words.rem numerator divisor) divisor
      mode) = mode.direction.quotient (value numerator) (value divisor) := by
  have one : value (words.new 1) = 1 := exact.new (by norm_num)
  have quotient : value (words.div numerator divisor) = value numerator / value divisor :=
    exact.div nonzero
  have remainder : value (words.rem numerator divisor) = value numerator % value divisor :=
    exact.rem nonzero
  have bounded : value numerator / value divisor ≤ 2 ^ 254 := (Nat.div_le_self _ _).trans small
  have next : value (words.add (words.div numerator divisor) (words.new 1)) =
      value numerator / value divisor + 1 := by
    rw [exact.add (by rw [quotient, one]; omega), quotient, one]
  cases mode with
  | down => exact quotient
  | up =>
      have zero : words.eq (words.rem numerator divisor) (words.new 0) = true ↔
          value numerator % value divisor = 0 := by
        rw [exact.eq, remainder, exact.new (by norm_num)]
      simp only [rounded, Rounding.direction, Direction.quotient, zero, apply_ite value, next,
        quotient]
  | nearest =>
      have below : value numerator % value divisor < value divisor :=
        Nat.mod_lt _ (Nat.pos_of_ne_zero nonzero)
      have two : value (words.new 2) = 2 := exact.new (by norm_num)
      have doubled : value (words.mul (words.rem numerator divisor) (words.new 2)) =
          value numerator % value divisor * 2 := by
        rw [exact.mul (by rw [remainder, two]; omega), remainder, two]
      have half : words.ge (words.mul (words.rem numerator divisor) (words.new 2)) divisor =
          true ↔ value numerator % value divisor * 2 ≥ value divisor := by
        rw [exact.ge, doubled]
      simp only [rounded, Rounding.direction, Direction.quotient, half, apply_ite value, next,
        quotient]

end Magnitudes

section Signs

variable {a b denom : Int}

/-- The sign of the exact quotient, as the code finds it. -/
def negative (a b denom : Int) : Bool :=
  ((decide (a < 0)).xor (decide (b < 0))).xor (decide (denom < 0))

/-- The exact quotient. -/
def exactQuotient (a b denom : Int) : ℚ :=
  a * b / denom

/-- The rounded absolute value of the exact quotient. -/
def magnitude (a b denom : Int) (mode : Rounding) : Nat :=
  mode.direction.quotient (a.natAbs * b.natAbs) denom.natAbs

theorem exactQuotient_eq :
    exactQuotient a b denom = if negative a b denom then
      -(((a.natAbs * b.natAbs : Nat) : ℚ) / denom.natAbs)
    else
      ((a.natAbs * b.natAbs : Nat) : ℚ) / denom.natAbs := by
  unfold exactQuotient negative
  rw [Nat.cast_mul, Nat.cast_natAbs, Nat.cast_natAbs, Nat.cast_natAbs]
  rcases lt_or_ge a 0 with aNegative | aNonneg <;>
    rcases lt_or_ge b 0 with bNegative | bNonneg <;>
      rcases lt_or_ge denom 0 with denomNegative | denomNonneg <;>
        simp_all [abs_of_neg, abs_of_nonneg, not_lt.mpr, neg_div, div_neg]

/-- The exact quotient is rounded by its absolute value. -/
theorem round_exactQuotient (mode : Rounding) (nonzero : denom ≠ 0) :
    mode.direction.round (exactQuotient a b denom) =
      if negative a b denom then -(magnitude a b denom mode : Int)
      else magnitude a b denom mode := by
  have positive : 0 < denom.natAbs := Int.natAbs_pos.mpr nonzero
  rw [exactQuotient_eq]
  split
  · rw [IntegerRounding.round_neg, IntegerRounding.round_div positive, magnitude]
  · rw [IntegerRounding.round_div positive, magnitude]

end Signs

section Exactness

variable {Word : Type} {words : U256 Word} {value : Word → Nat}
variable {a b denom : Int} {mode : Rounding} {msg : String}

/-- What the 256-bit part of the division leaves is the magnitude. -/
theorem value_magnitude (exact : words.Exact value) (aFits : FitsI128 a) (bFits : FitsI128 b)
    (denomFits : FitsI128 denom) (nonzero : denom ≠ 0) :
    value (rounded words
      (words.div (words.mul (words.new a.natAbs) (words.new b.natAbs)) (words.new denom.natAbs))
      (words.rem (words.mul (words.new a.natAbs) (words.new b.natAbs)) (words.new denom.natAbs))
      (words.new denom.natAbs) mode) = magnitude a b denom mode := by
  have aSmall := natAbs_le aFits
  have bSmall := natAbs_le bFits
  have denomSmall := natAbs_le denomFits
  have product := product_le aFits bFits
  have first : value (words.new a.natAbs) = a.natAbs := exact.new (by omega)
  have second : value (words.new b.natAbs) = b.natAbs := exact.new (by omega)
  have divisor : value (words.new denom.natAbs) = denom.natAbs := exact.new (by omega)
  have numerator : value (words.mul (words.new a.natAbs) (words.new b.natAbs)) =
      a.natAbs * b.natAbs := by
    rw [exact.mul (by rw [first, second]; omega), first, second]
  rw [value_rounded exact (by simpa [divisor] using nonzero) (numerator ▸ product)
    (by rw [divisor]; exact denomSmall), numerator, divisor, magnitude]

section InRange

variable {word : Word}

/-- A word that is made negative is in range, or the operation panics. -/
theorem withSign_negative (exact : words.Exact value) :
    withSign words word true msg =
      if FitsI128 (-(value word : Int)) then .ok (-(value word : Int))
      else .error (.panicked msg) := by
  have negativeLimit : value (words.new (i128Max + 1)) = 2 ^ 127 := exact.new (by decide)
  cases above : words.gt word (words.new (i128Max + 1)) with
  | true =>
      have large := exact.gt.mp above
      have outside : ¬FitsI128 (-(value word : Int)) := by
        unfold FitsI128
        omega
      simp [withSign, rejectIf, above, outside, bind, Except.bind]
  | false =>
      have small := exact.gt.not.mp (Bool.not_eq_true _ ▸ above)
      have inside : FitsI128 (-(value word : Int)) := by
        unfold FitsI128
        omega
      rw [if_pos inside]
      cases limit : words.eq word (words.new (i128Max + 1)) with
      | true =>
          have least : value word = 2 ^ 127 := (exact.eq.mp limit).trans negativeLimit
          rw [least]
          simp [withSign, rejectIf, above, limit, bind, Except.bind, pure, Except.pure]
      | false =>
          have other := exact.eq.not.mp (Bool.not_eq_true _ ▸ limit)
          have fits : value word < 2 ^ 127 := by omega
          have read : toI128 (words.asU128 word) (Failure.panicked msg) = .ok (value word) := by
            rw [exact.asU128 (by omega), toI128, if_pos fits]
          simp [withSign, rejectIf, above, limit, read, wrappingI128_of_fits inside, bind,
            Except.bind, pure, Except.pure]

/-- A word that is left positive is in range, or the operation panics. -/
theorem withSign_positive (exact : words.Exact value) :
    withSign words word false msg =
      if FitsI128 (value word : Int) then .ok (value word : Int)
      else .error (.panicked msg) := by
  have positiveLimit : value (words.new i128Max) = 2 ^ 127 - 1 := exact.new (by decide)
  cases above : words.gt word (words.new i128Max) with
  | true =>
      have large := exact.gt.mp above
      have outside : ¬FitsI128 (value word : Int) := by
        unfold FitsI128
        omega
      simp [withSign, rejectIf, above, outside, bind, Except.bind]
  | false =>
      have small := exact.gt.not.mp (Bool.not_eq_true _ ▸ above)
      have inside : FitsI128 (value word : Int) := by
        unfold FitsI128
        omega
      have fits : value word < 2 ^ 127 := by omega
      have read : toI128 (words.asU128 word) (Failure.panicked msg) = .ok (value word) := by
        rw [exact.asU128 (by omega), toI128, if_pos fits]
      rw [if_pos inside]
      simp [withSign, rejectIf, above, read, bind, Except.bind]

end InRange

/-- The exact quotient, rounded, is returned where it fits; everything else panics. -/
theorem mulDivI128_eq (exact : words.Exact value) (aFits : FitsI128 a)
    (bFits : FitsI128 b) (denomFits : FitsI128 denom) :
    mulDivI128 words a b denom mode msg =
      if denom ≠ 0 ∧ FitsI128 (mode.direction.round (exactQuotient a b denom)) then
        .ok (mode.direction.round (exactQuotient a b denom))
      else
        .error (.panicked msg) := by
  by_cases zero : denom = 0
  · simp [mulDivI128, zero, rejectIf, bind, Except.bind]
  · have passed : rejectIf (denom = 0) (Failure.panicked msg) = .ok () :=
      Outcome.rejectIf_eq_ok.mpr zero
    simp only [mulDivI128, passed]
    change withSign words _ (negative a b denom) msg = _
    rw [round_exactQuotient mode zero, ← value_magnitude exact aFits bFits denomFits zero]
    cases negative a b denom with
    | true => simpa [zero] using withSign_negative exact
    | false => simpa [zero] using withSign_positive exact

/-- Basis points of an amount are rounded away from zero, and fail only where the result
does not fit. -/
theorem bpsRoundUp_eq (exact : words.Exact value) {amount : Int} {bpsValue : Nat}
    (amountFits : FitsI128 amount) (narrow : bpsValue < 2 ^ 32) :
    bpsRoundUp words amount bpsValue msg =
      if FitsI128 (Direction.awayFromZero.round (exactQuotient amount bpsValue 10000)) then
        .ok (Direction.awayFromZero.round (exactQuotient amount bpsValue 10000))
      else
        .error (.panicked msg) := by
  have bpsFits : FitsI128 bpsValue := by
    unfold FitsI128
    omega
  rw [bpsRoundUp, mulDivI128_eq exact amountFits bpsFits (by decide)]
  simp [bpsDenominator, Rounding.direction]

/-- For all signed 128-bit words and every mode: the exact quotient, rounded, is returned
where it fits, and the operation panics exactly on a zero denominator and where it does
not. -/
theorem mul_div_i128_exact (exact : words.Exact value) (aFits : FitsI128 a)
    (bFits : FitsI128 b) (denomFits : FitsI128 denom) :
    (∀ result, mulDivI128 words a b denom mode msg = .ok result ↔
      denom ≠ 0 ∧ FitsI128 result ∧
        result = mode.direction.round (exactQuotient a b denom)) ∧
      (mulDivI128 words a b denom mode msg = .error (.panicked msg) ↔
        denom = 0 ∨ ¬FitsI128 (mode.direction.round (exactQuotient a b denom))) := by
  rw [mulDivI128_eq exact aFits bFits denomFits]
  split
  · rename_i fits
    constructor
    · intro result
      rw [Except.ok.injEq, eq_comm]
      exact ⟨fun same => ⟨fits.1, same ▸ fits.2, same⟩, fun ⟨_, _, same⟩ => same⟩
    · simp [fits]
  · rename_i unfit
    constructor
    · intro result
      refine iff_of_false (by simp) ?_
      rintro ⟨nonzero, inside, rfl⟩
      exact unfit ⟨nonzero, inside⟩
    · refine iff_of_true rfl ?_
      rwa [not_and_or, not_not] at unfit

end Exactness

section Sample

/-- Wrapping 256-bit words. -/
def wrappingWords : U256 (BitVec 256) where
  new := BitVec.ofNat 256
  add := (· + ·)
  mul := (· * ·)
  div := BitVec.udiv
  rem := BitVec.umod
  eq := (· == ·)
  ge := fun first second => decide (first.toNat ≥ second.toNat)
  gt := fun first second => decide (first.toNat > second.toNat)
  asU128 := fun word => word.toNat % 2 ^ 128

theorem wrappingWords_exact : wrappingWords.Exact BitVec.toNat where
  new := fun fits => Nat.mod_eq_of_lt (fits.trans (by norm_num))
  add := fun fits => (BitVec.toNat_add _ _).trans (Nat.mod_eq_of_lt fits)
  mul := fun fits => (BitVec.toNat_mul _ _).trans (Nat.mod_eq_of_lt fits)
  div := fun _ => BitVec.toNat_udiv
  rem := fun _ => BitVec.toNat_umod
  eq := by simp [wrappingWords, BitVec.toNat_inj]
  ge := by simp [wrappingWords]
  gt := by simp [wrappingWords]
  asU128 := fun fits => Nat.mod_eq_of_lt fits

/-- The least word times one, over minus two, rounded to nearest; and its negation, which
does not fit. -/
theorem mul_div_i128_exact_sample :
    (∀ result, mulDivI128 wrappingWords (-2 ^ 127) 1 (-2) .nearest "overflow" = .ok result ↔
        (-2 : Int) ≠ 0 ∧ FitsI128 result ∧
          result = Direction.nearest.round (exactQuotient (-2 ^ 127) 1 (-2))) ∧
      mulDivI128 wrappingWords (-2 ^ 127) 1 (-2) .nearest "overflow" = .ok (2 ^ 126) ∧
        mulDivI128 wrappingWords (-2 ^ 127) 1 1 .up "overflow" = .ok (-2 ^ 127) ∧
          mulDivI128 wrappingWords (-2 ^ 127) (-1) 1 .down "overflow" =
            .error (.panicked "overflow") := by
  have least : FitsI128 (-2 ^ 127) := by decide
  exact ⟨(mul_div_i128_exact wrappingWords_exact least (by decide) (by decide)).1,
    by decide +kernel, by decide +kernel, by decide +kernel⟩

end Sample

end CredenceMath
