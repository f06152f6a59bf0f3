import Mathlib.Algebra.Order.Field.Rat
import Mathlib.Algebra.Order.Field.Power
import Mathlib.Tactic.FieldSimp
import Mathlib.Tactic.Linarith
import Mathlib.Tactic.Positivity
import Mathlib.Tactic.Push
import Mathlib.Tactic.Ring

/-!
# Decimal numbers under a bounded context

Signed coefficients with a decimal exponent, their exact value, and the
`normalize` operation of a decimal context with 28 digits of precision,
half-even rounding and exponents between `-999999` and `999999`.  Rounding is
exact precisely when the digits it drops are zeros.
-/

namespace Foundation

/-- A finite decimal `±coefficient * 10 ^ exponent`. -/
structure Decimal where
  negative : Bool
  coefficient : Nat
  exponent : Int
  deriving DecidableEq, Repr

namespace Decimal

/-- Exact value. -/
def toRat (number : Decimal) : ℚ :=
  (if number.negative then -1 else 1) *
    (number.coefficient * 10 ^ number.exponent)

/-- Length of the usual decimal notation. -/
def numDigits (number : Nat) : Nat :=
  (Nat.toDigits 10 number).length

/-! ## The context -/

def precision : Int := 28

def maxExponent : Int := 999999

def minExponent : Int := -999999

/-- Smallest exponent of a subnormal result. -/
def etiny : Int := minExponent - (precision - 1)

/-- Largest exponent of a full-precision result. -/
def etop : Int := maxExponent - (precision - 1)

/-- Round `dividend / divisor` to the nearest integer, ties to even. -/
def roundHalfEven (dividend divisor : Nat) : Nat :=
  if 2 * (dividend % divisor) < divisor then dividend / divisor
  else if divisor < 2 * (dividend % divisor) then dividend / divisor + 1
  else if dividend / divisor % 2 = 0 then dividend / divisor
  else dividend / divisor + 1

/-- Least exponent the context can keep for a nonzero number. -/
def lowestExponent (number : Decimal) : Int :=
  max (numDigits number.coefficient + number.exponent - precision) etiny

/-- Number of trailing digits that rounding into the context removes. -/
def droppedDigits (number : Decimal) : Nat :=
  (number.lowestExponent - number.exponent).toNat

/-- Round a nonzero number into the context; `none` is the trapped
overflow. -/
def fix (number : Decimal) : Option Decimal :=
  let lowest := number.lowestExponent
  if etop < lowest then none
  else if number.exponent < lowest then
    let rounded := roundHalfEven number.coefficient (10 ^ number.droppedDigits)
    let carried := precision < numDigits rounded
    let exponent := if carried then lowest + 1 else lowest
    if etop < exponent then none
    else some
      { negative := number.negative
        coefficient := if carried then rounded / 10 else rounded
        exponent := exponent }
  else some number

/-- Move trailing zeros of a coefficient into the exponent, up to the largest
exponent of the context. -/
def stripZeros : Nat → Nat → Int → Nat × Int
  | 0, coefficient, exponent => (coefficient, exponent)
  | fuel + 1, coefficient, exponent =>
      if coefficient % 10 = 0 ∧ exponent < maxExponent then
        stripZeros fuel (coefficient / 10) (exponent + 1)
      else (coefficient, exponent)

/-- `Decimal.normalize` on a nonzero number. -/
def normalize (number : Decimal) : Option Decimal :=
  number.fix.map fun fixed =>
    if fixed.coefficient = 0 then
      { negative := number.negative, coefficient := 0, exponent := 0 }
    else
      let stripped := stripZeros (numDigits fixed.coefficient)
        fixed.coefficient fixed.exponent
      { negative := number.negative
        coefficient := stripped.1
        exponent := stripped.2 }

/-! ## Digits -/

theorem numDigits_pos (number : Nat) : 0 < numDigits number := Nat.length_toDigits_pos

theorem lt_ten_pow_numDigits (number : Nat) : number < 10 ^ numDigits number :=
  (Nat.length_toDigits_le_iff (by decide) (numDigits_pos number)).mp le_rfl

theorem numDigits_le_of_lt_ten_pow {number bound : Nat} (positive : 0 < bound)
    (small : number < 10 ^ bound) :
    numDigits number ≤ bound :=
  (Nat.length_toDigits_le_iff (by decide) positive).mpr small

theorem ten_pow_le_of_lt_numDigits {number bound : Nat} (nonzero : number ≠ 0)
    (long : bound < numDigits number) :
    10 ^ bound ≤ number := by
  rcases Nat.eq_zero_or_pos bound with rfl | positive
  · simpa using Nat.one_le_iff_ne_zero.mpr nonzero
  · by_contra below
    have := numDigits_le_of_lt_ten_pow positive (not_le.mp below)
    omega

/-! ## Scaling -/

theorem scale_eq (coefficient shift : Nat) (exponent : Int) :
    (coefficient : ℚ) * 10 ^ (exponent + shift) =
      (coefficient * 10 ^ shift : Nat) * 10 ^ exponent := by
  rw [zpow_add₀ (by norm_num : (10 : ℚ) ≠ 0), zpow_natCast]
  push_cast
  ring

theorem scale_inj (left right : Nat) (exponent : Int) :
    (left : ℚ) * 10 ^ exponent = right * 10 ^ exponent ↔ left = right := by
  have nonzero : (10 : ℚ) ^ exponent ≠ 0 := zpow_ne_zero _ (by norm_num)
  rw [mul_left_inj' nonzero]
  exact Nat.cast_inj

theorem toRat_eq_iff_of_negative_eq {left right : Decimal}
    (sign : left.negative = right.negative) :
    left.toRat = right.toRat ↔ (left.coefficient : ℚ) * 10 ^ left.exponent =
        right.coefficient * 10 ^ right.exponent := by
  unfold toRat
  rw [sign]
  have nonzero : (if right.negative then (-1 : ℚ) else 1) ≠ 0 := by
    split <;> norm_num
  rw [mul_right_inj' nonzero]

@[simp] theorem toRat_eq_zero (number : Decimal) :
    number.toRat = 0 ↔ number.coefficient = 0 := by
  have nonzero : (10 : ℚ) ^ number.exponent ≠ 0 := zpow_ne_zero _ (by norm_num)
  unfold toRat
  split <;> simp [nonzero]

/-- Equal nonzero magnitudes have equally many digits before the decimal
point. -/
theorem numDigits_add_exponent_eq {left right : Nat} {leftExponent rightExponent : Int}
    (leftNonzero : left ≠ 0) (rightNonzero : right ≠ 0)
    (equal : (left : ℚ) * 10 ^ leftExponent = right * 10 ^ rightExponent) :
    (numDigits left : Int) + leftExponent = numDigits right + rightExponent := by
  have key : ∀ {a b : Nat} {s t : Int}, a ≠ 0 → b ≠ 0 →
      (a : ℚ) * 10 ^ s = b * 10 ^ t →
      ¬ (numDigits a : Int) + s < numDigits b + t := by
    intro a b s t _ bNonzero same shorter
    have above : (a : ℚ) * 10 ^ s < 10 ^ ((numDigits a : Int) + s) := by
      rw [zpow_add₀ (by norm_num), zpow_natCast]
      have := lt_ten_pow_numDigits a
      have cast : (a : ℚ) < 10 ^ numDigits a := by exact_mod_cast this
      exact mul_lt_mul_of_pos_right cast (by positivity)
    have below : (10 : ℚ) ^ ((numDigits b : Int) - 1 + t) ≤ b * 10 ^ t := by
      have long := ten_pow_le_of_lt_numDigits bNonzero (Nat.sub_lt (numDigits_pos b) Nat.one_pos)
      have cast : (10 : ℚ) ^ (numDigits b - 1) ≤ b := by exact_mod_cast long
      have exponent : ((numDigits b : Int) - 1) =
          ((numDigits b - 1 : Nat) : Int) := by
        have := numDigits_pos b
        omega
      rw [zpow_add₀ (by norm_num), exponent, zpow_natCast]
      exact mul_le_mul_of_nonneg_right cast (by positivity)
    have monotone : (10 : ℚ) ^ ((numDigits a : Int) + s) ≤
        10 ^ ((numDigits b : Int) - 1 + t) :=
      zpow_le_zpow_right₀ (by norm_num) (by omega)
    linarith
  have first := key leftNonzero rightNonzero equal
  have second := key rightNonzero leftNonzero equal.symm
  omega

/-! ## Rounding -/

theorem roundHalfEven_mul_eq_iff {dividend divisor : Nat} (positive : 0 < divisor) :
    roundHalfEven dividend divisor * divisor = dividend ↔ divisor ∣ dividend := by
  constructor
  · intro exact
    exact ⟨_, (Nat.mul_comm _ _).trans exact |>.symm⟩
  · intro divides
    have remainder : dividend % divisor = 0 := Nat.mod_eq_zero_of_dvd divides
    simp only [roundHalfEven, remainder, Nat.mul_zero, positive, if_true]
    exact Nat.div_mul_cancel divides

theorem roundHalfEven_le (dividend divisor : Nat) :
    roundHalfEven dividend divisor ≤ dividend / divisor + 1 := by
  unfold roundHalfEven
  split_ifs <;> omega

/-- Rounding away the dropped digits leaves at most one digit too many, and
then only a power of ten. -/
theorem rounded_le_ten_pow (number : Decimal) :
    roundHalfEven number.coefficient (10 ^ number.droppedDigits) ≤ 10 ^ 28 := by
  have bounded : number.coefficient / 10 ^ number.droppedDigits < 10 ^ 28 := by
    rw [Nat.div_lt_iff_lt_mul (by positivity), ← pow_add]
    apply (lt_ten_pow_numDigits number.coefficient).trans_le
    apply Nat.pow_le_pow_right (by decide)
    simp only [droppedDigits, lowestExponent, precision]
    omega
  have := roundHalfEven_le number.coefficient (10 ^ number.droppedDigits)
  omega

/-- A rounded coefficient longer than the precision ends in a zero. -/
theorem rounded_div_ten_mul {number : Decimal}
    (carried : precision < numDigits
      (roundHalfEven number.coefficient (10 ^ number.droppedDigits))) :
    roundHalfEven number.coefficient (10 ^ number.droppedDigits) / 10 * 10 =
      roundHalfEven number.coefficient (10 ^ number.droppedDigits) := by
  generalize rounded_def : roundHalfEven number.coefficient
    (10 ^ number.droppedDigits) = rounded at carried ⊢
  have upper : rounded ≤ 10 ^ 28 := rounded_def ▸ rounded_le_ten_pow number
  have lower : ¬ rounded < 10 ^ 28 := by
    intro small
    have := numDigits_le_of_lt_ten_pow (by decide) small
    simp only [precision] at carried
    omega
  omega

/-- Rounding into the context keeps the sign, and keeps the value exactly
when every dropped digit is a zero. -/
theorem fix_toRat_eq_iff {number fixed : Decimal} (result : number.fix = some fixed) :
    fixed.negative = number.negative ∧ (fixed.toRat = number.toRat ↔
        10 ^ number.droppedDigits ∣ number.coefficient) := by
  unfold fix at result
  simp only at result
  split_ifs at result with _ below carry
  · obtain rfl := Option.some.inj result
    refine ⟨rfl, (toRat_eq_iff_of_negative_eq (by rfl)).trans ?_⟩
    have shift : number.lowestExponent + 1 =
        number.exponent + (number.droppedDigits + 1 : Nat) := by
      simp only [droppedDigits]
      omega
    simp only [shift]
    rw [scale_eq, scale_inj, pow_succ', ← mul_assoc, rounded_div_ten_mul carry]
    exact roundHalfEven_mul_eq_iff (by positivity)
  · obtain rfl := Option.some.inj result
    refine ⟨rfl, (toRat_eq_iff_of_negative_eq (by rfl)).trans ?_⟩
    have shift : number.lowestExponent =
        number.exponent + (number.droppedDigits : Nat) := by
      simp only [droppedDigits]
      omega
    simp only [shift]
    rw [scale_eq, scale_inj]
    exact roundHalfEven_mul_eq_iff (by positivity)
  · obtain rfl := Option.some.inj result
    have none : number.droppedDigits = 0 := by
      simp only [droppedDigits]
      omega
    simp [none]

/-- Overflow needs an exponent beyond what exact short numbers reach. -/
theorem le_of_fix_eq_none {number : Decimal} (overflow : number.fix = none) :
    etop ≤ number.lowestExponent := by
  unfold fix at overflow
  simp only at overflow
  split_ifs at overflow <;> omega

/-- Moving zeros into the exponent keeps the value. -/
theorem stripZeros_value (fuel coefficient : Nat) (exponent : Int) :
    ((stripZeros fuel coefficient exponent).1 : ℚ) *
        10 ^ (stripZeros fuel coefficient exponent).2 =
      coefficient * 10 ^ exponent := by
  induction fuel generalizing coefficient exponent with
  | zero => rfl
  | succ fuel ih =>
      unfold stripZeros
      split_ifs with strippable
      · rw [ih]
        have shift := scale_eq (coefficient / 10) 1 exponent
        rw [pow_one, Nat.div_mul_cancel (Nat.dvd_of_mod_eq_zero strippable.1)] at shift
        simpa using shift
      · rfl

/-- With enough fuel no strippable zero is left. -/
theorem stripZeros_stops (fuel coefficient : Nat) (exponent : Int)
    (nonzero : coefficient ≠ 0) (enough : coefficient < 10 ^ fuel) :
    (stripZeros fuel coefficient exponent).1 % 10 ≠ 0 ∨
      maxExponent ≤ (stripZeros fuel coefficient exponent).2 := by
  induction fuel generalizing coefficient exponent with
  | zero =>
      rw [pow_zero] at enough
      omega
  | succ fuel ih =>
      unfold stripZeros
      split_ifs with strippable
      · apply ih
        · omega
        · rw [pow_succ] at enough
          omega
      · simp only [not_and_or, not_lt] at strippable
        exact strippable

/-- `normalize` keeps the sign, and keeps the value exactly when every
dropped digit is a zero. -/
theorem normalize_toRat_eq_iff {number result : Decimal}
    (normalized : number.normalize = some result) :
    result.negative = number.negative ∧ (result.toRat = number.toRat ↔
        10 ^ number.droppedDigits ∣ number.coefficient) := by
  obtain ⟨fixed, fixedResult, rfl⟩ := Option.map_eq_some_iff.mp normalized
  obtain ⟨sign, exact⟩ := fix_toRat_eq_iff fixedResult
  rw [← exact]
  split_ifs with vanished
  · refine ⟨rfl, ?_⟩
    have zero : fixed.toRat = 0 := by simpa using vanished
    rw [zero, (toRat_eq_zero _).mpr rfl]
  · refine ⟨rfl, ?_⟩
    have same : toRat
        { negative := number.negative
          coefficient := (stripZeros (numDigits fixed.coefficient)
            fixed.coefficient fixed.exponent).1
          exponent := (stripZeros (numDigits fixed.coefficient)
            fixed.coefficient fixed.exponent).2 } = fixed.toRat := by
      refine (toRat_eq_iff_of_negative_eq (by rw [sign])).mpr ?_
      exact stripZeros_value _ _ _
    rw [same]

/-- A normalized number has no trailing zero below the decimal point. -/
theorem normalize_no_trailing_zero {number result : Decimal}
    (normalized : number.normalize = some result) (fractional : result.exponent < 0) :
    result.coefficient % 10 ≠ 0 := by
  obtain ⟨fixed, _, rfl⟩ := Option.map_eq_some_iff.mp normalized
  split_ifs at fractional ⊢ with vanished
  · simp at fractional
  · have stops := stripZeros_stops (numDigits fixed.coefficient)
      fixed.coefficient fixed.exponent vanished
      (lt_ten_pow_numDigits fixed.coefficient)
    simp only [maxExponent] at stops
    simp only at fractional ⊢
    omega

end Decimal
end Foundation
