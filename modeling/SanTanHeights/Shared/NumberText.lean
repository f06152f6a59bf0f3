import SanTanHeights.Shared.CanonicalJson

/-!
# Numbers in canonical text

What the scanner reads from the normalized text of a number.  An integer comes
back unless it is too long for `int`; a decimal comes back with its value
exactly when rounding to 28 digits only drops zeros and it does not turn into
a long integer.
-/

namespace SanTanHeights.Shared

open Foundation Foundation.Json

/-- Integers of this value have texts that Python converts. -/
def ShortInt (value : Int) : Prop :=
  Decimal.numDigits value.natAbs ≤ maxStrDigits

/-- A decimal that rounding to the context leaves exact, and that is not a
long integer. -/
def DecimalFits (value : Decimal) : Prop :=
  value.coefficient = 0 ∨ 10 ^ value.droppedDigits ∣ value.coefficient ∧
      ∀ integer : Int, value.toRat = integer → ShortInt integer

/-! ## Reading numbers -/

/-- What is read back from the text of an integer. -/
def rereadInt (value : Int) : Option Json :=
  if Decimal.numDigits value.natAbs ≤ maxStrDigits then some (.int value)
  else none

/-- What is read back from the text of a decimal. -/
def rereadDecimal (value : Decimal) : Option Json :=
  if value.coefficient = 0 then some (.int 0)
  else
    value.normalize.bind fun normalized =>
      positionalValue normalized.negative normalized.wholePart normalized.fractionPart

theorem signed_natAbs (value : Int) : signed (decide (value < 0)) value.natAbs = value := by
  unfold signed
  simp only [decide_eq_true_eq]
  split_ifs <;> omega

theorem reads_strInt {value : Int} {text : List Char} (written : strInt value = some text) :
    Reads text (rereadInt value) := by
  unfold strInt at written
  split_ifs at written with short
  cases written
  have length : (Nat.toDigits 10 value.natAbs).length ≤ maxStrDigits := short
  have found : rereadInt value = positionalValue (decide (value < 0))
      (Nat.toDigits 10 value.natAbs) [] := by
    rw [positionalValue, if_pos rfl, if_pos length,
      Nat.ofDigitChars_ten_toDigits, signed_natAbs, rereadInt, if_pos short]
  rw [found]
  exact reads_positional (Decimal.isWhole_toDigits value.natAbs) (by simp)

variable {value : Decimal} {integer : Int}

/-- A formatted normalized decimal has nothing to strip. -/
theorem normalizeDecimal_of_normalize {normalized : Decimal}
    (nonzero : value.coefficient ≠ 0) (result : value.normalize = some normalized) :
    normalizeDecimal value = some normalized.formatF := by
  rw [normalizeDecimal, if_neg nonzero, result, Option.map_some]
  by_cases integral : 0 ≤ normalized.exponent
  · have point := Decimal.contains_point_formatF integral
    simp only [point, Bool.false_eq_true, if_false]
  · have trailing := Decimal.normalize_no_trailing_zero result (by omega)
    have stripped := Decimal.rstrip_formatF (by omega) trailing
    simp only [stripped, ite_self]

theorem normalizeDecimal_eq_none (nonzero : value.coefficient ≠ 0)
    (result : value.normalize = none) :
    normalizeDecimal value = none := by
  rw [normalizeDecimal, if_neg nonzero, result, Option.map_none]

theorem reads_normalizeDecimal {text : List Char}
    (written : normalizeDecimal value = some text) :
    Reads text (rereadDecimal value) := by
  unfold rereadDecimal
  split_ifs with zero
  · rw [normalizeDecimal, if_pos zero] at written
    cases written
    exact reads_strInt (by rfl : strInt 0 = some ['0'])
  · cases result : value.normalize with
    | none =>
        rw [normalizeDecimal_eq_none zero result] at written
        cases written
    | some normalized =>
        rw [normalizeDecimal_of_normalize zero result] at written
        cases written
        exact Decimal.reads_formatF result

/-! ## Exactness of decimals -/

/-- The magnitude of an integer that a decimal stands for. -/
theorem magnitude_of_toRat_eq (equal : value.toRat = integer) :
    (value.coefficient : ℚ) * 10 ^ value.exponent = integer.natAbs := by
  have positive : (0 : ℚ) ≤ value.coefficient * 10 ^ value.exponent := by
    positivity
  rw [Nat.cast_natAbs, Int.cast_abs, ← equal, Decimal.toRat, abs_mul, abs_of_nonneg positive]
  split <;> simp

theorem numDigits_of_toRat_eq (nonzero : value.coefficient ≠ 0)
    (equal : value.toRat = integer) : (Decimal.numDigits integer.natAbs : Int) =
      Decimal.numDigits value.coefficient + value.exponent := by
  have magnitude : (value.coefficient : ℚ) * 10 ^ value.exponent =
      integer.natAbs * 10 ^ (0 : Int) := by
    rw [magnitude_of_toRat_eq equal, zpow_zero, mul_one]
  have integerNonzero : integer.natAbs ≠ 0 := by
    intro zero
    have vanished : value.toRat = 0 := by
      rw [equal, Int.natAbs_eq_zero.mp zero, Int.cast_zero]
    exact nonzero ((Decimal.toRat_eq_zero value).mp vanished)
  have := Decimal.numDigits_add_exponent_eq nonzero integerNonzero magnitude
  omega

/-- An integral decimal has only zeros after the point. -/
theorem dvd_of_toRat_eq (fractional : value.exponent < 0) (equal : value.toRat = integer) :
    10 ∣ value.coefficient := by
  have shift := Decimal.scale_eq integer.natAbs (-value.exponent).toNat value.exponent
  have zero : value.exponent + ((-value.exponent).toNat : Int) = 0 := by
    omega
  rw [zero, zpow_zero, mul_one, ← magnitude_of_toRat_eq equal, Decimal.scale_inj] at shift
  rw [shift]
  exact Dvd.dvd.mul_left (dvd_pow_self 10 (by omega)) _

/-- A decimal is integral when its digits after the point are zeros. -/
theorem exists_int_of_dvd (divides : 10 ^ (-value.exponent).toNat ∣ value.coefficient) :
    ∃ integer : Int, value.toRat = integer := by
  by_cases integral : 0 ≤ value.exponent
  · exact ⟨_, Decimal.toRat_of_exponent_nonneg integral⟩
  · obtain ⟨quotient, product⟩ := divides
    have shift := Decimal.scale_eq quotient (-value.exponent).toNat value.exponent
    have zero : value.exponent + ((-value.exponent).toNat : Int) = 0 := by
      omega
    rw [zero, zpow_zero, mul_one, mul_comm quotient, ← product] at shift
    refine ⟨signed value.negative quotient, ?_⟩
    rw [Decimal.toRat, ← shift, signed]
    split <;> simp

/-- A decimal that fits does not overflow the context. -/
theorem normalize_ne_none_of_fits (nonzero : value.coefficient ≠ 0)
    (divides : 10 ^ value.droppedDigits ∣ value.coefficient)
    (short : ∀ integer : Int, value.toRat = integer → ShortInt integer) :
    value.normalize ≠ none := by
  intro overflow
  have high := Decimal.le_of_fix_eq_none (Option.map_eq_none_iff.mp overflow)
  have enough : (-value.exponent).toNat ≤ value.droppedDigits := by
    unfold Decimal.droppedDigits
    have : (0 : Int) ≤ Decimal.etop := by decide
    omega
  obtain ⟨integer, equal⟩ := exists_int_of_dvd ((pow_dvd_pow 10 enough).trans divides)
  have digits := numDigits_of_toRat_eq nonzero equal
  have bounded := short integer equal
  simp only [ShortInt, maxStrDigits] at bounded
  simp only [Decimal.lowestExponent, Decimal.etop, Decimal.maxExponent,
    Decimal.precision, Decimal.etiny, Decimal.minExponent] at high
  omega

/-- A decimal fits exactly when it is read back with its value. -/
theorem decimalFits_iff (value : Decimal) :
    DecimalFits value ↔ ∃ found, rereadDecimal value = some found ∧ Same found (.dec value) := by
  unfold DecimalFits rereadDecimal
  by_cases zero : value.coefficient = 0
  · have same : Same (.int 0) (.dec value) := by
      simp only [Same, meaning, (Decimal.toRat_eq_zero value).mpr zero, Int.cast_zero]
    simp [zero, same]
  · simp only [zero, false_or, if_false]
    constructor
    · rintro ⟨divides, short⟩
      obtain ⟨normalized, result⟩ := Option.ne_none_iff_exists'.mp
        (normalize_ne_none_of_fits zero divides short)
      obtain ⟨_, exact⟩ := Decimal.normalize_toRat_eq_iff result
      have kept := exact.mpr divides
      have nonzero : normalized.coefficient ≠ 0 := by
        rwa [Ne, ← Decimal.toRat_eq_zero, kept, Decimal.toRat_eq_zero]
      have readable : positionalValue normalized.negative
          normalized.wholePart normalized.fractionPart ≠ none := by
        rw [Ne, Decimal.positionalValue_eq_none_iff]
        rintro ⟨integral, long⟩
        have equal := Decimal.toRat_of_exponent_nonneg integral
        have bounded := short _ (kept.symm.trans equal)
        have digits := numDigits_of_toRat_eq nonzero equal
        unfold ShortInt at bounded
        omega
      obtain ⟨found, read⟩ := Option.ne_none_iff_exists'.mp readable
      refine ⟨found, by rw [result]; exact read, ?_⟩
      rw [Same, Decimal.meaning_of_positionalValue read, kept]
      rfl
    · rintro ⟨found, reread, same⟩
      obtain ⟨normalized, result, read⟩ := Option.bind_eq_some_iff.mp reread
      have kept : normalized.toRat = value.toRat := by
        have meanings := Decimal.meaning_of_positionalValue read
        rw [same] at meanings
        exact (Meaning.number.inj meanings).symm
      obtain ⟨_, exact⟩ := Decimal.normalize_toRat_eq_iff result
      refine ⟨exact.mp kept, ?_⟩
      intro integer equal
      have integralValue := kept.trans equal
      by_cases integral : 0 ≤ normalized.exponent
      · have notLong := (Decimal.positionalValue_eq_none_iff normalized).not.mp (by rw [read]; simp)
        have nonzero : normalized.coefficient ≠ 0 := by
          rwa [Ne, ← Decimal.toRat_eq_zero, kept, Decimal.toRat_eq_zero]
        have digits := numDigits_of_toRat_eq nonzero integralValue
        unfold ShortInt
        omega
      · have trailing := Decimal.normalize_no_trailing_zero result (by omega)
        have divides := dvd_of_toRat_eq (by omega) integralValue
        omega

end SanTanHeights.Shared
