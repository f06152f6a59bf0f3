import Mathlib.Data.List.DropRight
import SanTanHeights.Foundation.JsonReads

/-!
# Decimals in positional notation

The `"f"` format of a decimal, and the value a JSON scanner reads from it: an
integer when the exponent is not negative, the same decimal otherwise.
-/

namespace Foundation.Decimal

open Json

/-- Usual notation of the coefficient. -/
def digits (number : Decimal) : List Char :=
  Nat.toDigits 10 number.coefficient

/-- Number of digits after the decimal point. -/
def scale (number : Decimal) : Nat :=
  (-number.exponent).toNat

/-- Digits before the decimal point. -/
def wholePart (number : Decimal) : List Char :=
  if 0 ≤ number.exponent then
    number.digits ++ List.replicate number.exponent.toNat '0'
  else if number.digits.length ≤ number.scale then ['0']
  else number.digits.take (number.digits.length - number.scale)

/-- Digits after the decimal point. -/
def fractionPart (number : Decimal) : List Char :=
  if 0 ≤ number.exponent then []
  else
    List.replicate (number.scale - number.digits.length) '0' ++
      number.digits.drop (number.digits.length - number.scale)

/-- `format(number, "f")`. -/
def formatF (number : Decimal) : List Char :=
  positional number.negative number.wholePart number.fractionPart

variable {number : Decimal} {digit : Char}

/-! ## Digits of the two parts -/

theorem isDigit_of_mem_digits (present : digit ∈ number.digits) : digit.isDigit = true :=
  Nat.isDigit_of_mem_toDigits (by decide) (by decide) present

theorem digits_ne_nil (number : Decimal) : number.digits ≠ [] := Nat.toDigits_ne_nil

/-- The first digit of a nonzero number is not a zero. -/
theorem head_toDigits_ne_zero {number : Nat} (nonzero : number ≠ 0) :
    ∀ digit ∈ (Nat.toDigits 10 number).head?, digit ≠ '0' := by
  induction number using Nat.strong_induction_on with
  | _ number ih =>
      by_cases small : number < 10
      · rw [Nat.toDigits_of_lt_base small]
        have all : ∀ value < 10, value ≠ 0 → value.digitChar ≠ '0' := by
          decide
        intro digit first
        cases first
        exact all number small nonzero
      · rw [Nat.toDigits_of_base_le (by decide) (by omega)]
        have shorter := ih (number / 10) (by omega) (by omega)
        intro digit first
        apply shorter digit
        have nonempty : Nat.toDigits 10 (number / 10) ≠ [] := Nat.toDigits_ne_nil
        rwa [List.head?_append_of_ne_nil _ nonempty] at first

theorem getLast?_toDigits (number : Nat) :
    (Nat.toDigits 10 number).getLast? = some (number % 10).digitChar := by
  by_cases small : number < 10
  · rw [Nat.toDigits_of_lt_base small, Nat.mod_eq_of_lt small]
    rfl
  · rw [Nat.toDigits_of_base_le (by decide) (by omega), List.getLast?_concat]

theorem isWhole_digits {coefficient : Nat} {rest : List Char}
    (nonzero : coefficient ≠ 0) (allDigits : ∀ digit ∈ rest, digit.isDigit = true) :
    IsWhole (Nat.toDigits 10 coefficient ++ rest) := by
  right
  obtain ⟨first, others, equal⟩ := List.exists_cons_of_ne_nil
    (Nat.toDigits_ne_nil : Nat.toDigits 10 coefficient ≠ [])
  have leading := head_toDigits_ne_zero nonzero
  rw [equal] at leading ⊢
  refine ⟨first, others ++ rest, rfl, leading first rfl, ?_⟩
  intro digit present
  rcases List.mem_append.mp present with written | later
  · rw [← equal] at written
    exact Nat.isDigit_of_mem_toDigits (by decide) (by decide) written
  · exact allDigits digit later

theorem isWhole_toDigits (number : Nat) : IsWhole (Nat.toDigits 10 number) := by
  by_cases zero : number = 0
  · left
    rw [zero]
    rfl
  · rw [← List.append_nil (Nat.toDigits 10 number)]
    exact isWhole_digits zero (by simp)

theorem isWhole_wholePart (nonzero : number.coefficient ≠ 0) : IsWhole number.wholePart := by
  unfold wholePart
  split_ifs with integral short
  · apply isWhole_digits nonzero
    intro digit present
    rw [List.eq_of_mem_replicate present]
    rfl
  · exact .inl rfl
  · right
    obtain ⟨first, others, equal⟩ := List.exists_cons_of_ne_nil number.digits_ne_nil
    have leading := head_toDigits_ne_zero nonzero
    have some : number.digits.length - number.scale ≠ 0 := by omega
    obtain ⟨taken, takenEqual⟩ := Nat.exists_eq_succ_of_ne_zero some
    refine ⟨first, others.take taken, ?_, leading first ?_, ?_⟩
    · rw [takenEqual, equal]
      rfl
    · change first ∈ number.digits.head?
      rw [equal]
      rfl
    · intro digit present
      exact isDigit_of_mem_digits (List.mem_of_mem_take present)

/-- A normalized number is nonzero or is a plain zero. -/
theorem isWhole_wholePart_of_normalize {normalized : Decimal}
    (result : number.normalize = some normalized) :
    IsWhole normalized.wholePart := by
  obtain ⟨fixed, _, rfl⟩ := Option.map_eq_some_iff.mp result
  split_ifs with vanished
  · left
    simp [wholePart, digits, Nat.toDigits_zero]
  · apply isWhole_wholePart
    have value := stripZeros_value (numDigits fixed.coefficient) fixed.coefficient fixed.exponent
    intro zero
    simp only at zero
    rw [zero, Nat.cast_zero, zero_mul, eq_comm, mul_eq_zero] at value
    rcases value with coefficient | power
    · exact vanished (by exact_mod_cast coefficient)
    · exact zpow_ne_zero _ (by norm_num) power

theorem isDigit_of_mem_wholePart (present : digit ∈ number.wholePart) :
    digit.isDigit = true := by
  unfold wholePart at present
  split_ifs at present
  · rcases List.mem_append.mp present with written | padding
    · exact isDigit_of_mem_digits written
    · rw [List.eq_of_mem_replicate padding]
      rfl
  · rw [List.mem_singleton.mp present]
    rfl
  · exact isDigit_of_mem_digits (List.mem_of_mem_take present)

theorem isDigit_of_mem_fractionPart (present : digit ∈ number.fractionPart) :
    digit.isDigit = true := by
  unfold fractionPart at present
  split_ifs at present
  · cases present
  · rcases List.mem_append.mp present with padding | written
    · rw [List.eq_of_mem_replicate padding]
      rfl
    · exact isDigit_of_mem_digits (List.mem_of_mem_drop written)

/-! ## Reading back -/

theorem fractionPart_eq_nil_iff (number : Decimal) :
    number.fractionPart = [] ↔ 0 ≤ number.exponent := by
  unfold fractionPart
  split_ifs with integral
  · simp [integral]
  · have long := number.digits_ne_nil
    simp only [scale, List.append_eq_nil_iff, List.replicate_eq_nil_iff,
      List.drop_eq_nil_iff, integral, iff_false]
    have := List.length_pos_of_ne_nil long
    omega

/-- Below the decimal point the parts spell out the coefficient. -/
theorem positionalValue_of_exponent_neg (fractional : number.exponent < 0) :
    positionalValue number.negative number.wholePart number.fractionPart = some (.dec number) := by
  have nonempty : number.fractionPart ≠ [] := by
    rw [Ne, fractionPart_eq_nil_iff]
    omega
  have length : number.fractionPart.length = number.scale := by
    rw [fractionPart, if_neg (by omega)]
    simp only [List.length_append, List.length_replicate, List.length_drop]
    omega
  have coefficient : Nat.ofDigitChars 10
      (number.wholePart ++ number.fractionPart) 0 = number.coefficient := by
    have negative : ¬ 0 ≤ number.exponent := by omega
    simp only [wholePart, fractionPart, negative, if_false]
    split_ifs with short
    · have none : number.digits.length - number.scale = 0 := by omega
      rw [none, List.drop_zero, Nat.ofDigitChars_append,
        Nat.ofDigitChars_append, Nat.ofDigitChars_replicate_zero]
      exact Nat.ofDigitChars_ten_toDigits
    · have padding : number.scale - number.digits.length = 0 := by omega
      rw [padding, List.replicate_zero, List.nil_append, List.take_append_drop]
      exact Nat.ofDigitChars_ten_toDigits
  have exponent : -(number.scale : Int) = number.exponent := by
    unfold scale
    omega
  rw [positionalValue, if_neg nonempty, coefficient, length, exponent]

/-- Without a fraction the parts spell out an integer. -/
theorem positionalValue_of_exponent_nonneg (integral : 0 ≤ number.exponent) :
    positionalValue number.negative number.wholePart number.fractionPart =
      if numDigits number.coefficient + number.exponent.toNat ≤ maxStrDigits
      then some (.int (signed number.negative (number.coefficient * 10 ^ number.exponent.toNat)))
      else none := by
  have empty := (fractionPart_eq_nil_iff number).mpr integral
  have value : Nat.ofDigitChars 10 number.wholePart 0 =
      number.coefficient * 10 ^ number.exponent.toNat := by
    rw [wholePart, if_pos integral, Nat.ofDigitChars_append,
      Nat.ofDigitChars_replicate_zero, digits, Nat.ofDigitChars_ten_toDigits, Nat.mul_comm]
  have length : number.wholePart.length =
      numDigits number.coefficient + number.exponent.toNat := by
    rw [wholePart, if_pos integral]
    simp [digits, numDigits]
  rw [positionalValue, if_pos empty, value, length]

theorem toRat_of_exponent_nonneg (integral : 0 ≤ number.exponent) :
    number.toRat = (signed number.negative
      (number.coefficient * 10 ^ number.exponent.toNat) : Int) := by
  have power : (10 : ℚ) ^ number.exponent = 10 ^ number.exponent.toNat := by
    rw [← zpow_natCast, Int.toNat_of_nonneg integral]
  unfold toRat signed
  rw [power]
  split <;> push_cast <;> ring

/-- What the scanner reads has the exact value. -/
theorem meaning_of_positionalValue {found : Json}
    (value : positionalValue number.negative number.wholePart number.fractionPart = some found) :
    found.meaning = .number number.toRat := by
  by_cases integral : 0 ≤ number.exponent
  · rw [positionalValue_of_exponent_nonneg integral] at value
    split_ifs at value
    cases value
    rw [meaning, toRat_of_exponent_nonneg integral]
  · rw [positionalValue_of_exponent_neg (by omega)] at value
    cases value
    rfl

/-- Only a long integer cannot be read. -/
theorem positionalValue_eq_none_iff (number : Decimal) :
    positionalValue number.negative number.wholePart number.fractionPart =
        none ↔
      0 ≤ number.exponent ∧ maxStrDigits <
          numDigits number.coefficient + number.exponent.toNat := by
  by_cases integral : 0 ≤ number.exponent
  · rw [positionalValue_of_exponent_nonneg integral]
    simp [integral]
  · rw [positionalValue_of_exponent_neg (by omega)]
    simp [integral]

/-- The scanner reads a formatted normalized decimal. -/
theorem reads_formatF {normalized : Decimal} (result : number.normalize = some normalized) :
    Reads normalized.formatF
      (positionalValue normalized.negative normalized.wholePart normalized.fractionPart) :=
  reads_positional (isWhole_wholePart_of_normalize result)
    fun _ present => isDigit_of_mem_fractionPart present

/-! ## Trailing zeros -/

/-- `text.rstrip(char)`. -/
def rstrip (char : Char) (text : List Char) : List Char :=
  text.rdropWhile fun other => other == char

theorem rstrip_eq_self {char : Char} {text : List Char}
    (keeps : ∀ last ∈ text.getLast?, last ≠ char) :
    rstrip char text = text := by
  rcases List.eq_nil_or_concat text with rfl | ⟨front, last, rfl⟩
  · rfl
  · have differs := keeps last (by simp)
    rw [List.concat_eq_append, rstrip, List.rdropWhile_concat_neg]
    simpa using differs

/-- Without a fraction there is no decimal point. -/
theorem contains_point_formatF (integral : 0 ≤ number.exponent) :
    number.formatF.contains '.' = false := by
  rw [List.contains_eq_mem, decide_eq_false_iff_not, formatF, positional,
    if_pos ((fractionPart_eq_nil_iff number).mpr integral), List.append_nil]
  intro present
  rcases List.mem_append.mp present with sign | whole
  · split at sign <;> simp at sign
  · have isDigit := isDigit_of_mem_wholePart whole
    simp at isDigit

/-- A fraction that ends in a nonzero digit is left alone by stripping zeros
and then points. -/
theorem rstrip_formatF (fractional : number.exponent < 0)
    (trailing : number.coefficient % 10 ≠ 0) :
    rstrip '.' (rstrip '0' number.formatF) = number.formatF := by
  have last : number.formatF.getLast? =
      some (number.coefficient % 10).digitChar := by
    have nonempty : number.fractionPart ≠ [] := by
      rw [Ne, fractionPart_eq_nil_iff]
      omega
    have some : number.digits.drop
        (number.digits.length - number.scale) ≠ [] := by
      have := List.length_pos_of_ne_nil number.digits_ne_nil
      rw [Ne, List.drop_eq_nil_iff]
      unfold scale
      omega
    rw [formatF, positional, if_neg nonempty,
      List.getLast?_append_of_ne_nil _ (by simp), ← List.singleton_append,
      List.getLast?_append_of_ne_nil _ nonempty, fractionPart,
      if_neg (by omega), List.getLast?_append_of_ne_nil _ some,
      List.getLast?_drop, if_neg (by simpa using some)]
    exact getLast?_toDigits number.coefficient
  have differs : ∀ value < 10, value ≠ 0 →
      value.digitChar ≠ '0' ∧ value.digitChar ≠ '.' := by
    decide
  obtain ⟨notZero, notPoint⟩ := differs _ (Nat.mod_lt _ (by decide)) trailing
  have zerosKept : rstrip '0' number.formatF = number.formatF := by
    apply rstrip_eq_self
    simpa [last] using notZero
  rw [zerosKept]
  apply rstrip_eq_self
  simp [last, notPoint]

end Foundation.Decimal
