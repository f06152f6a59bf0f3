import Mathlib.Data.List.Basic
import Mathlib.Tactic.Ring
import Mathlib.Tactic.NormNum

/-!
# Hexadecimal digits

Lowercase hexadecimal notation of fixed width, and reading it back.
-/

namespace Foundation.Hex

/-- Lowercase hexadecimal digit of a number below sixteen. -/
def hexDigit (number : Nat) : Char :=
  "0123456789abcdef".toList.getD number '0'

/-- Exactly `count` hexadecimal digits of a number. -/
def hexDigits (number : Nat) : Nat → List Char
  | 0 => []
  | count + 1 =>
      hexDigit ((number >>> (4 * count)) % 16) :: hexDigits number count

/-- Lowercase hexadecimal digits. -/
def isHexDigit (char : Char) : Bool :=
  "0123456789abcdef".toList.contains char

theorem isHexDigit_hexDigit {number : Nat} (small : number < 16) :
    isHexDigit (hexDigit number) = true := by
  have all : ∀ number < 16, isHexDigit (hexDigit number) = true := by decide
  exact all number small

@[simp] theorem length_hexDigits (number count : Nat) :
    (hexDigits number count).length = count := by
  induction count with
  | zero => rfl
  | succ count ih =>
      simp [hexDigits, ih]

theorem isHexDigit_of_mem_hexDigits {number count : Nat} {char : Char}
    (present : char ∈ hexDigits number count) :
    isHexDigit char = true := by
  induction count with
  | zero => simp [hexDigits] at present
  | succ count ih =>
      rcases List.mem_cons.mp present with rfl | later
      · exact isHexDigit_hexDigit (Nat.mod_lt _ (by decide))
      · exact ih later

/-- Value of a hexadecimal digit of either case. -/
def hexValue (char : Char) : Option Nat :=
  if 48 ≤ char.toNat ∧ char.toNat ≤ 57 then some (char.toNat - 48)
  else if 97 ≤ char.toNat ∧ char.toNat ≤ 102 then some (char.toNat - 87)
  else if 65 ≤ char.toNat ∧ char.toNat ≤ 70 then some (char.toNat - 55)
  else none

/-- The number written by hexadecimal digits, continuing from `start`. -/
def ofHexDigits : List Char → Nat → Option Nat
  | [], start => some start
  | digit :: digits, start =>
      (hexValue digit).bind fun value => ofHexDigits digits (start * 16 + value)

theorem hexValue_hexDigit {number : Nat} (small : number < 16) :
    hexValue (hexDigit number) = some number := by
  have all : ∀ number < 16, hexValue (hexDigit number) = some number := by
    decide
  exact all number small

/-- Fixed-width notation reads back as the number, up to its width. -/
theorem ofHexDigits_hexDigits (number count start : Nat) :
    ofHexDigits (hexDigits number count) start =
      some (start * 16 ^ count + number % 16 ^ count) := by
  induction count generalizing start with
  | zero => simp [hexDigits, ofHexDigits, Nat.mod_one]
  | succ count ih =>
      have digit : (number >>> (4 * count)) % 16 < 16 := Nat.mod_lt _ (by decide)
      rw [hexDigits, ofHexDigits, hexValue_hexDigit digit, Option.bind_some, ih]
      have power : 2 ^ (4 * count) = 16 ^ count := by
        rw [pow_mul]
        norm_num
      rw [Nat.shiftRight_eq_div_pow, power, Nat.pow_succ, Nat.mod_mul]
      congr 1
      ring

end Foundation.Hex
