import SanTanHeights.Foundation.Hex

/-!
# UUIDs

A UUID is a 128-bit number.  `str` and `parse` are `str(UUID)` and `UUID(text)`
of Python's `uuid` module; the second undoes the first.  Those that are drawn
have another version than those that are made from a name.
-/

namespace Foundation

open Hex

/-- A 128-bit number. -/
structure Uuid where
  value : Nat
  bounded : value < 2 ^ 128
  deriving DecidableEq

namespace Uuid

/-- `UUID(int=number)`, for a number below `2 ^ 128`. -/
def ofNat (number : Nat) : Uuid :=
  ⟨number % 2 ^ 128, Nat.mod_lt _ (Nat.two_pow_pos _)⟩

instance (number : Nat) : OfNat Uuid number := ⟨ofNat number⟩

/-- The characters of `str(uuid)`. -/
def strChars (uuid : Uuid) : List Char :=
  let hex := hexDigits uuid.value 32
  hex.take 8 ++ '-' :: ((hex.drop 8).take 4 ++ '-' ::
    ((hex.drop 12).take 4 ++ '-' :: ((hex.drop 16).take 4 ++ '-' :: hex.drop 20)))

/-- `str(uuid)`. -/
def str (uuid : Uuid) : String :=
  String.ofList uuid.strChars

/-- `text.replace(pattern, "")` on a text of at most `fuel` characters. -/
def removeAll (pattern : List Char) : Nat → List Char → List Char
  | 0, text => text
  | _, [] => []
  | fuel + 1, char :: rest =>
      if pattern <+: char :: rest then
        removeAll pattern fuel ((char :: rest).drop pattern.length)
      else char :: removeAll pattern fuel rest

/-- `text.strip("\x7b\x7d")`. -/
def stripBraces (text : List Char) : List Char :=
  let isBrace := fun char : Char => char == '{' || char == '}'
  ((text.dropWhile isBrace).reverse.dropWhile isBrace).reverse

/-- `UUID(text)`; `none` is the `ValueError`.  The digits must be plain
hexadecimal digits. -/
def parse (text : String) : Option Uuid :=
  let chars := text.toList
  let unprefixed := removeAll ['u', 'u', 'i', 'd', ':'] chars.length
    (removeAll ['u', 'r', 'n', ':'] chars.length chars)
  let hex := (stripBraces unprefixed).filter fun char => char != '-'
  if hex.length = 32 then
    (ofHexDigits hex 0).bind fun value =>
      if bounded : value < 2 ^ 128 then some ⟨value, bounded⟩ else none
  else none

/-! ## Round trip -/

theorem removeAll_eq_self {pattern text : List Char} {char : Char} (fuel : Nat)
    (needed : char ∈ pattern) (absent : char ∉ text) :
    removeAll pattern fuel text = text := by
  induction fuel generalizing text with
  | zero => rfl
  | succ fuel ih =>
      cases text with
      | nil => rfl
      | cons first rest =>
          have notPrefix : ¬ pattern <+: first :: rest :=
            fun isPrefix => absent (isPrefix.subset needed)
          rw [removeAll, if_neg notPrefix, ih]
          exact fun present => absent (List.mem_cons_of_mem _ present)

theorem stripBraces_eq_self {text : List Char}
    (absent : ∀ char ∈ text, char ≠ '{' ∧ char ≠ '}') :
    stripBraces text = text := by
  have keeps : ∀ text : List Char, (∀ char ∈ text, char ≠ '{' ∧ char ≠ '}') →
      text.dropWhile (fun char => char == '{' || char == '}') = text := by
    intro text absent
    cases text with
    | nil => rfl
    | cons char rest =>
        have := absent char List.mem_cons_self
        simp [this]
  simp only [stripBraces]
  rw [keeps text absent, keeps text.reverse (by simpa using absent), List.reverse_reverse]

theorem hexDigit_ne {char : Char} (digit : isHexDigit char = true) :
    char ≠ '-' ∧ char ≠ ':' ∧ char ≠ '{' ∧ char ≠ '}' := by
  refine ⟨?_, ?_, ?_, ?_⟩
  all_goals
    rintro rfl
    revert digit
    decide

theorem mem_strChars {uuid : Uuid} {char : Char} (present : char ∈ uuid.strChars) :
    char = '-' ∨ isHexDigit char = true := by
  simp only [strChars, List.mem_append, List.mem_cons] at present
  have digit : char ∈ hexDigits uuid.value 32 → isHexDigit char = true :=
    isHexDigit_of_mem_hexDigits
  rcases present with first | rfl | second | rfl | third | rfl | fourth |
    rfl | fifth
  · exact .inr (digit (List.mem_of_mem_take first))
  · exact .inl rfl
  · exact .inr (digit (List.mem_of_mem_drop (List.mem_of_mem_take second)))
  · exact .inl rfl
  · exact .inr (digit (List.mem_of_mem_drop (List.mem_of_mem_take third)))
  · exact .inl rfl
  · exact .inr (digit (List.mem_of_mem_drop (List.mem_of_mem_take fourth)))
  · exact .inl rfl
  · exact .inr (digit (List.mem_of_mem_drop fifth))

theorem filter_strChars (uuid : Uuid) :
    uuid.strChars.filter (fun char => char != '-') = hexDigits uuid.value 32 := by
  have kept : ∀ part : List Char, part ⊆ hexDigits uuid.value 32 →
      part.filter (fun char => char != '-') = part := by
    intro part within
    refine List.filter_eq_self.mpr fun char present => ?_
    have notHyphen := (hexDigit_ne (isHexDigit_of_mem_hexDigits (within present))).1
    simpa using notHyphen
  have rejoin : ∀ hex : List Char,
      hex.take 8 ++ ((hex.drop 8).take 4 ++ ((hex.drop 12).take 4 ++
        ((hex.drop 16).take 4 ++ hex.drop 20))) = hex := by
    intro hex
    have last : (hex.drop 16).take 4 ++ hex.drop 20 = hex.drop 16 := by
      simpa using List.take_append_drop 4 (hex.drop 16)
    have third : (hex.drop 12).take 4 ++ hex.drop 16 = hex.drop 12 := by
      simpa using List.take_append_drop 4 (hex.drop 12)
    have second : (hex.drop 8).take 4 ++ hex.drop 12 = hex.drop 8 := by
      simpa using List.take_append_drop 4 (hex.drop 8)
    rw [last, third, second, List.take_append_drop]
  have hyphen : ('-' != '-') = false := by decide
  unfold strChars
  simp only [List.filter_append, List.filter_cons, hyphen, Bool.false_eq_true, if_false]
  have middle : ∀ start count, ((hexDigits uuid.value 32).drop start).take
      count ⊆ hexDigits uuid.value 32 :=
    fun start count _ present =>
      List.mem_of_mem_drop (List.mem_of_mem_take present)
  rw [kept _ (List.take_subset _ _), kept _ (middle 8 4),
    kept _ (middle 12 4), kept _ (middle 16 4), kept _ (List.drop_subset _ _), rejoin]

/-- Reading a written UUID gives it back. -/
theorem parse_str (uuid : Uuid) : parse uuid.str = some uuid := by
  have noColon : ':' ∉ uuid.strChars := by
    intro present
    rcases mem_strChars present with hyphen | digit
    · revert hyphen
      decide
    · exact (hexDigit_ne digit).2.1 rfl
  have noBrace : ∀ char ∈ uuid.strChars, char ≠ '{' ∧ char ≠ '}' := by
    intro char present
    rcases mem_strChars present with rfl | digit
    · decide
    · exact (hexDigit_ne digit).2.2
  have value : ofHexDigits (hexDigits uuid.value 32) 0 = some uuid.value := by
    rw [ofHexDigits_hexDigits, Nat.zero_mul, Nat.zero_add]
    congr 1
    exact Nat.mod_eq_of_lt (by simpa using uuid.bounded)
  unfold parse str
  rw [String.toList_ofList]
  simp only
  rw [removeAll_eq_self _ (by simp : ':' ∈ ['u', 'r', 'n', ':']) noColon,
    removeAll_eq_self _ (by simp : ':' ∈ ['u', 'u', 'i', 'd', ':']) noColon,
    stripBraces_eq_self noBrace, filter_strChars, length_hexDigits,
    if_pos rfl, value, Option.bind_some, dif_pos uuid.bounded]

theorem str_injective : Function.Injective str := by
  intro left right equal
  have parsed := congrArg parse equal
  rw [parse_str, parse_str] at parsed
  exact Option.some.inj parsed

end Uuid

end Foundation
