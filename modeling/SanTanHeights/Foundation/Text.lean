import Mathlib.Data.List.Basic
import Mathlib.Data.List.DropRight

/-!
# Python text

The whitespace of `str.strip()`, and `str.replace`.
-/

namespace Foundation.Text

/-- `str.isspace()` on one character. -/
def isSpace (char : Char) : Bool :=
  let code := char.toNat
  (9 ≤ code && code ≤ 13) || (28 ≤ code && code ≤ 32) || code == 0x85 ||
    code == 0xA0 || code == 0x1680 || (0x2000 ≤ code && code ≤ 0x200A) ||
    code == 0x2028 || code == 0x2029 || code == 0x202F || code == 0x205F ||
    code == 0x3000

/-- `not value.strip()`. -/
def isBlank (value : String) : Bool :=
  value.toList.all isSpace

/-- A literal that starts with a character, which the kernel reads as its
list. -/
theorem isBlank_ofList_cons {char : Char} {rest : List Char} (visible : isSpace char = false) :
    isBlank (String.ofList (char :: rest)) = false := by
  simp [isBlank, visible]

/-- `value.strip()`. -/
def strip (value : String) : String :=
  String.ofList ((value.toList.dropWhile isSpace).reverse.dropWhile isSpace).reverse

/-- What starts a trimmed list is trimmed. -/
theorem dropWhile_eq_self_of_prefix {α : Type*} {test : α → Bool} {values start : List α}
    (trimmed : values.dropWhile test = values) (starts : start <+: values) :
    start.dropWhile test = start := by
  obtain ⟨rest, rfl⟩ := starts
  cases start with
  | nil => rfl
  | cons first start =>
      rw [List.cons_append, List.dropWhile_cons] at trimmed
      by_cases passes : test first = true
      · rw [if_pos passes] at trimmed
        have shorter := (List.dropWhile_sublist test (l := start ++ rest)).length_le
        rw [trimmed, List.length_cons] at shorter
        omega
      · exact List.dropWhile_cons_of_neg passes

theorem all_dropWhile {α : Type*} (test : α → Bool) (values : List α) :
    (values.dropWhile test).all test = values.all test := by
  conv_rhs => rw [← List.takeWhile_append_dropWhile (p := test) (l := values)]
  rw [List.all_append, List.all_takeWhile, Bool.true_and]

/-- A stripped text has no more to strip. -/
@[simp] theorem strip_strip (value : String) : strip (strip value) = strip value := by
  have front := dropWhile_eq_self_of_prefix
    (List.dropWhile_idempotent isSpace value.toList)
    (List.rdropWhile_prefix isSpace (value.toList.dropWhile isSpace))
  have back := List.rdropWhile_idempotent isSpace (value.toList.dropWhile isSpace)
  unfold List.rdropWhile at front back
  rw [strip, strip, String.toList_ofList, front, back]

/-- Stripping keeps a text blank or not. -/
@[simp] theorem isBlank_strip (value : String) : isBlank (strip value) = isBlank value := by
  rw [isBlank, strip, String.toList_ofList, List.all_reverse, all_dropWhile,
    List.all_reverse, all_dropWhile, isBlank]

/-- `text.replace(pattern, replacement)` on at most `fuel` characters, for a
pattern that is not empty. -/
def replaceChars (pattern replacement : List Char) :
    Nat → List Char → List Char
  | 0, text => text
  | _, [] => []
  | fuel + 1, char :: rest =>
      if pattern <+: char :: rest then
        replacement ++ replaceChars pattern replacement fuel ((char :: rest).drop pattern.length)
      else char :: replaceChars pattern replacement fuel rest

/-- `text.replace(pattern, replacement)`. -/
def replace (pattern replacement text : String) : String :=
  String.ofList (replaceChars pattern.toList replacement.toList text.toList.length text.toList)

example : replace "+00:00" "Z" "2026-09-16T19:00:00+00:00" =
    "2026-09-16T19:00:00Z" := by
  decide +kernel

end Foundation.Text
