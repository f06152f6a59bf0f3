import SanTanHeights.Foundation.DecimalText
import SanTanHeights.Foundation.Sha256

/-!
# Keyed hashes

HMAC with SHA-256, and the URL-safe base64 text of its digests without the
padding at the end.  Bytes are numbers below 256.
-/

namespace Foundation

namespace Sha256

/-- The bytes of a hash value. -/
def Words.bytes (words : Words) : List Nat :=
  [words.a, words.b, words.c, words.d, words.e, words.f, words.g,
    words.h].flatMap fun word => bigEndian word 4

/-- A key as long as a block. -/
def blockKey (key : List Nat) : List Nat :=
  let short := if 64 < key.length then (digest key).bytes else key
  short ++ List.replicate (64 - short.length) 0

/-- `hmac.new(key, message, hashlib.sha256).digest()`. -/
def hmac (key message : List Nat) : List Nat :=
  let masked := fun mask => (blockKey key).map fun byte => byte ^^^ mask
  (digest (masked 0x5c ++ (digest (masked 0x36 ++ message)).bytes)).bytes

theorem lt_of_mem_bigEndian
    {number count byte : Nat} (present : byte ∈ bigEndian number count) :
    byte < 256 := by
  induction count with
  | zero => cases present
  | succ count ih =>
      rcases List.mem_cons.mp present with rfl | later
      · exact Nat.mod_lt _ (by decide)
      · exact ih later

theorem lt_of_mem_hmac {key message : List Nat} {byte : Nat}
    (present : byte ∈ hmac key message) : byte < 256 := by
  obtain ⟨word, -, listed⟩ := List.mem_flatMap.mp present
  exact lt_of_mem_bigEndian listed

end Sha256

namespace Base64

/-! ## The text of some bytes -/

/-- The character of a number below 64. -/
def sextet (number : Nat) : Char :=
  "ABCDEFGHIJKLMNOPQRSTUVWXYZabcdefghijklmnopqrstuvwxyz0123456789-_".toList
    |>.getD number 'A'

/-- `base64.urlsafe_b64encode(bytes)`. -/
def urlsafe : List Nat → List Char
  | first :: second :: third :: rest =>
      sextet (first / 4) :: sextet (first % 4 * 16 + second / 16) ::
        sextet (second % 16 * 4 + third / 64) :: sextet (third % 64) :: urlsafe rest
  | [first, second] =>
      [sextet (first / 4), sextet (first % 4 * 16 + second / 16), sextet (second % 16 * 4), '=']
  | [first] => [sextet (first / 4), sextet (first % 4 * 16), '=', '=']
  | [] => []

/-- The text without its padding. -/
def unpadded : List Nat → List Char
  | first :: second :: third :: rest =>
      sextet (first / 4) :: sextet (first % 4 * 16 + second / 16) ::
        sextet (second % 16 * 4 + third / 64) :: sextet (third % 64) :: unpadded rest
  | [first, second] =>
      [sextet (first / 4), sextet (first % 4 * 16 + second / 16), sextet (second % 16 * 4)]
  | [first] => [sextet (first / 4), sextet (first % 4 * 16)]
  | [] => []

/-- The number of a character of the alphabet. -/
def sextetValue (char : Char) : Nat :=
  if char.toNat = 45 then 62
  else if char.toNat = 95 then 63
  else if char.toNat ≤ 57 then char.toNat + 4
  else if char.toNat ≤ 90 then char.toNat - 65
  else char.toNat - 71

theorem sextetValue_sextet {number : Nat} (small : number < 64) :
    sextetValue (sextet number) = number := by
  have all : ∀ number < 64, sextetValue (sextet number) = number := by
    intro number
    -- A literal is its list by definition, which spares decoding it.
    rw [sextet, String.toList_ofList]
    revert number
    decide +kernel
  exact all number small

theorem sextet_inj {left right : Nat} (leftSmall : left < 64) (rightSmall : right < 64)
    (same : sextet left = sextet right) : left = right := by
  rw [← sextetValue_sextet leftSmall, same, sextetValue_sextet rightSmall]

/-- A character of the alphabet is ASCII, and no padding. -/
theorem sextet_plain {number : Nat} (small : number < 64) :
    (sextet number).toNat < 128 ∧ sextet number ≠ '=' := by
  have all : ∀ number < 64,
      (sextet number).toNat < 128 ∧ sextet number ≠ '=' := by
    intro number
    rw [sextet, String.toList_ofList]
    revert number
    decide +kernel
  exact all number small

theorem plain_of_mem_unpadded
    {bytes : List Nat} {char : Char} (small : ∀ byte ∈ bytes, byte < 256)
    (present : char ∈ unpadded bytes) : char.toNat < 128 ∧ char ≠ '=' := by
  induction bytes using unpadded.induct with
  | case1 first second third rest ih =>
      simp only [List.forall_mem_cons] at small
      obtain ⟨firstSmall, secondSmall, thirdSmall, restSmall⟩ := small
      simp only [unpadded, List.mem_cons] at present
      rcases present with rfl | rfl | rfl | rfl | present
      · exact sextet_plain (by omega)
      · exact sextet_plain (by omega)
      · exact sextet_plain (by omega)
      · exact sextet_plain (by omega)
      · exact ih restSmall present
  | case2 first second =>
      simp only [List.forall_mem_cons] at small
      simp only [unpadded, List.mem_cons, List.not_mem_nil, or_false] at present
      rcases present with rfl | rfl | rfl
      · exact sextet_plain (by omega)
      · exact sextet_plain (by omega)
      · exact sextet_plain (by omega)
  | case3 first =>
      simp only [List.forall_mem_cons] at small
      simp only [unpadded, List.mem_cons, List.not_mem_nil, or_false] at present
      rcases present with rfl | rfl
      · exact sextet_plain (by omega)
      · exact sextet_plain (by omega)
  | case4 => cases present

/-- The padding stands at the end. -/
theorem exists_padding (bytes : List Nat) :
    ∃ count, urlsafe bytes = unpadded bytes ++ List.replicate count '=' := by
  induction bytes using unpadded.induct with
  | case1 first second third rest ih =>
      obtain ⟨count, padded⟩ := ih
      exact ⟨count, by rw [urlsafe, unpadded, padded]; rfl⟩
  | case2 first second => exact ⟨1, rfl⟩
  | case3 first => exact ⟨2, rfl⟩
  | case4 => exact ⟨0, rfl⟩

theorem rstrip_append_replicate {char : Char} {text : List Char} (count : Nat)
    (absent : ∀ other ∈ text, other ≠ char) :
    Decimal.rstrip char (text ++ List.replicate count char) = text := by
  induction count with
  | zero =>
      rw [List.replicate_zero, List.append_nil]
      apply Decimal.rstrip_eq_self
      exact fun last found => absent last (List.mem_of_getLast? found)
  | succ count ih =>
      rw [List.replicate_succ', ← List.append_assoc, Decimal.rstrip,
        List.rdropWhile_concat_pos _ _ _ (by simp)]
      exact ih

theorem rstrip_urlsafe {bytes : List Nat} (small : ∀ byte ∈ bytes, byte < 256) :
    Decimal.rstrip '=' (urlsafe bytes) = unpadded bytes := by
  obtain ⟨count, padded⟩ := exists_padding bytes
  rw [padded]
  apply rstrip_append_replicate
  exact fun char present => (plain_of_mem_unpadded small present).2

/-- The text of some bytes tells them. -/
theorem unpadded_inj {left right : List Nat} (leftSmall : ∀ byte ∈ left, byte < 256)
    (rightSmall : ∀ byte ∈ right, byte < 256)
    (same : unpadded left = unpadded right) : left = right := by
  induction left using unpadded.induct generalizing right with
  | case1 first second third rest ih =>
      match right with
      | [] => cases same
      | [_] => simp [unpadded] at same
      | [_, _] => simp [unpadded] at same
      | otherFirst :: otherSecond :: otherThird :: others =>
          simp only [List.forall_mem_cons] at leftSmall rightSmall
          obtain ⟨firstSmall, secondSmall, thirdSmall, restSmall⟩ := leftSmall
          obtain ⟨otherFirstSmall, otherSecondSmall, otherThirdSmall, othersSmall⟩ := rightSmall
          simp only [unpadded, List.cons.injEq] at same
          obtain ⟨one, two, three, four, same⟩ := same
          have high := sextet_inj (by omega) (by omega) one
          have upper := sextet_inj (by omega) (by omega) two
          have lower := sextet_inj (by omega) (by omega) three
          have low := sextet_inj (by omega) (by omega) four
          obtain rfl : first = otherFirst := by omega
          obtain rfl : second = otherSecond := by omega
          obtain rfl : third = otherThird := by omega
          rw [ih restSmall othersSmall same]
  | case2 first second =>
      match right with
      | [] => cases same
      | [_] => simp [unpadded] at same
      | _ :: _ :: _ :: _ => simp [unpadded] at same
      | [otherFirst, otherSecond] =>
          simp only [List.forall_mem_cons] at leftSmall rightSmall
          simp only [unpadded, List.cons.injEq, and_true] at same
          obtain ⟨one, two, three⟩ := same
          have high := sextet_inj (by omega) (by omega) one
          have upper := sextet_inj (by omega) (by omega) two
          have lower := sextet_inj (by omega) (by omega) three
          obtain rfl : first = otherFirst := by omega
          obtain rfl : second = otherSecond := by omega
          rfl
  | case3 first =>
      match right with
      | [] => cases same
      | _ :: _ :: [] => simp [unpadded] at same
      | _ :: _ :: _ :: _ => simp [unpadded] at same
      | [otherFirst] =>
          simp only [List.forall_mem_cons] at leftSmall rightSmall
          simp only [unpadded, List.cons.injEq, and_true] at same
          have high := sextet_inj (by omega) (by omega) same.1
          have upper := sextet_inj (by omega) (by omega) same.2
          obtain rfl : first = otherFirst := by omega
          rfl
  | case4 =>
      match right with
      | [] => rfl
      | [_] => cases same
      | [_, _] => cases same
      | _ :: _ :: _ :: _ => cases same

end Base64
end Foundation
