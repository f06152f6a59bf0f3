import Mathlib.Data.Set.Function
import Mathlib.Tactic.IntervalCases
import SanTanHeights.Foundation.Hex

/-!
# SHA-256

The digest of FIPS 180-4 on byte lists, with words as natural numbers below
`2 ^ 32` so that the kernel can evaluate it.  The only general fact used
about it is the shape of its output; that it does not collide on given texts
is always an explicit assumption.
-/

namespace Foundation.Sha256

open Hex

/-- `2 ^ 32`. -/
def wordModulus : Nat := 4294967296

/-- Rotate a 32-bit word right. -/
def rotateRight (word count : Nat) : Nat :=
  (word >>> count) ||| ((word <<< (32 - count)) % wordModulus)

def choose (x y z : Nat) : Nat :=
  (x &&& y) ^^^ ((4294967295 ^^^ x) &&& z)

def majority (x y z : Nat) : Nat :=
  (x &&& y) ^^^ (x &&& z) ^^^ (y &&& z)

def bigSigma0 (x : Nat) : Nat :=
  rotateRight x 2 ^^^ rotateRight x 13 ^^^ rotateRight x 22

def bigSigma1 (x : Nat) : Nat :=
  rotateRight x 6 ^^^ rotateRight x 11 ^^^ rotateRight x 25

def smallSigma0 (x : Nat) : Nat :=
  rotateRight x 7 ^^^ rotateRight x 18 ^^^ (x >>> 3)

def smallSigma1 (x : Nat) : Nat :=
  rotateRight x 17 ^^^ rotateRight x 19 ^^^ (x >>> 10)

/-- The sixty-four round constants. -/
def roundConstants : List Nat :=
  [0x428a2f98, 0x71374491, 0xb5c0fbcf, 0xe9b5dba5, 0x3956c25b, 0x59f111f1,
    0x923f82a4, 0xab1c5ed5, 0xd807aa98, 0x12835b01, 0x243185be, 0x550c7dc3,
    0x72be5d74, 0x80deb1fe, 0x9bdc06a7, 0xc19bf174, 0xe49b69c1, 0xefbe4786,
    0x0fc19dc6, 0x240ca1cc, 0x2de92c6f, 0x4a7484aa, 0x5cb0a9dc, 0x76f988da,
    0x983e5152, 0xa831c66d, 0xb00327c8, 0xbf597fc7, 0xc6e00bf3, 0xd5a79147,
    0x06ca6351, 0x14292967, 0x27b70a85, 0x2e1b2138, 0x4d2c6dfc, 0x53380d13,
    0x650a7354, 0x766a0abb, 0x81c2c92e, 0x92722c85, 0xa2bfe8a1, 0xa81a664b,
    0xc24b8b70, 0xc76c51a3, 0xd192e819, 0xd6990624, 0xf40e3585, 0x106aa070,
    0x19a4c116, 0x1e376c08, 0x2748774c, 0x34b0bcb5, 0x391c0cb3, 0x4ed8aa4a,
    0x5b9cca4f, 0x682e6ff3, 0x748f82ee, 0x78a5636f, 0x84c87814, 0x8cc70208,
    0x90befffa, 0xa4506ceb, 0xbef9a3f7, 0xc67178f2]

/-- The eight working variables. -/
structure Words where
  (a b c d e f g h : Nat)
  deriving DecidableEq

/-- The initial hash value. -/
def initial : Words :=
  ⟨0x6a09e667, 0xbb67ae85, 0x3c6ef372, 0xa54ff53a, 0x510e527f, 0x9b05688c, 0x1f83d9ab, 0x5be0cd19⟩

/-- One compression round. -/
def round (words : Words) (constant scheduled : Nat) : Words :=
  let first := words.h + bigSigma1 words.e +
    choose words.e words.f words.g + constant + scheduled
  let second := bigSigma0 words.a + majority words.a words.b words.c
  { a := (first + second) % wordModulus
    b := words.a
    c := words.b
    d := words.c
    e := (words.d + first) % wordModulus
    f := words.e
    g := words.f
    h := words.g }

/-- The schedule word that follows a window of sixteen. -/
def nextScheduled (window : List Nat) : Nat :=
  (smallSigma1 (window.getD 14 0) + window.getD 9 0 +
    smallSigma0 (window.getD 1 0) + window.getD 0 0) % wordModulus

/-- Run the rounds with a sliding window over the message schedule. -/
def rounds : List Nat → List Nat → Words → Words
  | [], _, words => words
  | constant :: rest, window, words =>
      rounds rest (window.tail ++ [nextScheduled window]) (round words constant (window.headD 0))

/-- Absorb one block of sixteen words. -/
def compress (words : Words) (block : List Nat) : Words :=
  let mixed := rounds roundConstants block words
  { a := (words.a + mixed.a) % wordModulus
    b := (words.b + mixed.b) % wordModulus
    c := (words.c + mixed.c) % wordModulus
    d := (words.d + mixed.d) % wordModulus
    e := (words.e + mixed.e) % wordModulus
    f := (words.f + mixed.f) % wordModulus
    g := (words.g + mixed.g) % wordModulus
    h := (words.h + mixed.h) % wordModulus }

/-- The `count` big-endian bytes of a number. -/
def bigEndian (number : Nat) : Nat → List Nat
  | 0 => []
  | count + 1 => (number >>> (8 * count)) % 256 :: bigEndian number count

/-- Append the closing bit, the zero bytes and the 64-bit message length. -/
def pad (message : List Nat) : List Nat :=
  message ++ 0x80 ::
    (List.replicate ((119 - message.length % 64) % 64) 0 ++ bigEndian (8 * message.length) 8)

/-- Group bytes into big-endian words; a trailing partial group is dropped. -/
def toWords : List Nat → List Nat
  | first :: second :: third :: fourth :: rest =>
      (((first * 256 + second) * 256 + third) * 256 + fourth) :: toWords rest
  | _ => []

/-- Absorb the padded message block by block. -/
def absorb : Nat → List Nat → Words → Words
  | 0, _, words => words
  | blocks + 1, message, words =>
      absorb blocks (message.drop 16) (compress words (message.take 16))

/-- The final hash value of a message. -/
def digest (message : List Nat) : Words :=
  absorb ((pad message).length / 64) (toWords (pad message)) initial

/-- Hexadecimal form of a hash value. -/
def Words.hex (words : Words) : List Char :=
  [words.a, words.b, words.c, words.d, words.e, words.f, words.g,
    words.h].flatMap fun word => hexDigits word 8

/-- UTF-8 bytes of a text. -/
def utf8 (text : List Char) : List Nat :=
  text.flatMap fun char => (String.utf8EncodeChar char).map UInt8.toNat

/-- Hexadecimal digest of the UTF-8 form of a text. -/
def hexdigestChars (text : List Char) : List Char :=
  (digest (utf8 text)).hex

/-- `sha256(text.encode("utf-8")).hexdigest()`. -/
def hexdigest (text : String) : String :=
  String.ofList (hexdigestChars text.toList)

/-! ## Evaluation

The kernel unfolds the operations on numbers and rebuilds the window of the
schedule in every round.  The same digest with the window in sixteen arguments
and the operations spelled out spares both.
-/

namespace Unrolled

/-- `rotateRight word count`, where the two distances sum to 32. -/
def rotate (word right left : Nat) : Nat :=
  Nat.lor (Nat.shiftRight word right) (Nat.mod (Nat.shiftLeft word left) (nat_lit 4294967296))

/-- The word that a sum leaves. -/
def wrap (sum : Nat) : Nat := Nat.mod sum (nat_lit 4294967296)

/-- `nextScheduled`, of the four words of the window that it reads. -/
def nextScheduled (w0 w1 w9 w14 : Nat) : Nat :=
  wrap (Nat.add (Nat.add (Nat.add (Nat.xor
      (Nat.xor (rotate w14 (nat_lit 17) (nat_lit 15)) (rotate w14 (nat_lit 19) (nat_lit 13)))
      (Nat.shiftRight w14 (nat_lit 10))) w9)
    (Nat.xor (Nat.xor (rotate w1 (nat_lit 7) (nat_lit 25))
        (rotate w1 (nat_lit 18) (nat_lit 14)))
      (Nat.shiftRight w1 (nat_lit 3)))) w0)

/-- The first sum of a round. -/
def first (e f g h constant scheduled : Nat) : Nat :=
  Nat.add (Nat.add (Nat.add (Nat.add h (Nat.xor
      (Nat.xor (rotate e (nat_lit 6) (nat_lit 26)) (rotate e (nat_lit 11) (nat_lit 21)))
      (rotate e (nat_lit 25) (nat_lit 7))))
    (Nat.xor (Nat.land e f) (Nat.land (Nat.xor (nat_lit 4294967295) e) g)))
    constant) scheduled

/-- The second sum of a round. -/
def second (a b c : Nat) : Nat :=
  Nat.add (Nat.xor (Nat.xor (rotate a (nat_lit 2) (nat_lit 30))
        (rotate a (nat_lit 13) (nat_lit 19)))
      (rotate a (nat_lit 22) (nat_lit 10)))
    (Nat.xor (Nat.xor (Nat.land a b) (Nat.land a c)) (Nat.land b c))

def rounds : List Nat → (w0 w1 w2 w3 w4 w5 w6 w7 w8 w9 w10 w11 w12 w13 w14 w15 : Nat) →
    (a b c d e f g h : Nat) → Words
  | [] => fun _ _ _ _ _ _ _ _ _ _ _ _ _ _ _ _ a b c d e f g h =>
      ⟨a, b, c, d, e, f, g, h⟩
  | constant :: rest =>
      fun w0 w1 w2 w3 w4 w5 w6 w7 w8 w9 w10 w11 w12 w13 w14 w15
          a b c d e f g h =>
        rounds rest w1 w2 w3 w4 w5 w6 w7 w8 w9 w10 w11 w12 w13 w14 w15
          (nextScheduled w0 w1 w9 w14)
          (wrap (Nat.add (first e f g h constant w0) (second a b c)))
          a b c (wrap (Nat.add d (first e f g h constant w0))) e f g

/-- The rounds of a block of sixteen words. -/
def blockRounds (block : List Nat) (words : Words) : Words :=
  if block.length = 16 then
    rounds roundConstants (block.getD 0 0) (block.getD 1 0)
      (block.getD 2 0) (block.getD 3 0) (block.getD 4 0) (block.getD 5 0)
      (block.getD 6 0) (block.getD 7 0) (block.getD 8 0) (block.getD 9 0)
      (block.getD 10 0) (block.getD 11 0) (block.getD 12 0)
      (block.getD 13 0) (block.getD 14 0) (block.getD 15 0)
      words.a words.b words.c words.d words.e words.f words.g words.h
  else Sha256.rounds roundConstants block words

def compress (words : Words) (block : List Nat) : Words :=
  let mixed := blockRounds block words
  { a := wrap (Nat.add words.a mixed.a)
    b := wrap (Nat.add words.b mixed.b)
    c := wrap (Nat.add words.c mixed.c)
    d := wrap (Nat.add words.d mixed.d)
    e := wrap (Nat.add words.e mixed.e)
    f := wrap (Nat.add words.f mixed.f)
    g := wrap (Nat.add words.g mixed.g)
    h := wrap (Nat.add words.h mixed.h) }

def toWords : List Nat → List Nat
  | first :: second :: third :: fourth :: rest =>
      Nat.add (Nat.mul (Nat.add (Nat.mul (Nat.add (Nat.mul first
        (nat_lit 256)) second) (nat_lit 256)) third) (nat_lit 256)) fourth :: toWords rest
  | _ => []

/-- `absorb`, of any compression. -/
def absorbWith (compress : Words → List Nat → Words) :
    Nat → List Nat → Words → Words
  | 0, _, words => words
  | blocks + 1, message, words =>
      absorbWith compress blocks (message.drop 16) (compress words (message.take 16))

def hexdigestChars (text : List Char) : List Char :=
  (absorbWith compress ((pad (utf8 text)).length / 64) (toWords (pad (utf8 text))) initial).hex

theorem rounds_eq (constants : List Nat)
    (w0 w1 w2 w3 w4 w5 w6 w7 w8 w9 w10 w11 w12 w13 w14 w15 : Nat) (a b c d e f g h : Nat) :
    rounds constants w0 w1 w2 w3 w4 w5 w6 w7 w8 w9 w10 w11 w12 w13 w14 w15
        a b c d e f g h =
      Sha256.rounds constants
        [w0, w1, w2, w3, w4, w5, w6, w7, w8, w9, w10, w11, w12, w13, w14, w15]
        ⟨a, b, c, d, e, f, g, h⟩ := by
  induction constants generalizing w0 w1 w2 w3 w4 w5 w6 w7 w8 w9 w10 w11 w12
    w13 w14 w15 a b c d e f g h with
  | nil => rfl
  | cons constant rest ih => exact ih ..

theorem eq_of_length_eq_sixteen {block : List Nat} (sixteen : block.length = 16) :
    [block.getD 0 0, block.getD 1 0, block.getD 2 0, block.getD 3 0,
      block.getD 4 0, block.getD 5 0, block.getD 6 0, block.getD 7 0,
      block.getD 8 0, block.getD 9 0, block.getD 10 0, block.getD 11 0,
      block.getD 12 0, block.getD 13 0, block.getD 14 0,
      block.getD 15 0] = block := by
  apply List.ext_getElem
  · exact sixteen.symm
  · intro index _ bound
    rw [List.getElem_eq_getD 0, List.getElem_eq_getD 0]
    rw [sixteen] at bound
    interval_cases index <;> rfl

theorem blockRounds_eq (block : List Nat) (words : Words) :
    blockRounds block words = Sha256.rounds roundConstants block words := by
  rw [blockRounds]
  split
  · rename_i sixteen
    rw [rounds_eq, eq_of_length_eq_sixteen sixteen]
  · rfl

theorem compress_eq : compress = Sha256.compress := by
  funext words block
  rw [compress, blockRounds_eq]
  rfl

theorem toWords_eq (bytes : List Nat) : toWords bytes = Sha256.toWords bytes := by
  induction bytes using toWords.induct with
  | case1 first second third fourth rest ih =>
      rw [toWords, Sha256.toWords, ih]
      rfl
  | case2 bytes short => rw [toWords, Sha256.toWords] <;> exact short

theorem absorbWith_compress : absorbWith Sha256.compress = Sha256.absorb := by
  -- Both recursions are the same once their compiled forms are laid open.
  delta absorbWith Sha256.absorb
  rfl

end Unrolled

/-- The digest as the kernel evaluates it best. -/
theorem hexdigestChars_eq_unrolled : hexdigestChars = Unrolled.hexdigestChars := by
  funext text
  rw [hexdigestChars, Unrolled.hexdigestChars, digest, Unrolled.compress_eq,
    Unrolled.absorbWith_compress, Unrolled.toWords_eq]

example : hexdigest "abc" =
    "ba7816bf8f01cfea414140de5dae2223b00361a396177a9cb410ff61f20015ad" := by
  rw [hexdigest, hexdigestChars_eq_unrolled, String.toList_ofList]
  exact congrArg String.ofList (by decide +kernel)

/-! ## Shape of the output -/

/-- Sixty-four lowercase hexadecimal digits, the form of every digest. -/
def isHex64 (text : String) : Bool :=
  text.toList.length == 64 && text.toList.all isHexDigit

@[simp] theorem isHex64_hexdigest (text : String) : isHex64 (hexdigest text) = true := by
  simp only [isHex64, hexdigest, hexdigestChars, String.toList_ofList,
    Bool.and_eq_true, beq_iff_eq, List.all_eq_true]
  constructor
  · simp [Words.hex]
  · intro char present
    obtain ⟨word, _, digit⟩ := List.mem_flatMap.mp present
    exact isHexDigit_of_mem_hexDigits digit

/-- A digit of a digest, by its code. -/
def isHexCode (char : Char) : Bool :=
  (Nat.ble (nat_lit 48) char.toNat && Nat.ble char.toNat (nat_lit 57)) ||
    (Nat.ble (nat_lit 97) char.toNat && Nat.ble char.toNat (nat_lit 102))

theorem isHexDigit_of_isHexCode {char : Char} (coded : isHexCode char = true) :
    isHexDigit char = true := by
  have digit : (48 ≤ char.toNat ∧ char.toNat ≤ 57) ∨
      (97 ≤ char.toNat ∧ char.toNat ≤ 102) := by
    simpa [isHexCode] using coded
  have all : ∀ code < 103, (48 ≤ code ∧ code ≤ 57) ∨
      (97 ≤ code ∧ code ≤ 102) → isHexDigit (Char.ofNat code) = true := by
    decide
  have bounded : char.toNat < 103 := by omega
  simpa using all char.toNat bounded digit

/-- A literal of sixty-four digits, which the kernel reads as its list. -/
theorem isHex64_ofList {digits : List Char} (length : digits.length = 64)
    (coded : digits.all isHexCode = true) :
    isHex64 (String.ofList digits) = true := by
  simp only [isHex64, String.toList_ofList, length, Bool.and_eq_true,
    beq_iff_eq, List.all_eq_true, true_and]
  intro char present
  exact isHexDigit_of_isHexCode (List.all_eq_true.mp coded char present)

theorem hexdigest_ofList_inj (left right : List Char) :
    hexdigest (String.ofList left) = hexdigest (String.ofList right) ↔
      hexdigestChars left = hexdigestChars right := by
  simp [hexdigest, String.ofList_inj]

/-- No two of the given texts share a digest. -/
def CollisionFree (texts : Set String) : Prop :=
  Set.InjOn hexdigest texts

theorem CollisionFree.eq {texts : Set String} {left right : String}
    (collisionFree : CollisionFree texts) (leftMember : left ∈ texts)
    (rightMember : right ∈ texts) (equal : hexdigest left = hexdigest right) :
    left = right :=
  collisionFree leftMember rightMember equal

theorem CollisionFree.mono {smaller larger : Set String}
    (collisionFree : CollisionFree larger) (subset : smaller ⊆ larger) :
    CollisionFree smaller :=
  Set.InjOn.mono subset collisionFree

end Foundation.Sha256
