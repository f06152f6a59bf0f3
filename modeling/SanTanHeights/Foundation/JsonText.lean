import SanTanHeights.Foundation.Json
import SanTanHeights.Foundation.Hex

/-!
# JSON text

String literals as `json.dumps(..., ensure_ascii=False)` writes them, and the
scanner of `json.loads(..., parse_float=Decimal, parse_int=int)`.  Texts are
lists of characters.  A `none` stands for a raised exception, and also for a
result outside the values modelled here (lone surrogates, infinities and NaN).
-/

namespace Foundation.Json

open Hex

/-! ## Writing strings -/

/-- One character inside a string literal. -/
def escapeChar (char : Char) : List Char :=
  if char = '"' then ['\\', '"']
  else if char = '\\' then ['\\', '\\']
  else if char = '\n' then ['\\', 'n']
  else if char = '\r' then ['\\', 'r']
  else if char = '\t' then ['\\', 't']
  else if char.toNat = 8 then ['\\', 'b']
  else if char.toNat = 12 then ['\\', 'f']
  else if char.toNat < 32 then
    ['\\', 'u', '0', '0', (char.toNat / 16).digitChar, (char.toNat % 16).digitChar]
  else [char]

/-- A string literal. -/
def quote (text : List Char) : List Char :=
  '"' :: (text.flatMap escapeChar ++ ['"'])

/-- `",".join(texts)`. -/
def joinComma : List (List Char) → List Char
  | [] => []
  | [text] => text
  | text :: texts => text ++ ',' :: joinComma texts

/-! ## Scanning strings -/

/-- The whitespace of the JSON grammar. -/
def isSpace (char : Char) : Bool :=
  char == ' ' || char == '\t' || char == '\n' || char == '\r'

def skipSpace (text : List Char) : List Char :=
  text.dropWhile isSpace

/-- The four digits of a `\u` escape. -/
def scanHex4 : List Char → Option (Nat × List Char)
  | first :: second :: third :: fourth :: rest =>
      (hexValue first).bind fun a =>
      (hexValue second).bind fun b =>
      (hexValue third).bind fun c =>
      (hexValue fourth).bind fun d =>
        some (((a * 16 + b) * 16 + c) * 16 + d, rest)
  | _ => none

/-- The code unit after a high surrogate. -/
def scanLowSurrogate : List Char → Option (Nat × List Char)
  | '\\' :: 'u' :: text =>
      (scanHex4 text).bind fun scanned =>
        if 0xDC00 ≤ scanned.1 ∧ scanned.1 < 0xE000 then some scanned else none
  | _ => none

/-- A `\u` escape; two of them when the first is a high surrogate. -/
def scanUnicode (text : List Char) : Option (Char × List Char) :=
  (scanHex4 text).bind fun scanned =>
    if 0xD800 ≤ scanned.1 ∧ scanned.1 < 0xDC00 then
      (scanLowSurrogate scanned.2).map fun low =>
        (Char.ofNat (0x10000 + (scanned.1 - 0xD800) * 1024 + (low.1 - 0xDC00)), low.2)
    else if 0xDC00 ≤ scanned.1 ∧ scanned.1 < 0xE000 then none
    else some (Char.ofNat scanned.1, scanned.2)

/-- The character named by a one-letter escape. -/
def simpleEscape (char : Char) : Option Char :=
  if char = '"' ∨ char = '\\' ∨ char = '/' then some char
  else if char = 'n' then some '\n'
  else if char = 'r' then some '\r'
  else if char = 't' then some '\t'
  else if char = 'b' then some (Char.ofNat 8)
  else if char = 'f' then some (Char.ofNat 12)
  else none

/-- What follows a backslash. -/
def scanEscape : List Char → Option (Char × List Char)
  | [] => none
  | char :: rest =>
      if char = 'u' then scanUnicode rest
      else (simpleEscape char).map fun meant => (meant, rest)

/-- The rest of a string literal after its opening quote; control characters
are refused. -/
def scanString : Nat → List Char → Option (List Char × List Char)
  | 0, _ => none
  | _, [] => none
  | fuel + 1, char :: rest =>
      if char = '"' then some ([], rest)
      else if char = '\\' then
        (scanEscape rest).bind fun escaped =>
          (scanString fuel escaped.2).map fun scanned =>
            (escaped.1 :: scanned.1, scanned.2)
      else if char.toNat < 32 then none
      else
        (scanString fuel rest).map fun scanned => (char :: scanned.1, scanned.2)

/-! ## Scanning numbers -/

/-- The default limit on the decimal digits of an `int` in either direction of
conversion. -/
def maxStrDigits : Nat := 4300

def takeDigits (text : List Char) : List Char :=
  text.takeWhile Char.isDigit

def dropDigits (text : List Char) : List Char :=
  text.dropWhile Char.isDigit

/-- The sign of a number and what follows it. -/
def scanMinus : List Char → Bool × List Char
  | '-' :: rest => (true, rest)
  | text => (false, text)

/-- Digits before the decimal point: `0`, or digits that start otherwise. -/
def scanWhole : List Char → Option (List Char × List Char)
  | [] => none
  | char :: rest =>
      if char = '0' then some (['0'], rest)
      else if char.isDigit then some (char :: takeDigits rest, dropDigits rest)
      else none

/-- Digits after the decimal point; none when a digit does not follow it. -/
def scanFraction (text : List Char) : List Char × List Char :=
  match text with
  | '.' :: rest =>
      if takeDigits rest = [] then ([], text)
      else (takeDigits rest, dropDigits rest)
  | _ => ([], text)

/-- The sign of an exponent and what follows it. -/
def scanSign : List Char → Bool × List Char
  | '-' :: rest => (true, rest)
  | '+' :: rest => (false, rest)
  | text => (false, text)

/-- A number with a sign. -/
def signed (negative : Bool) (magnitude : Nat) : Int :=
  if negative then -magnitude else magnitude

/-- The exponent part; none when a digit does not follow the mark. -/
def scanExponent (text : List Char) : Option Int × List Char :=
  match text with
  | [] => (none, [])
  | mark :: rest =>
      if (mark = 'e' ∨ mark = 'E') ∧ takeDigits (scanSign rest).2 ≠ [] then
        (some (signed (scanSign rest).1
          (Nat.ofDigitChars 10 (takeDigits (scanSign rest).2) 0)),
          dropDigits (scanSign rest).2)
      else (none, text)

/-- A number: an `int` without fraction and exponent, else a `Decimal`. -/
def scanNumber (text : List Char) : Option (Json × List Char) :=
  (scanWhole (scanMinus text).2).bind fun whole =>
    let fraction := scanFraction whole.2
    let exponent := scanExponent fraction.2
    if fraction.1 = [] ∧ exponent.1 = none then
      if whole.1.length ≤ maxStrDigits then
        some (.int (signed (scanMinus text).1 (Nat.ofDigitChars 10 whole.1 0)), exponent.2)
      else none
    else
      some (.dec
        { negative := (scanMinus text).1
          coefficient := Nat.ofDigitChars 10 (whole.1 ++ fraction.1) 0
          exponent := exponent.1.getD 0 - fraction.1.length }, exponent.2)

/-! ## Scanning values -/

/-- `members[key] = value` on a dictionary in insertion order. -/
def setItem (key : String) (value : Json) :
    List (String × Json) → List (String × Json)
  | [] => [(key, value)]
  | member :: members =>
      if member.1 = key then (key, value) :: members
      else member :: setItem key value members

/-- The dictionary of pairs assigned from left to right. -/
def dictOf (pairs : List (String × Json)) : List (String × Json) :=
  pairs.foldl (fun members pair => setItem pair.1 pair.2 members) []

/-- What follows a literal's first letter. -/
def scanLiteral (letters : List Char) (value : Json) (text : List Char) :
    Option (Json × List Char) :=
  if letters <+: text then some (value, text.drop letters.length) else none

/-- A member's key and colon. -/
def scanKey (fuel : Nat) : List Char → Option (String × List Char)
  | '"' :: text =>
      (scanString fuel text).bind fun key =>
        match skipSpace key.2 with
        | ':' :: rest => some (String.ofList key.1, skipSpace rest)
        | _ => none
  | _ => none

mutual

/-- One value. -/
def scanValue : Nat → List Char → Option (Json × List Char)
  | 0, _ => none
  | _, [] => none
  | fuel + 1, char :: rest =>
      if char = '"' then
        (scanString fuel rest).map fun scanned =>
          (.str (String.ofList scanned.1), scanned.2)
      else if char = '[' then
        if (skipSpace rest).head? = some ']' then
          some (.arr [], (skipSpace rest).tail)
        else
          (scanItems fuel (skipSpace rest)).map fun scanned =>
            (.arr scanned.1, scanned.2)
      else if char = '{' then
        if (skipSpace rest).head? = some '}' then
          some (.obj [], (skipSpace rest).tail)
        else
          (scanMembers fuel (skipSpace rest)).map fun scanned =>
            (.obj (dictOf scanned.1), scanned.2)
      else if char = 'n' then scanLiteral ['u', 'l', 'l'] .null rest
      else if char = 't' then scanLiteral ['r', 'u', 'e'] (.bool true) rest
      else if char = 'f' then
        scanLiteral ['a', 'l', 's', 'e'] (.bool false) rest
      else scanNumber (char :: rest)

/-- The items of a list up to its closing bracket. -/
def scanItems : Nat → List Char → Option (List Json × List Char)
  | 0, _ => none
  | fuel + 1, text =>
      (scanValue fuel text).bind fun item =>
        match skipSpace item.2 with
        | ']' :: rest => some ([item.1], rest)
        | ',' :: rest =>
            (scanItems fuel (skipSpace rest)).map fun scanned =>
              (item.1 :: scanned.1, scanned.2)
        | _ => none

/-- The members of a dictionary up to its closing brace. -/
def scanMembers : Nat → List Char → Option (List (String × Json) × List Char)
  | 0, _ => none
  | fuel + 1, text =>
      (scanKey fuel text).bind fun key =>
        (scanValue fuel key.2).bind fun value =>
          match skipSpace value.2 with
          | '}' :: rest => some ([(key.1, value.1)], rest)
          | ',' :: rest =>
              (scanMembers fuel (skipSpace rest)).map fun scanned =>
                ((key.1, value.1) :: scanned.1, scanned.2)
          | _ => none

end

/-- `json.loads`: one value and nothing but whitespace around it. -/
def loads (text : List Char) : Option Json :=
  (scanValue (text.length + 1) (skipSpace text)).bind fun scanned =>
    if skipSpace scanned.2 = [] then some scanned.1 else none

end Foundation.Json
