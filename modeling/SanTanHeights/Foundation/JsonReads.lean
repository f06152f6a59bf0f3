import Mathlib.Data.List.TakeWhile
import SanTanHeights.Foundation.JsonText

/-!
# Reading written JSON

`Reads text value` says that the scanner takes exactly `text` off any input
that continues with a delimiter, with the given outcome.  It is proved for
literals, strings and numbers, and lifted to lists and dictionaries of texts.
-/

namespace Foundation.Json

open Hex

/-! ## Strings -/

theorem hexValue_digitChar {number : Nat} (small : number < 16) :
    hexValue number.digitChar = some number := by
  have all : ∀ number < 16, hexValue number.digitChar = some number := by
    decide
  exact all number small

/-- The scanner undoes the escape of a control character. -/
theorem scanUnicode_control {char : Char} (rest : List Char) (control : char.toNat < 32) :
    scanUnicode ('0' :: '0' :: (char.toNat / 16).digitChar ::
      (char.toNat % 16).digitChar :: rest) = some (char, rest) := by
  have zero : hexValue '0' = some 0 := by decide
  have high := hexValue_digitChar (by omega : char.toNat / 16 < 16)
  have low := hexValue_digitChar (by omega : char.toNat % 16 < 16)
  have code : ((0 * 16 + 0) * 16 + char.toNat / 16) * 16 + char.toNat % 16 = char.toNat := by omega
  simp only [scanUnicode, scanHex4, zero, high, low, Option.bind_some, code]
  rw [if_neg (by omega), if_neg (by omega), Char.ofNat_toNat]

/-- Scanning one written character. -/
theorem scanString_escapeChar (fuel : Nat) (char : Char) (rest : List Char) :
    scanString (fuel + 1) (escapeChar char ++ rest) =
      (scanString fuel rest).map fun scanned =>
        (char :: scanned.1, scanned.2) := by
  have eight : char.toNat = 8 → char = Char.ofNat 8 := by
    intro equal
    rw [← equal, Char.ofNat_toNat]
  have twelve : char.toNat = 12 → char = Char.ofNat 12 := by
    intro equal
    rw [← equal, Char.ofNat_toNat]
  unfold escapeChar
  split_ifs with quoteMark backslash newline carriage tab backspace feed control
  · simp [scanString, scanEscape, simpleEscape, quoteMark]
  · simp [scanString, scanEscape, simpleEscape, backslash]
  · simp [scanString, scanEscape, simpleEscape, newline]
  · simp [scanString, scanEscape, simpleEscape, carriage]
  · simp [scanString, scanEscape, simpleEscape, tab]
  · simp [scanString, scanEscape, simpleEscape, eight backspace]
  · simp [scanString, scanEscape, simpleEscape, twelve feed]
  · simp [scanString, scanEscape, scanUnicode_control rest control]
  · simp [scanString, quoteMark, backslash, control]

theorem scanString_flatMap_escapeChar {fuel : Nat} {text : List Char} (rest : List Char)
    (enough : text.length < fuel) :
    scanString fuel (text.flatMap escapeChar ++ '"' :: rest) = some (text, rest) := by
  induction text generalizing fuel with
  | nil =>
      obtain ⟨fuel, rfl⟩ := Nat.exists_eq_succ_of_ne_zero (by omega : fuel ≠ 0)
      simp [scanString]
  | cons char text ih =>
      obtain ⟨fuel, rfl⟩ := Nat.exists_eq_succ_of_ne_zero (by omega : fuel ≠ 0)
      rw [List.flatMap_cons, List.append_assoc, scanString_escapeChar, ih (by simpa using enough)]
      rfl

theorem length_le_length_flatMap_escapeChar (text : List Char) :
    text.length ≤ (text.flatMap escapeChar).length := by
  induction text with
  | nil => simp
  | cons char text ih =>
      have nonempty : 0 < (escapeChar char).length := by
        unfold escapeChar
        split_ifs <;> simp
      simp only [List.flatMap_cons, List.length_cons, List.length_append]
      omega

theorem length_quote (text : List Char) :
    (quote text).length = (text.flatMap escapeChar).length + 2 := by
  simp [quote]

/-! ## Numbers -/

/-- A character that could continue a number. -/
def continuesNumber (char : Char) : Bool :=
  char.isDigit || char == '.' || char == 'e' || char == 'E'

/-- The text cannot be read on as part of a number before it. -/
def Delimited (text : List Char) : Prop :=
  ∀ char ∈ text.head?, continuesNumber char = false

@[simp] theorem delimited_nil : Delimited [] := by
  intro char absent
  cases absent

@[simp] theorem delimited_cons (char : Char) (text : List Char) :
    Delimited (char :: text) ↔ continuesNumber char = false := by
  simp [Delimited]

/-- Digits that may stand before a decimal point. -/
def IsWhole (digits : List Char) : Prop :=
  digits = ['0'] ∨ ∃ char rest, digits = char :: rest ∧ char ≠ '0' ∧
      ∀ digit ∈ digits, digit.isDigit = true

/-- Positional notation of a number. -/
def positional (negative : Bool) (whole fraction : List Char) : List Char :=
  (if negative then ['-'] else []) ++ whole ++
    (if fraction = [] then [] else '.' :: fraction)

/-- The value of positional notation: an `int` unless there is a fraction. -/
def positionalValue (negative : Bool) (whole fraction : List Char) : Option Json :=
  if fraction = [] then
    if whole.length ≤ maxStrDigits then
      some (.int (signed negative (Nat.ofDigitChars 10 whole 0)))
    else none
  else
    some (.dec
      { negative := negative
        coefficient := Nat.ofDigitChars 10 (whole ++ fraction) 0
        exponent := -fraction.length })

theorem Delimited.isDigit_eq_false {text : List Char} (delimited : Delimited text) :
    ∀ char ∈ text.head?, char.isDigit = false := by
  intro char first
  have ends := delimited char first
  simp only [continuesNumber, Bool.or_eq_false_iff] at ends
  exact ends.1.1.1

theorem takeDigits_append {digits rest : List Char}
    (allDigits : ∀ digit ∈ digits, digit.isDigit = true)
    (stops : ∀ char ∈ rest.head?, char.isDigit = false) :
    takeDigits (digits ++ rest) = digits ∧ dropDigits (digits ++ rest) = rest := by
  unfold takeDigits dropDigits
  rw [List.takeWhile_append_of_pos allDigits, List.dropWhile_append_of_pos allDigits]
  cases rest with
  | nil => simp
  | cons char rest =>
      have := stops char rfl
      simp [this]

theorem scanWhole_append {whole rest : List Char} (isWhole : IsWhole whole)
    (stops : ∀ char ∈ rest.head?, char.isDigit = false) :
    scanWhole (whole ++ rest) = some (whole, rest) := by
  rcases isWhole with rfl | ⟨char, digits, rfl, nonzero, allDigits⟩
  · rfl
  · have isDigit := allDigits char List.mem_cons_self
    have tailDigits : ∀ digit ∈ digits, digit.isDigit = true :=
      fun digit present => allDigits digit (List.mem_cons_of_mem _ present)
    simp [scanWhole, nonzero, isDigit, takeDigits_append tailDigits stops]

theorem scanFraction_of_delimited {rest : List Char} (delimited : Delimited rest) :
    scanFraction rest = ([], rest) := by
  cases rest with
  | nil => rfl
  | cons char rest =>
      unfold scanFraction
      split
      · rename_i equal
        injection equal with first
        simp [first, continuesNumber] at delimited
      · rfl

theorem scanExponent_of_delimited {rest : List Char} (delimited : Delimited rest) :
    scanExponent rest = (none, rest) := by
  cases rest with
  | nil => rfl
  | cons char rest =>
      simp only [delimited_cons, continuesNumber, Bool.or_eq_false_iff,
        beq_eq_false_iff_ne] at delimited
      simp [scanExponent, delimited.1.2, delimited.2]

theorem scanMinus_positional {negative : Bool} {whole : List Char} (rest : List Char)
    (isWhole : IsWhole whole) :
    scanMinus ((if negative then ['-'] else []) ++ whole ++ rest) =
      (negative, whole ++ rest) := by
  cases negative with
  | true => rfl
  | false =>
      rcases isWhole with rfl | ⟨char, digits, rfl, nonzero, allDigits⟩
      · rfl
      · have isDigit := allDigits char List.mem_cons_self
        have notMinus : char ≠ '-' := by
          rintro rfl
          simp at isDigit
        simp [scanMinus, notMinus]

/-- The scanner reads positional notation back. -/
theorem scanNumber_positional {negative : Bool} {whole fraction rest : List Char}
    (isWhole : IsWhole whole) (allDigits : ∀ digit ∈ fraction, digit.isDigit = true)
    (delimited : Delimited rest) :
    scanNumber (positional negative whole fraction ++ rest) =
      (positionalValue negative whole fraction).map fun value =>
        (value, rest) := by
  unfold scanNumber positional
  rw [List.append_assoc, scanMinus_positional _ isWhole]
  by_cases noFraction : fraction = []
  · simp only [noFraction, if_true, List.nil_append]
    rw [scanWhole_append isWhole delimited.isDigit_eq_false]
    simp only [Option.bind_some, scanFraction_of_delimited delimited,
      scanExponent_of_delimited delimited, and_self, if_true, positionalValue]
    split_ifs <;> rfl
  · have digits := takeDigits_append allDigits delimited.isDigit_eq_false
    simp only [noFraction, if_false, List.cons_append]
    rw [scanWhole_append isWhole (by simp)]
    have scanned : scanFraction ('.' :: (fraction ++ rest)) =
        (fraction, rest) := by
      simp [scanFraction, digits, noFraction]
    simp [scanned, scanExponent_of_delimited delimited, noFraction, positionalValue]

/-! ## Values -/

/-- The scanner takes exactly `text` and gives `value`. -/
structure Reads (text : List Char) (value : Option Json) : Prop where
  /-- The first character is neither whitespace nor a closing bracket. -/
  opens : ∃ char rest, text = char :: rest ∧ isSpace char = false ∧ char ≠ ']'
  /-- Whatever delimiter comes next, it is left in place. -/
  scans : ∀ fuel rest, text.length < fuel → Delimited rest →
    scanValue fuel (text ++ rest) = value.map fun value => (value, rest)

theorem Reads.skipSpace_append {text : List Char} {value : Option Json}
    (reads : Reads text value) (rest : List Char) :
    skipSpace (text ++ rest) = text ++ rest := by
  obtain ⟨char, tail, rfl, notSpace, _⟩ := reads.opens
  simp [skipSpace, notSpace]

theorem reads_null : Reads ['n', 'u', 'l', 'l'] (some .null) where
  opens := ⟨_, _, rfl, rfl, by decide⟩
  scans fuel rest enough _ := by
    obtain ⟨fuel, rfl⟩ := Nat.exists_eq_succ_of_ne_zero (by omega : fuel ≠ 0)
    simp [scanValue, scanLiteral]

theorem reads_true : Reads ['t', 'r', 'u', 'e'] (some (.bool true)) where
  opens := ⟨_, _, rfl, rfl, by decide⟩
  scans fuel rest enough _ := by
    obtain ⟨fuel, rfl⟩ := Nat.exists_eq_succ_of_ne_zero (by omega : fuel ≠ 0)
    simp [scanValue, scanLiteral]

theorem reads_false : Reads ['f', 'a', 'l', 's', 'e'] (some (.bool false)) where
  opens := ⟨_, _, rfl, rfl, by decide⟩
  scans fuel rest enough _ := by
    obtain ⟨fuel, rfl⟩ := Nat.exists_eq_succ_of_ne_zero (by omega : fuel ≠ 0)
    simp [scanValue, scanLiteral]

/-- A written string reads back. -/
theorem reads_quote (text : String) : Reads (quote text.toList) (some (.str text)) where
  opens := ⟨_, _, rfl, rfl, by decide⟩
  scans fuel rest enough _ := by
    obtain ⟨fuel, rfl⟩ := Nat.exists_eq_succ_of_ne_zero (by omega : fuel ≠ 0)
    have short : text.toList.length < fuel := by
      have := length_le_length_flatMap_escapeChar text.toList
      rw [length_quote] at enough
      omega
    simp [quote, scanValue, scanString_flatMap_escapeChar rest short]

/-- A number in positional notation reads back. -/
theorem reads_positional {negative : Bool} {whole fraction : List Char}
    (isWhole : IsWhole whole) (allDigits : ∀ digit ∈ fraction, digit.isDigit = true) :
    Reads (positional negative whole fraction) (positionalValue negative whole fraction) := by
  have first : ∃ char rest, positional negative whole fraction = char :: rest ∧
      (char = '-' ∨ char.isDigit = true) := by
    cases negative with
    | true => exact ⟨'-', _, rfl, .inl rfl⟩
    | false =>
        rcases isWhole with rfl | ⟨char, digits, rfl, _, wholeDigits⟩
        · exact ⟨'0', _, rfl, .inr rfl⟩
        · exact ⟨char, _, rfl, .inr (wholeDigits char List.mem_cons_self)⟩
  obtain ⟨char, tail, equal, starts⟩ := first
  have distinct : char ≠ '"' ∧ char ≠ '[' ∧ char ≠ '{' ∧ char ≠ 'n' ∧
      char ≠ 't' ∧ char ≠ 'f' ∧ char ≠ ']' ∧ isSpace char = false := by
    rcases starts with rfl | isDigit
    · decide
    · refine ⟨?_, ?_, ?_, ?_, ?_, ?_, ?_, ?_⟩
      case refine_8 =>
        simp only [isSpace, Bool.or_eq_false_iff, beq_eq_false_iff_ne]
        refine ⟨⟨⟨?_, ?_⟩, ?_⟩, ?_⟩ <;> rintro rfl <;> simp at isDigit
      all_goals rintro rfl; simp at isDigit
  refine ⟨⟨char, tail, equal, distinct.2.2.2.2.2.2.2, distinct.2.2.2.2.2.2.1⟩, ?_⟩
  intro fuel rest enough delimited
  obtain ⟨fuel, rfl⟩ := Nat.exists_eq_succ_of_ne_zero (by omega : fuel ≠ 0)
  rw [← scanNumber_positional isWhole allDigits delimited, equal]
  simp [scanValue, distinct]

/-! ## Lists and dictionaries -/

variable {α : Type*}

/-- A joined text starts like its first part. -/
theorem skipSpace_joinComma {text : α → List Char} {value : α → Option Json}
    {item : α} (items : List α) (rest : List Char) (reads : Reads (text item) (value item)) :
    skipSpace (joinComma ((item :: items).map text) ++ rest) =
      joinComma ((item :: items).map text) ++ rest := by
  cases items with
  | nil => exact reads.skipSpace_append rest
  | cons next items =>
      simp only [List.map_cons, joinComma, List.append_assoc]
      exact reads.skipSpace_append _

/-- Scanning the written items of a list, with its closing bracket. -/
theorem scanItems_joinComma {text : α → List Char} {value : α → Option Json}
    (items : List α) (nonempty : items ≠ [])
    (reads : ∀ item ∈ items, Reads (text item) (value item)) (fuel : Nat) (rest : List Char)
    (enough : (joinComma (items.map text)).length + 1 < fuel) :
    scanItems fuel (joinComma (items.map text) ++ ']' :: rest) =
      (items.mapM value).map fun values => (values, rest) := by
  induction items generalizing fuel with
  | nil => exact absurd rfl nonempty
  | cons item items ih =>
      obtain ⟨fuel, rfl⟩ := Nat.exists_eq_succ_of_ne_zero (by omega : fuel ≠ 0)
      have head := reads item List.mem_cons_self
      cases items with
      | nil =>
          simp only [List.map_cons, List.map_nil, joinComma] at enough ⊢
          have scanned := head.scans fuel (']' :: rest) (by omega) (by simp; rfl)
          simp only [scanItems, scanned, List.mapM_cons, List.mapM_nil]
          cases value item with
          | none => rfl
          | some found => rfl
      | cons next items =>
          have tailReads : ∀ other ∈ next :: items,
              Reads (text other) (value other) :=
            fun other present => reads other (List.mem_cons_of_mem _ present)
          have length : (joinComma ((item :: next :: items).map text)).length =
              (text item).length + (joinComma ((next :: items).map text)).length + 1 := by
            simp [joinComma]
            omega
          have scanned := head.scans fuel
            (',' :: (joinComma ((next :: items).map text) ++ ']' :: rest))
            (by omega) (by simp; rfl)
          have tail := ih (by simp) tailReads fuel (by omega)
          have split : joinComma ((item :: next :: items).map text) ++
              ']' :: rest = text item ++
                ',' :: (joinComma ((next :: items).map text) ++ ']' :: rest) := by
            simp [joinComma]
          have comma : skipSpace
              (',' :: (joinComma ((next :: items).map text) ++ ']' :: rest)) =
                ',' :: (joinComma ((next :: items).map text) ++ ']' :: rest) := rfl
          rw [split, scanItems, scanned, List.mapM_cons]
          cases value item with
          | none => rfl
          | some found =>
              simp only [Option.map_some, Option.bind_some, comma,
                skipSpace_joinComma items _ (tailReads next List.mem_cons_self), tail]
              cases (next :: items).mapM value with
              | none => rfl
              | some values => rfl

/-- A list of written values reads back item by item. -/
theorem reads_arr {text : α → List Char} {value : α → Option Json} (items : List α)
    (reads : ∀ item ∈ items, Reads (text item) (value item)) :
    Reads ('[' :: (joinComma (items.map text) ++ [']'])) ((items.mapM value).map .arr) where
  opens := ⟨_, _, rfl, rfl, by decide⟩
  scans fuel rest enough _ := by
    obtain ⟨fuel, rfl⟩ := Nat.exists_eq_succ_of_ne_zero (by omega : fuel ≠ 0)
    cases items with
    | nil => rfl
    | cons item items =>
        have first := reads item List.mem_cons_self
        have inside := scanItems_joinComma (item :: items) (by simp) reads fuel
          rest (by
            simp only [List.length_cons, List.length_append] at enough
            simpa using enough)
        have kept := skipSpace_joinComma items (']' :: rest) first
        have notClosing : (joinComma ((item :: items).map text) ++
            ']' :: rest).head? ≠ some ']' := by
          obtain ⟨char, tail, equal, _, differs⟩ := first.opens
          cases items <;> simp [joinComma, equal, differs]
        simp only [List.cons_append, List.append_assoc, List.nil_append,
          scanValue, kept, notClosing, if_false, inside]
        cases (item :: items).mapM value with
        | none => rfl
        | some values => rfl

/-- A written member of a dictionary. -/
def memberText (text : α → List Char) (member : String × α) : List Char :=
  quote member.1.toList ++ ':' :: text member.2

/-- Scanning a written key and its colon. -/
theorem scanKey_quote (fuel : Nat) (key : String) (rest : List Char)
    (enough : (quote key.toList).length ≤ fuel) :
    scanKey fuel (quote key.toList ++ ':' :: rest) = some (key, skipSpace rest) := by
  have short : key.toList.length < fuel := by
    have := length_le_length_flatMap_escapeChar key.toList
    rw [length_quote] at enough
    omega
  have colon : skipSpace (':' :: rest) = ':' :: rest := rfl
  simp [quote, scanKey, scanString_flatMap_escapeChar (':' :: rest) short, colon]

/-- The value of a written member. -/
def memberValue (value : α → Option Json) (member : String × α) : Option (String × Json) :=
  (value member.2).map fun found => (member.1, found)

theorem skipSpace_memberText {text : α → List Char} (member : String × α) (rest : List Char) :
    skipSpace (memberText text member ++ rest) = memberText text member ++ rest := rfl

theorem skipSpace_joinComma_members {text : α → List Char} {member : String × α}
    (members : List (String × α)) (rest : List Char) :
    skipSpace (joinComma ((member :: members).map (memberText text)) ++ rest) =
      joinComma ((member :: members).map (memberText text)) ++ rest := by
  cases members with
  | nil => exact skipSpace_memberText member rest
  | cons next members =>
      simp only [List.map_cons, joinComma, List.append_assoc]
      exact skipSpace_memberText member _

/-- Scanning the written members of a dictionary, with its closing brace. -/
theorem scanMembers_joinComma {text : α → List Char} {value : α → Option Json}
    (members : List (String × α)) (nonempty : members ≠ [])
    (reads : ∀ member ∈ members, Reads (text member.2) (value member.2))
    (fuel : Nat) (rest : List Char)
    (enough : (joinComma (members.map (memberText text))).length + 1 < fuel) :
    scanMembers fuel (joinComma (members.map (memberText text)) ++ '}' :: rest) =
      (members.mapM (memberValue value)).map fun values => (values, rest) := by
  induction members generalizing fuel with
  | nil => exact absurd rfl nonempty
  | cons member members ih =>
      obtain ⟨fuel, rfl⟩ := Nat.exists_eq_succ_of_ne_zero (by omega : fuel ≠ 0)
      have head := reads member List.mem_cons_self
      cases members with
      | nil =>
          simp only [List.map_cons, List.map_nil, joinComma, memberText,
            List.length_append, List.length_cons] at enough ⊢
          have scanned := head.scans fuel ('}' :: rest) (by omega) (by simp; rfl)
          rw [List.append_assoc, List.cons_append, scanMembers, scanKey_quote _ _ _ (by omega)]
          simp only [Option.bind_some, head.skipSpace_append, scanned,
            List.mapM_cons, List.mapM_nil, memberValue]
          cases value member.2 with
          | none => rfl
          | some found => rfl
      | cons next members =>
          have tailReads : ∀ other ∈ next :: members,
              Reads (text other.2) (value other.2) :=
            fun other present => reads other (List.mem_cons_of_mem _ present)
          have length : (joinComma ((member :: next :: members).map (memberText text))).length =
              (quote member.1.toList).length + (text member.2).length +
                (joinComma ((next :: members).map (memberText text))).length +
                2 := by
            simp [joinComma, memberText]
            omega
          have scanned := head.scans fuel
            (',' :: (joinComma ((next :: members).map (memberText text)) ++
              '}' :: rest)) (by omega) (by simp; rfl)
          have tail := ih (by simp) tailReads fuel (by omega)
          have split : joinComma
              ((member :: next :: members).map (memberText text)) ++
              '}' :: rest = quote member.1.toList ++ ':' :: (text member.2 ++
                ',' :: (joinComma ((next :: members).map (memberText text)) ++ '}' :: rest)) := by
            simp [joinComma, memberText]
          have comma : skipSpace
              (',' :: (joinComma ((next :: members).map (memberText text)) ++ '}' :: rest)) =
              ',' :: (joinComma ((next :: members).map (memberText text)) ++ '}' :: rest) := rfl
          rw [split, scanMembers, scanKey_quote _ _ _ (by omega), List.mapM_cons]
          simp only [Option.bind_some, head.skipSpace_append, scanned, memberValue]
          cases value member.2 with
          | none => rfl
          | some found =>
              simp only [Option.map_some, Option.bind_some, comma,
                skipSpace_joinComma_members members, tail]
              cases (next :: members).mapM (memberValue value) with
              | none => rfl
              | some values => rfl

/-- A dictionary of written values reads back member by member. -/
theorem reads_obj {text : α → List Char} {value : α → Option Json} (members : List (String × α))
    (reads : ∀ member ∈ members, Reads (text member.2) (value member.2)) :
    Reads ('{' :: (joinComma (members.map (memberText text)) ++ ['}']))
      ((members.mapM (memberValue value)).map fun values =>
        .obj (dictOf values)) where
  opens := ⟨_, _, rfl, rfl, by decide⟩
  scans fuel rest enough _ := by
    obtain ⟨fuel, rfl⟩ := Nat.exists_eq_succ_of_ne_zero (by omega : fuel ≠ 0)
    cases members with
    | nil => rfl
    | cons member members =>
        have inside := scanMembers_joinComma (member :: members) (by simp)
          reads fuel rest (by
            simp only [List.length_cons, List.length_append] at enough
            simpa using enough)
        have kept := @skipSpace_joinComma_members _ text member members ('}' :: rest)
        have notClosing : (joinComma ((member :: members).map
            (memberText text)) ++ '}' :: rest).head? ≠ some '}' := by
          cases members <;> simp [joinComma, memberText, quote]
        simp only [List.cons_append, List.append_assoc, List.nil_append,
          scanValue, kept, notClosing, if_false, inside]
        cases (member :: members).mapM (memberValue value) with
        | none => rfl
        | some values => rfl

/-! ## Whole texts -/

/-- A text that reads as a value loads as that value. -/
theorem loads_of_reads {text : List Char} {value : Option Json} (reads : Reads text value) :
    loads text = value := by
  have kept := reads.skipSpace_append []
  have scanned := reads.scans (text.length + 1) [] (by omega) delimited_nil
  simp only [List.append_nil] at kept scanned
  unfold loads
  rw [kept, scanned]
  cases value with
  | none => rfl
  | some found => rfl

/-- Pairs with different keys make up a dictionary as they are. -/
theorem dictOf_eq_self {pairs : List (String × Json)} (distinct : (pairs.map Prod.fst).Nodup) :
    dictOf pairs = pairs := by
  have append : ∀ {key : String} {value : Json}
      {members : List (String × Json)}, key ∉ members.map Prod.fst →
      setItem key value members = members ++ [(key, value)] := by
    intro key value members absent
    induction members with
    | nil => rfl
    | cons member members ih =>
        simp only [List.map_cons, List.mem_cons, not_or] at absent
        simp [setItem, Ne.symm absent.1, ih absent.2]
  have run : ∀ members : List (String × Json),
      ((members ++ pairs).map Prod.fst).Nodup →
      pairs.foldl (fun members pair => setItem pair.1 pair.2 members) members =
        members ++ pairs := by
    induction pairs with
    | nil => simp
    | cons pair pairs ih =>
        intro members nodup
        have fresh : pair.1 ∉ members.map Prod.fst := by
          rw [List.map_append, List.nodup_append] at nodup
          intro present
          exact nodup.2.2 _ present _ (by simp) rfl
        simp only [List.foldl_cons, append fresh]
        rw [ih (List.Nodup.of_cons distinct)]
        · simp
        · simpa using nodup
  exact run [] distinct

end Foundation.Json
