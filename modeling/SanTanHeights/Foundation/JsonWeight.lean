import Mathlib.Algebra.Order.BigOperators.Group.List
import Mathlib.Algebra.BigOperators.Group.List.Basic
import SanTanHeights.Foundation.JsonReads

/-!
# The least weight of a text for a value

Characters that occur in numbers, together with commas and colons, are light;
all others weigh one.  Every text that loads as a value weighs at least the
value's `cost`, so a text lighter than a value cannot load as that value.
-/

namespace Foundation.Json

open Hex

/-! ## Weight -/

/-- Characters that weigh nothing. -/
def isLight (char : Char) : Bool :=
  (hexValue char).isSome || char == '.' || char == '+' || char == '-' || char == ',' || char == ':'

/-- Number of characters of a text that are not light. -/
def weight (text : List Char) : Nat :=
  text.countP fun char => !isLight char

@[simp] theorem weight_nil : weight [] = 0 := rfl

theorem weight_cons (char : Char) (text : List Char) :
    weight (char :: text) = weight [char] + weight text := by
  rw [weight, ← List.singleton_append, List.countP_append]
  rfl

@[simp] theorem weight_append (left right : List Char) :
    weight (left ++ right) = weight left + weight right :=
  List.countP_append

theorem weight_singleton_le (char : Char) : weight [char] ≤ 1 := List.countP_le_length

variable {text rest : List Char} {char : Char} {fuel : Nat} {value : Json}

theorem weight_le_of_suffix {part : List Char} (suffix : part <:+ text) :
    weight part ≤ weight text :=
  suffix.sublist.countP_le

theorem weight_skipSpace_le (text : List Char) : weight (skipSpace text) ≤ weight text :=
  weight_le_of_suffix (List.dropWhile_suffix _)

theorem weight_joinComma (texts : List (List Char)) :
    weight (joinComma texts) = (texts.map weight).sum := by
  have comma : weight [','] = 0 := by decide
  induction texts with
  | nil => rfl
  | cons text texts ih =>
      cases texts with
      | nil => simp [joinComma]
      | cons next texts =>
          change weight (text ++ ',' :: joinComma (next :: texts)) = _
          rw [weight_append, weight_cons, comma, ih]
          simp

/-! ## Strings -/

theorem weight_escapeChar_le (char : Char) : weight (escapeChar char) ≤ 2 := by
  have control : ∀ number < 32,
      weight ['\\', 'u', '0', '0', (number / 16).digitChar, (number % 16).digitChar] ≤ 2 := by
    decide
  unfold escapeChar
  split_ifs with quoteMark backslash newline carriage tab backspace feed low
  case pos => decide
  case pos => decide
  case pos => decide
  case pos => decide
  case pos => decide
  case pos => decide
  case pos => decide
  case pos => exact control _ low
  case neg => exact (weight_singleton_le char).trans (by decide)

/-- An escape is never lighter than the character it stands for. -/
theorem weight_singleton_le_escapeChar (char : Char) :
    weight [char] ≤ weight (escapeChar char) := by
  unfold escapeChar
  split_ifs with quoteMark backslash newline carriage tab backspace feed low
  case neg => exact le_rfl
  all_goals
    refine (weight_singleton_le char).trans ?_
    rw [weight_cons]
    exact Nat.le_add_right _ _

theorem weight_le_flatMap_escapeChar (text : List Char) :
    weight text ≤ weight (text.flatMap escapeChar) := by
  induction text with
  | nil => exact le_rfl
  | cons char text ih =>
      rw [weight_cons, List.flatMap_cons, weight_append]
      exact Nat.add_le_add (weight_singleton_le_escapeChar char) ih

theorem weight_quote (text : List Char) :
    weight (quote text) = weight (text.flatMap escapeChar) + 2 := by
  have mark : weight ['"'] = 1 := by decide
  rw [quote, weight_cons, weight_append, mark]
  omega

theorem weight_of_hexValue {number : Nat} (digit : hexValue char = some number) :
    weight [char] = 0 := by
  simp [weight, isLight, digit]

theorem weight_of_scanHex4 {code : Nat} (scanned : scanHex4 text = some (code, rest)) :
    weight text = weight rest := by
  unfold scanHex4 at scanned
  split at scanned
  · rename_i first second third fourth tail
    simp only [Option.bind_eq_some_iff] at scanned
    obtain ⟨a, aDigit, b, bDigit, c, cDigit, d, dDigit, result⟩ := scanned
    injection result with pair
    injection pair with _ tailEqual
    rw [weight_cons, weight_cons second, weight_cons third, weight_cons fourth,
      weight_of_hexValue aDigit, weight_of_hexValue bDigit,
      weight_of_hexValue cDigit, weight_of_hexValue dDigit, tailEqual]
    omega
  · cases scanned

theorem weight_of_scanUnicode (scanned : scanUnicode text = some (char, rest)) :
    weight rest ≤ weight text := by
  unfold scanUnicode at scanned
  obtain ⟨⟨code, tail⟩, hex, continued⟩ := Option.bind_eq_some_iff.mp scanned
  have tailWeight := weight_of_scanHex4 hex
  simp only at continued
  split_ifs at continued
  · obtain ⟨⟨low, after⟩, second, result⟩ := Option.map_eq_some_iff.mp continued
    injection result with _ afterEqual
    unfold scanLowSurrogate at second
    split at second
    · rename_i more
      obtain ⟨⟨code', more'⟩, hex', guarded⟩ := Option.bind_eq_some_iff.mp second
      simp only at guarded
      split_ifs at guarded
      injection guarded with pair
      injection pair with _ moreEqual
      have moreWeight := weight_of_scanHex4 hex'
      rw [weight_cons, weight_cons 'u'] at tailWeight
      simp only at afterEqual
      rw [← afterEqual, ← moreEqual]
      omega
    · cases second
  · injection continued with pair
    injection pair with _ tailEqual
    rw [← tailEqual]
    omega

theorem weight_of_scanEscape (scanned : scanEscape text = some (char, rest)) :
    weight (escapeChar char) + weight rest ≤ 1 + weight text := by
  cases text with
  | nil => cases scanned
  | cons mark text =>
      simp only [scanEscape] at scanned
      split_ifs at scanned with unicode
      · have restWeight := weight_of_scanUnicode scanned
        have bounded := weight_escapeChar_le char
        have letter : weight [mark] = 1 := by
          rw [unicode]
          decide
        rw [weight_cons]
        omega
      · obtain ⟨meant, escape, result⟩ := Option.map_eq_some_iff.mp scanned
        injection result with meantEqual restEqual
        subst meantEqual restEqual
        rw [weight_cons mark]
        have single : weight (escapeChar meant) ≤ 1 + weight [mark] := by
          unfold simpleEscape at escape
          split_ifs at escape with plain n r t b f
          all_goals
            obtain rfl := Option.some.inj escape
          · rcases plain with rfl | rfl | rfl <;> decide
          · subst n; decide
          · subst r; decide
          · subst t; decide
          · subst b; decide
          · subst f; decide
        omega

/-- A string literal weighs at least as much as the written form of the text
it stands for. -/
theorem weight_of_scanString {scannedText : List Char}
    (scanned : scanString fuel text = some (scannedText, rest)) :
    weight (scannedText.flatMap escapeChar) + 1 + weight rest ≤ weight text := by
  induction fuel generalizing text scannedText with
  | zero => cases scanned
  | succ fuel ih =>
      cases text with
      | nil => cases scanned
      | cons char text =>
          unfold scanString at scanned
          split_ifs at scanned with closing backslash control
          · injection scanned with pair
            injection pair with empty restEqual
            subst empty restEqual closing
            rw [weight_cons]
            have mark : weight ['"'] = 1 := by decide
            simp [mark]
          · obtain ⟨⟨meant, after⟩, escaped, continued⟩ := Option.bind_eq_some_iff.mp scanned
            obtain ⟨⟨tail, final⟩, later, result⟩ := Option.map_eq_some_iff.mp continued
            injection result with textEqual restEqual
            simp only at textEqual restEqual later
            subst textEqual restEqual backslash
            have laterWeight := ih later
            have escapeWeight := weight_of_scanEscape escaped
            have mark : weight ['\\'] = 1 := by decide
            rw [weight_cons, mark, List.flatMap_cons, weight_append]
            omega
          · obtain ⟨⟨tail, final⟩, later, result⟩ := Option.map_eq_some_iff.mp scanned
            injection result with textEqual restEqual
            simp only at textEqual restEqual
            subst textEqual restEqual
            have laterWeight := ih later
            have plain : escapeChar char = [char] := by
              unfold escapeChar
              rw [if_neg closing, if_neg backslash, if_neg, if_neg, if_neg,
                if_neg, if_neg, if_neg control]
              · omega
              · omega
              all_goals
                rintro rfl
                exact control (by decide)
            rw [weight_cons, List.flatMap_cons, weight_append, plain]
            omega

/-! ## Numbers -/

theorem weight_eq_zero_of_isDigit (allDigits : ∀ digit ∈ text, digit.isDigit = true) :
    weight text = 0 := by
  refine List.countP_eq_zero.mpr ?_
  intro char present
  have isDigit := allDigits char present
  simp only [Char.isDigit, Bool.and_eq_true, decide_eq_true_eq] at isDigit
  have bounds : 48 ≤ char.toNat ∧ char.toNat ≤ 57 := isDigit
  simp [isLight, hexValue, bounds]

/-- Positional notation weighs nothing. -/
theorem weight_positional {negative : Bool} {whole fraction : List Char}
    (wholeDigits : ∀ digit ∈ whole, digit.isDigit = true)
    (fractionDigits : ∀ digit ∈ fraction, digit.isDigit = true) :
    weight (positional negative whole fraction) = 0 := by
  have minus : weight ['-'] = 0 := by decide
  have point : weight ['.'] = 0 := by decide
  rw [positional, weight_append, weight_append, weight_eq_zero_of_isDigit wholeDigits]
  split_ifs
  · simp [minus]
  · rw [weight_cons '.', point, weight_eq_zero_of_isDigit fractionDigits, minus]
  · simp
  · rw [weight_cons '.', point, weight_eq_zero_of_isDigit fractionDigits]
    rfl

theorem scanMinus_suffix (text : List Char) : (scanMinus text).2 <:+ text := by
  unfold scanMinus
  split
  · exact List.suffix_cons _ _
  · exact List.suffix_refl _

theorem scanSign_suffix (text : List Char) : (scanSign text).2 <:+ text := by
  unfold scanSign
  split
  · exact List.suffix_cons _ _
  · exact List.suffix_cons _ _
  · exact List.suffix_refl _

theorem scanWhole_suffix {whole : List Char} (scanned : scanWhole text = some (whole, rest)) :
    rest <:+ text := by
  cases text with
  | nil => cases scanned
  | cons char text =>
      simp only [scanWhole] at scanned
      split_ifs at scanned
      · cases scanned
        exact List.suffix_cons _ _
      · cases scanned
        exact (List.dropWhile_suffix _).trans (List.suffix_cons _ _)

theorem scanFraction_suffix (text : List Char) : (scanFraction text).2 <:+ text := by
  unfold scanFraction
  split
  · split_ifs
    · exact List.suffix_refl _
    · exact (List.dropWhile_suffix _).trans (List.suffix_cons _ _)
  · exact List.suffix_refl _

theorem scanExponent_suffix (text : List Char) : (scanExponent text).2 <:+ text := by
  cases text with
  | nil => exact List.suffix_refl _
  | cons mark text =>
      simp only [scanExponent]
      split_ifs
      · exact ((List.dropWhile_suffix _).trans (scanSign_suffix text)).trans (List.suffix_cons _ _)
      · exact List.suffix_refl _

/-! ## Values -/

namespace Meaning

mutual

/-- The least weight of a text for a value. -/
def cost : Meaning → Nat
  | .null => 4
  | .bool true => 3
  | .bool false => 2
  | .number _ => 0
  | .str text => weight (quote text.toList)
  | .arr items => 2 + costItems items
  | .obj members => 2 + costMembers members

def costItems : List Meaning → Nat
  | [] => 0
  | item :: items => cost item + costItems items

def costMembers : List (String × Meaning) → Nat
  | [] => 0
  | (key, value) :: members =>
      weight (quote key.toList) + cost value + costMembers members

end

end Meaning

/-- The least weight of a text for a value. -/
def cost (value : Json) : Nat :=
  value.meaning.cost

/-- Share of one member in the cost of its dictionary. -/
def memberCost (member : String × Json) : Nat :=
  weight (quote member.1.toList) + cost member.2

theorem cost_eq_of_same {left right : Json} (same : Same left right) :
    cost left = cost right := by
  unfold cost
  rw [same]

@[simp] theorem cost_arr (items : List Json) :
    cost (.arr items) = 2 + (items.map cost).sum := by
  have sum : ∀ items : List Json,
      Meaning.costItems (items.map meaning) = (items.map cost).sum := by
    intro items
    induction items with
    | nil => rfl
    | cons item items ih =>
        simp [Meaning.costItems, ih, cost]
  rw [cost, meaning_arr, Meaning.cost, sum]

@[simp] theorem cost_obj (members : List (String × Json)) :
    cost (.obj members) = 2 + (members.map memberCost).sum := by
  have sum : ∀ members : List (String × Meaning), Meaning.costMembers members =
        (members.map fun member =>
          weight (quote member.1.toList) + member.2.cost).sum := by
    intro members
    induction members with
    | nil => rfl
    | cons member members ih =>
        simp [Meaning.costMembers, ih]
  rw [cost, meaning_obj, Meaning.cost, sum]
  rw [((Sorting.sortedBy_perm Prod.fst _).map _).sum_eq, List.map_map]
  rfl

theorem cost_null : cost .null = 4 := rfl

theorem cost_true : cost (.bool true) = 3 := rfl

theorem cost_false : cost (.bool false) = 2 := rfl

@[simp] theorem cost_int (value : Int) : cost (.int value) = 0 := rfl

@[simp] theorem cost_dec (value : Decimal) : cost (.dec value) = 0 := rfl

theorem cost_str (text : String) : cost (.str text) = weight (quote text.toList) := rfl

theorem memberCost_setItem (key : String) (value : Json) (members : List (String × Json)) :
    ((setItem key value members).map memberCost).sum ≤
      (members.map memberCost).sum + memberCost (key, value) := by
  induction members with
  | nil => simp [setItem]
  | cons member members ih =>
      unfold setItem
      split_ifs with found
      · simp only [List.map_cons, List.sum_cons]
        omega
      · simp only [List.map_cons, List.sum_cons]
        omega

/-- Assigning pairs to a dictionary never costs more than the pairs. -/
theorem memberCost_dictOf (pairs : List (String × Json)) :
    ((dictOf pairs).map memberCost).sum ≤ (pairs.map memberCost).sum := by
  have run : ∀ (pairs members : List (String × Json)),
      ((pairs.foldl (fun members pair => setItem pair.1 pair.2 members)
        members).map memberCost).sum ≤
      (members.map memberCost).sum + (pairs.map memberCost).sum := by
    intro pairs
    induction pairs with
    | nil => simp
    | cons pair pairs ih =>
        intro members
        have step : ((setItem pair.1 pair.2 members).map memberCost).sum ≤
            (members.map memberCost).sum + memberCost pair :=
          memberCost_setItem pair.1 pair.2 members
        have later := ih (setItem pair.1 pair.2 members)
        simp only [List.foldl_cons, List.map_cons, List.sum_cons]
        omega
  simpa [dictOf] using run pairs []

theorem weight_of_scanNumber (scanned : scanNumber text = some (value, rest)) :
    cost value + weight rest ≤ weight text := by
  unfold scanNumber at scanned
  obtain ⟨⟨whole, afterWhole⟩, wholeScanned, result⟩ := Option.bind_eq_some_iff.mp scanned
  have suffix : (scanExponent (scanFraction afterWhole).2).2 <:+ text :=
    (((scanExponent_suffix _).trans (scanFraction_suffix _)).trans
      (scanWhole_suffix wholeScanned)).trans (scanMinus_suffix text)
  have bounded := weight_le_of_suffix suffix
  simp only at result
  split_ifs at result
  · cases result
    simpa using bounded
  · cases result
    simpa using bounded

theorem weight_of_scanLiteral {letters : List Char} {found : Json}
    (scanned : scanLiteral letters value text = some (found, rest)) :
    found = value ∧ weight letters + weight rest = weight text := by
  unfold scanLiteral at scanned
  split_ifs at scanned with isPrefix
  · cases scanned
    obtain ⟨tail, rfl⟩ := isPrefix
    simp

theorem weight_of_scanKey {key : String} (scanned : scanKey fuel text = some (key, rest)) :
    weight (quote key.toList) + weight rest ≤ weight text := by
  unfold scanKey at scanned
  split at scanned
  · rename_i text
    obtain ⟨⟨chars, after⟩, string, continued⟩ := Option.bind_eq_some_iff.mp scanned
    have stringWeight := weight_of_scanString string
    split at continued
    · rename_i tail afterSpace
      cases continued
      have spaced := weight_skipSpace_le after
      have spacedTail := weight_skipSpace_le tail
      simp only at afterSpace stringWeight
      rw [afterSpace, weight_cons] at spaced
      have mark : weight ['"'] = 1 := by decide
      rw [weight_cons, mark, weight_quote, String.toList_ofList]
      dsimp only
      omega
    · cases continued
  · cases scanned

/-- Every text scanned as a value weighs at least the value's cost. -/
def ValueWeighs (fuel : Nat) : Prop :=
  ∀ text value rest, scanValue fuel text = some (value, rest) →
    cost value + weight rest ≤ weight text

/-- `ValueWeighs` for the items of a list and its closing bracket. -/
def ItemsWeigh (fuel : Nat) : Prop :=
  ∀ text items rest, scanItems fuel text = some (items, rest) →
    (items.map cost).sum + 1 + weight rest ≤ weight text

/-- `ValueWeighs` for the members of a dictionary and its closing brace. -/
def MembersWeigh (fuel : Nat) : Prop :=
  ∀ text members rest, scanMembers fuel text = some (members, rest) →
    (members.map memberCost).sum + 1 + weight rest ≤ weight text

theorem weight_tail_of_head? (first : text.head? = some char) :
    weight text = weight [char] + weight text.tail := by
  cases text with
  | nil => cases first
  | cons head tail =>
      cases first
      exact weight_cons char tail

theorem valueWeighs_succ (itemsWeigh : ItemsWeigh fuel) (membersWeigh : MembersWeigh fuel) :
    ValueWeighs (fuel + 1) := by
  intro text value rest scanned
  cases text with
  | nil => simp [scanValue] at scanned
  | cons char text =>
      have spaced := weight_skipSpace_le text
      simp only [scanValue] at scanned
      split_ifs at scanned with string list emptyList dict emptyDict null true
        false
      · obtain ⟨⟨chars, after⟩, literal, result⟩ := Option.map_eq_some_iff.mp scanned
        cases result
        subst string
        have literalWeight := weight_of_scanString literal
        have mark : weight ['"'] = 1 := by decide
        rw [weight_cons, mark, cost_str, String.toList_ofList, weight_quote]
        dsimp only
        omega
      · cases scanned
        subst list
        have split := weight_tail_of_head? emptyList
        have opening : weight ['['] = 1 := by decide
        have closing : weight [']'] = 1 := by decide
        rw [weight_cons, opening, cost_arr]
        simp only [List.map_nil, List.sum_nil]
        omega
      · obtain ⟨⟨items, after⟩, inside, result⟩ := Option.map_eq_some_iff.mp scanned
        cases result
        subst list
        have insideWeight := itemsWeigh _ _ _ inside
        have opening : weight ['['] = 1 := by decide
        rw [weight_cons, opening, cost_arr]
        dsimp only
        omega
      · cases scanned
        subst dict
        have split := weight_tail_of_head? emptyDict
        have opening : weight ['{'] = 1 := by decide
        have closing : weight ['}'] = 1 := by decide
        rw [weight_cons, opening, cost_obj]
        simp only [List.map_nil, List.sum_nil]
        omega
      · obtain ⟨⟨members, after⟩, inside, result⟩ := Option.map_eq_some_iff.mp scanned
        cases result
        subst dict
        have insideWeight := membersWeigh _ _ _ inside
        have assigned := memberCost_dictOf members
        have opening : weight ['{'] = 1 := by decide
        rw [weight_cons, opening, cost_obj]
        dsimp only
        omega
      · obtain ⟨rfl, letters⟩ := weight_of_scanLiteral scanned
        subst null
        have total : weight ['n'] + weight ['u', 'l', 'l'] = 4 := by decide
        rw [weight_cons, cost_null]
        omega
      · obtain ⟨rfl, letters⟩ := weight_of_scanLiteral scanned
        subst true
        have total : weight ['t'] + weight ['r', 'u', 'e'] = 3 := by decide
        rw [weight_cons, cost_true]
        omega
      · obtain ⟨rfl, letters⟩ := weight_of_scanLiteral scanned
        subst false
        have total : weight ['f'] + weight ['a', 'l', 's', 'e'] = 2 := by decide
        rw [weight_cons, cost_false]
        omega
      · exact weight_of_scanNumber scanned

theorem itemsWeigh_succ (valueWeighs : ValueWeighs fuel) (itemsWeigh : ItemsWeigh fuel) :
    ItemsWeigh (fuel + 1) := by
  intro text items rest scanned
  simp only [scanItems] at scanned
  obtain ⟨⟨item, after⟩, first, continued⟩ := Option.bind_eq_some_iff.mp scanned
  have firstWeight := valueWeighs _ _ _ first
  have spaced := weight_skipSpace_le after
  simp only at continued
  split at continued
  · rename_i tail afterSpace
    cases continued
    have closing : weight [']'] = 1 := by decide
    rw [afterSpace, weight_cons, closing] at spaced
    simp only [List.map_cons, List.map_nil, List.sum_cons, List.sum_nil]
    omega
  · rename_i tail afterSpace
    obtain ⟨⟨others, final⟩, later, result⟩ := Option.map_eq_some_iff.mp continued
    cases result
    have laterWeight := itemsWeigh _ _ _ later
    have spacedTail := weight_skipSpace_le tail
    rw [afterSpace, weight_cons] at spaced
    simp only [List.map_cons, List.sum_cons]
    omega
  · cases continued

theorem membersWeigh_succ (valueWeighs : ValueWeighs fuel) (membersWeigh : MembersWeigh fuel) :
    MembersWeigh (fuel + 1) := by
  intro text members rest scanned
  simp only [scanMembers] at scanned
  obtain ⟨⟨key, afterKey⟩, keyScanned, continued⟩ := Option.bind_eq_some_iff.mp scanned
  obtain ⟨⟨value, after⟩, first, continued⟩ := Option.bind_eq_some_iff.mp continued
  have keyWeight := weight_of_scanKey keyScanned
  have firstWeight := valueWeighs _ _ _ first
  have spaced := weight_skipSpace_le after
  simp only at continued firstWeight
  split at continued
  · rename_i tail afterSpace
    cases continued
    have closing : weight ['}'] = 1 := by decide
    rw [afterSpace, weight_cons, closing] at spaced
    simp only [List.map_cons, List.map_nil, List.sum_cons, List.sum_nil, memberCost]
    omega
  · rename_i tail afterSpace
    obtain ⟨⟨others, final⟩, later, result⟩ := Option.map_eq_some_iff.mp continued
    cases result
    have laterWeight := membersWeigh _ _ _ later
    have spacedTail := weight_skipSpace_le tail
    rw [afterSpace, weight_cons] at spaced
    simp only [List.map_cons, List.sum_cons, memberCost]
    omega
  · cases continued

theorem scans_weigh (fuel : Nat) : ValueWeighs fuel ∧ ItemsWeigh fuel ∧ MembersWeigh fuel := by
  induction fuel with
  | zero =>
      refine ⟨?_, ?_, ?_⟩
      · intro text value rest scanned
        simp [scanValue] at scanned
      · intro text items rest scanned
        simp [scanItems] at scanned
      · intro text members rest scanned
        simp [scanMembers] at scanned
  | succ fuel ih =>
      obtain ⟨valueWeighs, itemsWeigh, membersWeigh⟩ := ih
      exact ⟨valueWeighs_succ itemsWeigh membersWeigh, itemsWeigh_succ valueWeighs itemsWeigh,
        membersWeigh_succ valueWeighs membersWeigh⟩

/-- A text weighs at least as much as the value it loads as. -/
theorem cost_le_weight_of_loads (loaded : loads text = some value) :
    cost value ≤ weight text := by
  unfold loads at loaded
  obtain ⟨⟨found, rest⟩, scanned, result⟩ := Option.bind_eq_some_iff.mp loaded
  have scannedWeight := (scans_weigh _).1 _ _ _ scanned
  have spaced := weight_skipSpace_le text
  simp only at result
  split_ifs at result
  cases result
  omega

end Foundation.Json
