import SanTanHeights.Foundation.DecimalText
import SanTanHeights.Foundation.JsonLiteral
import SanTanHeights.Foundation.JsonWeight

/-!
# Canonical JSON text

The two passes of `shared/canonical_json.py`: `canonical` sorts dictionaries
and replaces every number by a tagged dictionary that holds its normalized
text, and `encode` writes the result, emitting tagged dictionaries raw.  No
caller modelled here passes `set_like_paths`, so lists keep their order.  A
`none` is a raised exception.
-/

namespace SanTanHeights.Shared

open Foundation Foundation.Json Foundation.Sorting

/-! ## The source -/

/-- `str(value)` on an `int`, which is limited in length. -/
def strInt (value : Int) : Option (List Char) :=
  if Decimal.numDigits value.natAbs ≤ maxStrDigits then
    some (positional (decide (value < 0)) (Nat.toDigits 10 value.natAbs) [])
  else none

/-- `normalize_number` on a finite `Decimal`. -/
def normalizeDecimal (value : Decimal) : Option (List Char) :=
  if value.coefficient = 0 then some ['0']
  else
    value.normalize.map fun normalized =>
      let text := normalized.formatF
      if text.contains '.' then
        Decimal.rstrip '.' (Decimal.rstrip '0' text)
      else text

/-- The key that tags the text of a number. -/
def canonicalNumber : String := "__canonical_number__"

/-- The tagged dictionary that stands for a number. -/
def tagNumber (text : List Char) : Json :=
  .obj [(canonicalNumber, .str (String.ofList text))]

mutual

/-- `_canonical`.  Keys are put in order after their values are converted,
which raises the same exceptions. -/
def canonical : Json → Option Json
  | .null => some .null
  | .bool value => some (.bool value)
  | .str value => some (.str value)
  | .int value => (strInt value).map tagNumber
  | .dec value => (normalizeDecimal value).map tagNumber
  | .arr items => (canonicalItems items).map .arr
  | .obj members =>
      (canonicalMembers members).map fun converted =>
        .obj (sortedBy Prod.fst converted)

def canonicalItems : List Json → Option (List Json)
  | [] => some []
  | item :: items =>
      (canonical item).bind fun first =>
        (canonicalItems items).map fun others => first :: others

def canonicalMembers :
    List (String × Json) → Option (List (String × Json))
  | [] => some []
  | (key, value) :: members =>
      (canonical value).bind fun first =>
        (canonicalMembers members).map fun others => (key, first) :: others

end

/-- The value of a dictionary whose only key is the number tag. -/
def taggedValue : List (String × Json) → Option Json
  | [(key, value)] => if key = canonicalNumber then some value else none
  | _ => none

mutual

/-- `_encode`.  A tagged dictionary is emitted as it is; when it holds
anything but a text, joining it or decoding it afterwards raises. -/
def encode : Json → Option (List Char)
  | .null => some ['n', 'u', 'l', 'l']
  | .bool true => some ['t', 'r', 'u', 'e']
  | .bool false => some ['f', 'a', 'l', 's', 'e']
  | .str value => some (quote value.toList)
  | .int value => strInt value
  | .dec _ => none
  | .arr items =>
      (encodeItems items).map fun texts => '[' :: (joinComma texts ++ [']'])
  | .obj members =>
      match taggedValue members with
      | some (.str text) => some text.toList
      | some _ => none
      | none =>
          (encodeMembers members).map fun texts =>
            '{' :: (joinComma texts ++ ['}'])

def encodeItems : List Json → Option (List (List Char))
  | [] => some []
  | item :: items =>
      (encode item).bind fun first =>
        (encodeItems items).map fun others => first :: others

def encodeMembers : List (String × Json) → Option (List (List Char))
  | [] => some []
  | (key, value) :: members =>
      (encode value).bind fun first =>
        (encodeMembers members).map fun others =>
          (quote key.toList ++ ':' :: first) :: others

end

/-- The characters of `canonical_json(value)`. -/
def canonicalText (value : Json) : Option (List Char) :=
  (canonical value).bind encode

/-- `canonical_json(value)`. -/
def canonicalJson (value : Json) : Option String :=
  (canonicalText value).map String.ofList

/-! ## One pass -/

theorem canonicalItems_eq_mapM (items : List Json) :
    canonicalItems items = items.mapM canonical := by
  induction items with
  | nil => rfl
  | cons item items ih =>
      simp [canonicalItems, ih, Option.map_eq_bind]

theorem canonicalMembers_eq_mapM (members : List (String × Json)) :
    canonicalMembers members = members.mapM (memberValue canonical) := by
  induction members with
  | nil => rfl
  | cons member members ih =>
      simp [canonicalMembers, ih, memberValue, Option.map_eq_bind, Option.bind_assoc]

theorem encodeItems_eq_mapM (items : List Json) : encodeItems items = items.mapM encode := by
  induction items with
  | nil => rfl
  | cons item items ih =>
      simp [encodeItems, ih, Option.map_eq_bind]

/-- A written member, when its value can be written. -/
def writtenMember (text : Json → Option (List Char)) (member : String × Json) :
    Option (List Char) :=
  (text member.2).map fun value => quote member.1.toList ++ ':' :: value

theorem encodeMembers_eq_mapM (members : List (String × Json)) :
    encodeMembers members = members.mapM (writtenMember encode) := by
  induction members with
  | nil => rfl
  | cons member members ih =>
      simp [encodeMembers, ih, writtenMember, Option.map_eq_bind, Option.bind_assoc]

@[simp] theorem canonicalText_null : canonicalText .null = some ['n', 'u', 'l', 'l'] := rfl

@[simp] theorem canonicalText_true : canonicalText (.bool true) = some ['t', 'r', 'u', 'e'] := rfl

@[simp] theorem canonicalText_false :
    canonicalText (.bool false) = some ['f', 'a', 'l', 's', 'e'] := rfl

@[simp] theorem canonicalText_str (value : String) :
    canonicalText (.str value) = some (quote value.toList) := rfl

theorem encode_tagNumber (text : List Char) : encode (tagNumber text) = some text := by
  simp [tagNumber, encode, taggedValue]

@[simp] theorem canonicalText_int (value : Int) :
    canonicalText (.int value) = strInt value := by
  simp only [canonicalText, canonical]
  cases strInt value with
  | none => rfl
  | some text => exact encode_tagNumber text

@[simp] theorem canonicalText_dec (value : Decimal) :
    canonicalText (.dec value) = normalizeDecimal value := by
  simp only [canonicalText, canonical]
  cases normalizeDecimal value with
  | none => rfl
  | some text => exact encode_tagNumber text

theorem canonicalText_arr (items : List Json) :
    canonicalText (.arr items) = (items.mapM canonicalText).map fun texts =>
        '[' :: (joinComma texts ++ [']']) := by
  have composed : (items.mapM canonical).bind (List.mapM encode) =
      items.mapM canonicalText :=
    Traverse.mapM_bind_mapM canonical encode items
  rw [← composed, canonicalText, canonical, canonicalItems_eq_mapM]
  cases items.mapM canonical with
  | none => rfl
  | some converted => simp [encode, encodeItems_eq_mapM]

/-- The only key is the number tag. -/
def IsTagged (members : List (String × Json)) : Prop :=
  members.map Prod.fst = [canonicalNumber]

instance (members : List (String × Json)) : Decidable (IsTagged members) :=
  inferInstanceAs (Decidable (_ = _))

theorem isTagged_iff_exists (members : List (String × Json)) :
    IsTagged members ↔ ∃ value, members = [(canonicalNumber, value)] := by
  constructor
  · intro tagged
    obtain ⟨member, rfl, key⟩ := List.map_eq_singleton_iff.mp tagged
    exact ⟨member.2, by rw [← key]⟩
  · rintro ⟨value, rfl⟩
    rfl

theorem taggedValue_eq_none_iff (members : List (String × Json)) :
    taggedValue members = none ↔ ¬ IsTagged members := by
  match members with
  | [] => simp [taggedValue, IsTagged]
  | [(key, value)] => simp [taggedValue, IsTagged]
  | _ :: _ :: _ => simp [taggedValue, IsTagged]

theorem canonicalText_tagged (value : Json) :
    canonicalText (.obj [(canonicalNumber, value)]) =
      match value with
      | .str text => some text.toList
      | _ => none := by
  cases value with
  | int number =>
      simp only [canonicalText, canonical, canonicalMembers]
      cases strInt number <;> rfl
  | dec number =>
      simp only [canonicalText, canonical, canonicalMembers]
      cases normalizeDecimal number <;> rfl
  | arr items =>
      simp only [canonicalText, canonical, canonicalMembers]
      cases canonicalItems items <;> rfl
  | obj members =>
      simp only [canonicalText, canonical, canonicalMembers]
      cases canonicalMembers members <;> rfl
  | null => rfl
  | bool flag => rfl
  | str text => rfl

variable {members : List (String × Json)} {text : List Char}

/-- Converting the values of a dictionary keeps its keys. -/
theorem map_fst_of_mapM_memberValue
    {convert : Json → Option Json} {converted : List (String × Json)}
    (result : members.mapM (memberValue convert) = some converted) :
    converted.map Prod.fst = members.map Prod.fst := by
  have related := Traverse.mapM_eq_some_iff.mp result
  induction related with
  | nil => rfl
  | cons first _ ih =>
      obtain ⟨value, _, rfl⟩ := Option.map_eq_some_iff.mp first
      rw [List.map_cons, List.map_cons, ih (Traverse.mapM_eq_some_iff.mpr ‹_›)]

theorem mapM_memberValue_sortedBy
    (convert : Json → Option Json) (members : List (String × Json)) :
    (sortedBy Prod.fst members).mapM (memberValue convert) =
      (members.mapM (memberValue convert)).map (sortedBy Prod.fst) := by
  refine Traverse.mapM_sortedBy ?_ members
  intro member result converted
  obtain ⟨value, _, rfl⟩ := Option.map_eq_some_iff.mp converted
  rfl

theorem canonicalText_obj (untagged : ¬ IsTagged members) :
    canonicalText (.obj members) =
      ((sortedBy Prod.fst members).mapM (writtenMember canonicalText)).map
        fun texts => '{' :: (joinComma texts ++ ['}']) := by
  have composed : ((sortedBy Prod.fst members).mapM
      (memberValue canonical)).bind (List.mapM (writtenMember encode)) =
      (sortedBy Prod.fst members).mapM (writtenMember canonicalText) := by
    rw [Traverse.mapM_bind_mapM]
    congr 1
    funext member
    simp only [memberValue, writtenMember, canonicalText]
    cases canonical member.2 <;> rfl
  rw [← composed, mapM_memberValue_sortedBy, canonicalText, canonical, canonicalMembers_eq_mapM]
  cases outcome : members.mapM (memberValue canonical) with
  | none => rfl
  | some converted =>
      have keys := map_fst_of_mapM_memberValue outcome
      have stillUntagged : ¬ IsTagged (sortedBy Prod.fst converted) := by
        intro tagged
        apply untagged
        have permuted := (sortedBy_perm Prod.fst converted).map Prod.fst
        rw [tagged, keys] at permuted
        exact (List.singleton_perm.mp permuted).symm
      have unmarked := (taggedValue_eq_none_iff _).mpr stillUntagged
      simp [encode, unmarked, encodeMembers_eq_mapM]

/-! ## Texts that exist -/

/-- Text of a value that has one. -/
def textOf (value : Json) : List Char :=
  (canonicalText value).getD []

theorem textOf_of_canonicalText {value : Json} (written : canonicalText value = some text) :
    textOf value = text := by
  rw [textOf, written, Option.getD_some]

/-- The text of an untagged dictionary, member by member in key order. -/
theorem canonicalText_obj_eq (untagged : ¬ IsTagged members)
    (written : canonicalText (.obj members) = some text) :
    (∀ member ∈ members, canonicalText member.2 = some (textOf member.2)) ∧
    text = '{' :: (joinComma
      ((sortedBy Prod.fst members).map (memberText textOf)) ++ ['}']) := by
  rw [canonicalText_obj untagged] at written
  obtain ⟨texts, memberTexts, rfl⟩ := Option.map_eq_some_iff.mp written
  obtain ⟨each, rfl⟩ := Traverse.eq_map_getD_of_mapM [] memberTexts
  have valueText : ∀ member ∈ sortedBy Prod.fst members,
      canonicalText member.2 = some (textOf member.2) := by
    intro member present
    obtain ⟨value, found, _⟩ := Option.map_eq_some_iff.mp (each member present)
    rw [textOf, found, Option.getD_some]
  refine ⟨fun member present => valueText member (by simpa using present), ?_⟩
  congr 3
  refine List.map_congr_left fun member present => ?_
  simp [writtenMember, memberText, valueText member present]

/-- The text of a list, item by item. -/
theorem canonicalText_arr_eq {items : List Json}
    (written : canonicalText (.arr items) = some text) :
    (∀ item ∈ items, canonicalText item = some (textOf item)) ∧
    text = '[' :: (joinComma (items.map textOf) ++ [']']) := by
  rw [canonicalText_arr] at written
  obtain ⟨texts, itemTexts, rfl⟩ := Option.map_eq_some_iff.mp written
  obtain ⟨each, rfl⟩ := Traverse.eq_map_getD_of_mapM [] itemTexts
  exact ⟨each, rfl⟩

/-- An untagged dictionary whose values have texts has a text. -/
theorem canonicalText_obj_of_forall (untagged : ¬ IsTagged members)
    (texts : ∀ member ∈ members, canonicalText member.2 = some (textOf member.2)) :
    canonicalText (.obj members) = some ('{' :: (joinComma
      ((sortedBy Prod.fst members).map (memberText textOf)) ++ ['}'])) := by
  rw [canonicalText_obj untagged]
  have written : ∀ member ∈ sortedBy Prod.fst members,
      writtenMember canonicalText member = some (memberText textOf member) := by
    intro member present
    have original := (mem_sortedBy Prod.fst members member).mp present
    rw [writtenMember, texts member original]
    rfl
  rw [Traverse.mapM_eq_some_map written]
  rfl

@[simp] theorem textOf_str (value : String) : textOf (.str value) = quote value.toList := rfl

@[simp] theorem canonicalText_ofOptional (value : Option String) :
    canonicalText (ofOptional value) = some (literal value) := by
  cases value <;> rfl

@[simp] theorem textOf_ofOptional (value : Option String) :
    textOf (ofOptional value) = literal value := by
  rw [textOf, canonicalText_ofOptional, Option.getD_some]

/-! ## Dictionaries that differ under one key -/

section OneKey

variable {front back : List (String × Json)} {key : String}
  {left right : Json}

end OneKey
end SanTanHeights.Shared
