import Mathlib.Data.String.Basic
import SanTanHeights.Foundation.Decimal
import SanTanHeights.Foundation.Outcome

/-!
# JSON values

Values with arbitrary-size integers and finite decimals, dictionaries as
association lists in insertion order.  Two values are the same when they have
equal `meaning`s: numbers count by their exact value and dictionaries as maps.
-/

namespace Foundation

/-- A JSON value. -/
inductive Json where
  | null
  | bool (value : Bool)
  | int (value : Int)
  | dec (value : Decimal)
  | str (value : String)
  | arr (items : List Json)
  | obj (members : List (String × Json))
  deriving Repr

namespace Json

open Sorting

/-- Induction over values, with the hypothesis for every item of a list and
every member of a dictionary. -/
@[induction_eliminator]
theorem induct {motive : Json → Prop} (null : motive .null)
    (bool : ∀ value, motive (.bool value)) (int : ∀ value, motive (.int value))
    (dec : ∀ value, motive (.dec value)) (str : ∀ value, motive (.str value))
    (arr : ∀ items, (∀ item ∈ items, motive item) → motive (.arr items))
    (obj : ∀ members, (∀ member ∈ members, motive member.2) → motive (.obj members))
    (value : Json) :
    motive value := by
  refine @Json.rec motive (fun items => ∀ item ∈ items, motive item)
    (fun members => ∀ member ∈ members, motive member.2)
    (fun member => motive member.2)
    null bool int dec str arr obj ?_ ?_ ?_ ?_ ?_ value
  · intro item absent
    cases absent
  · intro head tail headHolds tailHolds item present
    rcases List.mem_cons.mp present with rfl | later
    · exact headHolds
    · exact tailHolds item later
  · intro member absent
    cases absent
  · intro head tail headHolds tailHolds member present
    rcases List.mem_cons.mp present with rfl | later
    · exact headHolds
    · exact tailHolds member later
  · intro key value holds
    exact holds

/-! ## Nested values -/

mutual

/-- A condition holds of a value and of every value nested in it. -/
def All (condition : Json → Prop) : Json → Prop
  | .arr items => condition (.arr items) ∧ AllItems condition items
  | .obj members => condition (.obj members) ∧ AllMembers condition members
  | value => condition value

def AllItems (condition : Json → Prop) : List Json → Prop
  | [] => True
  | item :: items => All condition item ∧ AllItems condition items

def AllMembers (condition : Json → Prop) : List (String × Json) → Prop
  | [] => True
  | (_, value) :: members =>
      All condition value ∧ AllMembers condition members

end

mutual

/-- A decimal occurs in a value. -/
def hasDecimal : Json → Bool
  | .dec _ => true
  | .arr items => itemsHaveDecimal items
  | .obj members => membersHaveDecimal members
  | _ => false

def itemsHaveDecimal : List Json → Bool
  | [] => false
  | item :: items => hasDecimal item || itemsHaveDecimal items

def membersHaveDecimal : List (String × Json) → Bool
  | [] => false
  | (_, value) :: members => hasDecimal value || membersHaveDecimal members

end

theorem all_arr (condition : Json → Prop) (items : List Json) :
    All condition (.arr items) ↔ condition (.arr items) ∧ ∀ item ∈ items, All condition item := by
  change condition (.arr items) ∧ AllItems condition items ↔ _
  refine and_congr_right fun _ => ?_
  clear * -
  induction items with
  | nil => simp [AllItems]
  | cons item items ih =>
      simp [AllItems, ih]

theorem all_obj (condition : Json → Prop) (members : List (String × Json)) :
    All condition (.obj members) ↔ condition (.obj members) ∧
        ∀ member ∈ members, All condition member.2 := by
  change condition (.obj members) ∧ AllMembers condition members ↔ _
  refine and_congr_right fun _ => ?_
  clear * -
  induction members with
  | nil => simp [AllMembers]
  | cons member members ih =>
      simp [AllMembers, ih]

theorem All.self {condition : Json → Prop} {value : Json} (holds : All condition value) :
    condition value := by
  cases value with
  | null => exact holds
  | bool flag => exact holds
  | int number => exact holds
  | dec number => exact holds
  | str text => exact holds
  | arr items => exact holds.1
  | obj members => exact holds.1

mutual

def decidableAll (condition : Json → Prop) [DecidablePred condition] :
    (value : Json) → Decidable (All condition value)
  | .null => inferInstanceAs (Decidable (condition .null))
  | .bool flag => inferInstanceAs (Decidable (condition (.bool flag)))
  | .int number => inferInstanceAs (Decidable (condition (.int number)))
  | .dec number => inferInstanceAs (Decidable (condition (.dec number)))
  | .str text => inferInstanceAs (Decidable (condition (.str text)))
  | .arr items =>
      have := decidableAllItems condition items
      inferInstanceAs (Decidable (condition (.arr items) ∧ AllItems condition items))
  | .obj members =>
      have := decidableAllMembers condition members
      inferInstanceAs (Decidable (condition (.obj members) ∧ AllMembers condition members))

def decidableAllItems (condition : Json → Prop) [DecidablePred condition] :
    (items : List Json) → Decidable (AllItems condition items)
  | [] => inferInstanceAs (Decidable True)
  | item :: items =>
      have := decidableAll condition item
      have := decidableAllItems condition items
      inferInstanceAs (Decidable (All condition item ∧ AllItems condition items))

def decidableAllMembers (condition : Json → Prop) [DecidablePred condition] :
    (members : List (String × Json)) → Decidable (AllMembers condition members)
  | [] => inferInstanceAs (Decidable True)
  | (_, value) :: members =>
      have := decidableAll condition value
      have := decidableAllMembers condition members
      inferInstanceAs (Decidable (All condition value ∧ AllMembers condition members))

end

/-- A dictionary does not repeat a key. -/
def KeysNodup : Json → Prop
  | .obj members => (members.map Prod.fst).Nodup
  | _ => True

instance : DecidablePred KeysNodup
  | .obj members => inferInstanceAs (Decidable (members.map Prod.fst).Nodup)
  | .null | .bool _ | .int _ | .dec _ | .str _ | .arr _ =>
      inferInstanceAs (Decidable True)

/-- No dictionary at any level repeats a key. -/
def DistinctKeys (value : Json) : Prop :=
  All KeysNodup value

instance (value : Json) : Decidable (DistinctKeys value) := decidableAll KeysNodup value

/-! ## Meaning -/

/-- What a value says, independent of number notation and member order. -/
inductive Meaning where
  | null
  | bool (value : Bool)
  | number (value : ℚ)
  | str (value : String)
  | arr (items : List Meaning)
  | obj (members : List (String × Meaning))

mutual

/-- Numbers become their exact value and dictionaries are listed by key. -/
def meaning : Json → Meaning
  | .null => .null
  | .bool value => .bool value
  | .int value => .number value
  | .dec value => .number value.toRat
  | .str value => .str value
  | .arr items => .arr (meaningItems items)
  | .obj members => .obj (sortedBy Prod.fst (meaningMembers members))

def meaningItems : List Json → List Meaning
  | [] => []
  | item :: items => meaning item :: meaningItems items

def meaningMembers : List (String × Json) → List (String × Meaning)
  | [] => []
  | (key, value) :: members => (key, meaning value) :: meaningMembers members

end

@[simp] theorem meaning_arr (items : List Json) :
    meaning (.arr items) = .arr (items.map meaning) := by
  change Meaning.arr (meaningItems items) = _
  congr 1
  induction items with
  | nil => rfl
  | cons item items ih =>
      simp [meaningItems, ih]

@[simp] theorem meaning_obj (members : List (String × Json)) :
    meaning (.obj members) = .obj (sortedBy Prod.fst
        (members.map fun member => (member.1, meaning member.2))) := by
  change Meaning.obj (sortedBy Prod.fst (meaningMembers members)) = _
  congr 2
  induction members with
  | nil => rfl
  | cons member members ih =>
      simp [meaningMembers, ih]

/-- The order of members does not matter. -/
theorem meaning_obj_sortedBy (members : List (String × Json)) :
    meaning (.obj (sortedBy Prod.fst members)) = meaning (.obj members) := by
  have commutes := map_sortedBy
    (fun member : String × Json => (member.1, meaning member.2))
    (Prod.fst : String × Meaning → String) members
  have sorted := sortedBy_eq_self (pairwise_sortedBy Prod.fst
    (members.map fun member => (member.1, meaning member.2)))
  rw [meaning_obj, meaning_obj]
  rw [← commutes] at sorted
  exact congrArg Meaning.obj (sorted.trans commutes)

/-- Equality of values: numbers exactly, dictionaries as maps. -/
def Same (left right : Json) : Prop :=
  left.meaning = right.meaning

/-- The members of a dictionary of equal meaning, up to order. -/
theorem members_perm_of_same {members others : List (String × Json)}
    (same : Same (.obj members) (.obj others)) :
    (members.map fun member => (member.1, meaning member.2)).Perm
      (others.map fun member => (member.1, meaning member.2)) := by
  simp only [Same, meaning_obj, Meaning.obj.injEq] at same
  exact perm_of_sortedBy_eq same

end Json
end Foundation

/-!
## Reading JSON values

Subscripts and casts that raise on a value of another shape.
-/

namespace Foundation.Json

open Outcome

/-- `value[key]` on a dictionary. -/
def item (key : String) : Json → Except String Json
  | .obj members => orRaise (members.lookup key) ("KeyError: " ++ key)
  | _ => .error "TypeError"

/-- The items of a list. -/
def items : Json → Except String (List Json)
  | .arr items => .ok items
  | _ => .error "TypeError"

/-- A text. -/
def text : Json → Except String String
  | .str text => .ok text
  | _ => .error "TypeError"

/-- The text of a string, and no text otherwise. -/
def textD : Json → String
  | .str text => text
  | _ => ""

theorem textD_str (text : String) : textD (.str text) = text := rfl

/-- An integer. -/
def integer : Json → Except String Int
  | .int number => .ok number
  | _ => .error "TypeError"

/-- `value[key]` as a text. -/
def textItem (key : String) (value : Json) : Except String String :=
  value.item key >>= text

/-- `value[key]` as a list of texts. -/
def textItems (key : String) (value : Json) : Except String (List String) := do
  let found ← value.item key
  let texts ← found.items
  texts.mapM text

end Foundation.Json
