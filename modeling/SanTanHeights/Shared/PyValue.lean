import SanTanHeights.Foundation.Sha256
import SanTanHeights.Shared.CanonicalJson

/-!
# Python values with floats

Values that facts, assumptions and estimates hold, over an arbitrary type of
floats, with their equality and their canonical JSON text.
-/

namespace SanTanHeights.Shared

open Foundation Foundation.Json Foundation.Sorting

/-! ## Floats -/

/-- What the code does with floats. -/
class PyFloat (F : Type) where
  /-- `float(number)`: nothing where it overflows. -/
  ofInt : Int → Option F
  zero : F
  hundred : F
  /-- `sum(values)`. -/
  sum : List F → F
  sub : F → F → F
  mul : F → F → F
  div : F → F → F
  /-- `value ** 2`: nothing where it overflows. -/
  square : F → Option F
  abs : F → F
  /-- `round(value, digits)`. -/
  round : F → Nat → F
  eq : F → F → Bool
  lt : F → F → Bool
  /-- `value == number` for an integer. -/
  eqInt : F → Int → Bool
  /-- `value < number` for an integer. -/
  ltInt : F → Int → Bool
  /-- `number < value` for an integer. -/
  intLt : Int → F → Bool
  /-- What `json.dumps` writes. -/
  text : F → List Char

/-- Rational numbers where the floats of a computation are exact. -/
instance : PyFloat ℚ where
  ofInt number := some number
  zero := 0
  hundred := 100
  sum values := values.sum
  sub left right := left - right
  mul left right := left * right
  div left right := left / right
  square value := some (value * value)
  abs value := if value < 0 then -value else value
  round value digits := (value * 10 ^ digits + 1 / 2).floor / (10 : ℚ) ^ digits
  eq left right := left == right
  lt left right := left < right
  eqInt value number := value == number
  ltInt value number := value < number
  intLt number value := (number : ℚ) < value
  text value := (positional (value < 0) (Nat.toDigits 10 value.num.natAbs) ['0'])

/-! ## Values -/

/-- A Python value of plain data. -/
inductive PyValue (F : Type) where
  | none
  | bool (value : Bool)
  | int (value : Int)
  | float (value : F)
  | str (value : String)
  | list (items : List (PyValue F))
  | tuple (items : List (PyValue F))
  | dict (members : List (String × PyValue F))

namespace PyValue

variable {F : Type}

/-- A text that may be missing. -/
def ofOptional : Option String → PyValue F
  | .none => none
  | some text => str text

/-- A tuple of texts. -/
def texts (values : List String) : PyValue F :=
  tuple (values.map str)

/-- A tuple of pairs of a key and a value. -/
def pairs (members : List (String × PyValue F)) : PyValue F :=
  tuple (members.map fun member => tuple [str member.1, member.2])

/-- `isinstance(value, (int, float)) and not isinstance(value, bool)`. -/
inductive Number (F : Type) where
  | int (value : Int)
  | float (value : F)

/-- A value that is a number and not a flag. -/
def number : PyValue F → Option (Number F)
  | int value => some (.int value)
  | float value => some (.float value)
  | _ => .none

variable [PyFloat F]

namespace Number

/-- `float(number)`. -/
def toFloat : Number F → Option F
  | int value => PyFloat.ofInt value
  | float value => some value

/-- `left == right`. -/
def eq : Number F → Number F → Bool
  | int left, int right => left == right
  | int left, float right => PyFloat.eqInt right left
  | float left, int right => PyFloat.eqInt left right
  | float left, float right => PyFloat.eq left right

/-- `left < right`. -/
def lt : Number F → Number F → Bool
  | int left, int right => left < right
  | int left, float right => PyFloat.intLt left right
  | float left, int right => PyFloat.ltInt left right
  | float left, float right => PyFloat.lt left right

end Number

/-- The number that a number or a flag counts as. -/
def numeric : PyValue F → Option (Number F)
  | bool value => some (.int (if value then 1 else 0))
  | value => value.number

/-- `left == right` on values that are not containers. -/
def scalarEq (left right : PyValue F) : Bool :=
  match left, right with
  | none, none => true
  | str text, str other => text == other
  | left, right =>
      match left.numeric, right.numeric with
      | some number, some other => number.eq other
      | _, _ => false

mutual

/-- `left == right`. -/
def pyEq : PyValue F → PyValue F → Bool
  | list items, right =>
      match right with
      | list others => pyEqItems items others
      | _ => false
  | tuple items, right =>
      match right with
      | tuple others => pyEqItems items others
      | _ => false
  | dict members, right =>
      match right with
      | dict others =>
          members.length == others.length && pyEqMembers members others
      | _ => false
  | none, right => scalarEq none right
  | bool value, right => scalarEq (bool value) right
  | int value, right => scalarEq (int value) right
  | float value, right => scalarEq (float value) right
  | str value, right => scalarEq (str value) right

def pyEqItems : List (PyValue F) → List (PyValue F) → Bool
  | [], others => others.isEmpty
  | item :: items, others =>
      match others with
      | [] => false
      | other :: others => pyEq item other && pyEqItems items others

def pyEqMembers :
    List (String × PyValue F) → List (String × PyValue F) → Bool
  | [], _ => true
  | (key, value) :: members, others =>
      (match others.lookup key with
        | some other => pyEq value other
        | .none => false) && pyEqMembers members others

end

mutual

/-- A value that a set can hold. -/
def hashable : PyValue F → Bool
  | list _ => false
  | dict _ => false
  | tuple items => hashableItems items
  | none => true
  | bool _ => true
  | int _ => true
  | float _ => true
  | str _ => true

def hashableItems : List (PyValue F) → Bool
  | [] => true
  | item :: items => hashable item && hashableItems items

end

/-! ## The text -/

mutual

/-- The characters of `json.dumps(value, sort_keys=True, ...)`. -/
def dumps : PyValue F → Option (List Char)
  | none => some ['n', 'u', 'l', 'l']
  | bool true => some ['t', 'r', 'u', 'e']
  | bool false => some ['f', 'a', 'l', 's', 'e']
  | int value => strInt value
  | float value => some (PyFloat.text value)
  | str value => some (quote value.toList)
  | list items =>
      (dumpsItems items).map fun texts => '[' :: (joinComma texts ++ [']'])
  | tuple items =>
      (dumpsItems items).map fun texts => '[' :: (joinComma texts ++ [']'])
  | dict members =>
      (dumpsMembers members).map fun written =>
        '{' :: (joinComma ((sortedBy Prod.fst written).map (memberText id)) ++ ['}'])

def dumpsItems : List (PyValue F) → Option (List (List Char))
  | [] => some []
  | item :: items =>
      (dumps item).bind fun first =>
        (dumpsItems items).map fun others => first :: others

def dumpsMembers :
    List (String × PyValue F) → Option (List (String × List Char))
  | [] => some []
  | (key, value) :: members =>
      (dumps value).bind fun first =>
        (dumpsMembers members).map fun others => (key, first) :: others

end

/-- `hashlib.sha256(json.dumps(value, ...).encode("utf-8")).hexdigest()`. -/
def sha256 (value : PyValue F) : Except String String :=
  (Outcome.orRaise value.dumps "value is not JSON serializable").map
    fun text => Sha256.hexdigest (String.ofList text)

theorem sha256_eq_ok {value : PyValue F} {fingerprint : String} :
    value.sha256 = .ok fingerprint ↔ ∃ text, value.dumps = some text ∧
        Sha256.hexdigest (String.ofList text) = fingerprint := by
  simp [sha256, Outcome.map_eq_ok]

/-! ## Values with a text -/

/-- `json.dumps` writes the value. -/
def Writable (value : PyValue F) : Prop :=
  ∃ text, value.dumps = some text

theorem exists_sha256_iff {value : PyValue F} :
    (∃ fingerprint, value.sha256 = .ok fingerprint) ↔ value.Writable := by
  constructor
  · rintro ⟨fingerprint, hashed⟩
    obtain ⟨text, written, _⟩ := sha256_eq_ok.mp hashed
    exact ⟨text, written⟩
  · rintro ⟨text, written⟩
    exact ⟨_, sha256_eq_ok.mpr ⟨text, written, rfl⟩⟩

@[simp] theorem writable_none : (none : PyValue F).Writable := ⟨_, rfl⟩

@[simp] theorem writable_bool (flag : Bool) : (bool flag : PyValue F).Writable := by
  cases flag <;> exact ⟨_, rfl⟩

@[simp] theorem writable_float (value : F) : (float value).Writable := ⟨_, rfl⟩

@[simp] theorem writable_str (text : String) : (str text : PyValue F).Writable := ⟨_, rfl⟩

@[simp] theorem writable_ofOptional (text : Option String) :
    (ofOptional text : PyValue F).Writable := by
  cases text
  · exact writable_none
  · exact writable_str _

/-- Integers of at most so many digits are written. -/
theorem writable_int {value : Int} (short : Decimal.numDigits value.natAbs ≤ maxStrDigits) :
    (int value : PyValue F).Writable :=
  ⟨_, if_pos short⟩

theorem exists_dumpsItems_iff {items : List (PyValue F)} :
    (∃ texts, dumpsItems items = some texts) ↔ ∀ item ∈ items, item.Writable := by
  induction items with
  | nil => simp [dumpsItems]
  | cons item items ih =>
      rw [List.forall_mem_cons, ← ih]
      simp only [dumpsItems, Option.bind_eq_some_iff, Option.map_eq_some_iff, Writable]
      constructor
      · rintro ⟨_, first, written, others, later, rfl⟩
        exact ⟨⟨first, written⟩, others, later⟩
      · rintro ⟨⟨first, written⟩, others, later⟩
        exact ⟨_, first, written, others, later, rfl⟩

theorem exists_dumpsMembers_iff {members : List (String × PyValue F)} :
    (∃ written, dumpsMembers members = some written) ↔ ∀ member ∈ members, member.2.Writable := by
  induction members with
  | nil => simp [dumpsMembers]
  | cons member members ih =>
      rw [List.forall_mem_cons, ← ih]
      simp only [dumpsMembers, Option.bind_eq_some_iff, Option.map_eq_some_iff, Writable]
      constructor
      · rintro ⟨_, first, written, others, later, rfl⟩
        exact ⟨⟨first, written⟩, others, later⟩
      · rintro ⟨⟨first, written⟩, others, later⟩
        exact ⟨_, first, written, others, later, rfl⟩

@[simp] theorem writable_tuple {items : List (PyValue F)} :
    (tuple items).Writable ↔ ∀ item ∈ items, item.Writable := by
  rw [← exists_dumpsItems_iff]
  simp [Writable, dumps]

@[simp] theorem writable_dict {members : List (String × PyValue F)} :
    (dict members).Writable ↔ ∀ member ∈ members, member.2.Writable := by
  rw [← exists_dumpsMembers_iff]
  simp [Writable, dumps]

@[simp] theorem writable_texts (values : List String) :
    (texts values : PyValue F).Writable := by
  simp [texts]

end PyValue

end SanTanHeights.Shared
